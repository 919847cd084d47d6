/-
**What a request asks of the application.**

A request is checked in a fixed order: the path, the method, the media type of the body, its length,
its JSON, the shape of the value, and at last the rules for what it says. The first check that fails
decides how the request is rejected; a request that passes all is an action.
-/

import TimedQuiz.Feed.Message
import TimedQuiz.Http.MediaType
import TimedQuiz.Http.Message
import TimedQuiz.Request

namespace TimedQuiz.App

/-! ### Resources -/

/-- What can be addressed. -/
inductive Resource
  | health
  | feed
  | registration
  | login
  | session
  | answer
  | skip
  | finish
  | sound
  | picture
  | board
  /-- The rank of a player, whose name stands in the path as it is written there. -/
  | standing (written : List Char)
  deriving DecidableEq, Repr

/-- The path in front of a name on the leaderboard. -/
def standingPath : String := "/leaderboard/"

/-- The resources with a path of their own. -/
def namedResources : List (String × Resource) :=
  [("/healthcheck", .health), ("/sse", .feed), ("/auth/register", .registration),
   ("/auth/login", .login), ("/session", .session), ("/session/answer", .answer),
   ("/session/skip", .skip), ("/session/end", .finish), ("/session/sound", .sound),
   (pictureLocation, .picture), ("/leaderboard", .board)]

/-- The resource at a path. -/
def Resource.ofPath? (path : List Char) : Option Resource :=
  match namedResources.lookup (String.ofList path) with
  | some resource => some resource
  | none =>
    let front := standingPath.toList
    let name := path.drop front.length
    if path.take front.length = front && !name.isEmpty && !name.contains '/' then
      some (.standing name)
    else none

/-! ### Actions -/

/-- What the application is asked to do. -/
inductive Action
  | health
  | openFeed
  | register (credentials : Credentials)
  | login (credentials : Credentials)
  | start (credentials : Credentials)
  | look
  | answer (value : Int)
  | skip
  | finish
  | mute (muted : Bool)
  | picture
  | board (limit : Nat)
  | standing (username : String)
  deriving DecidableEq, Repr

/-- Why a request is no action. -/
inductive Rejection
  | unknownPath
  | wrongMethod
  | mediaType
  /-- The body has too many bytes. -/
  | tooLarge
  /-- The body is not JSON. -/
  | malformed
  /-- The body is JSON of another shape. -/
  | mismatch
  /-- The body breaks a rule. -/
  | invalid
  | query
  /-- The name in the path is not a text. -/
  | name
  deriving DecidableEq, Repr

/-- The status of a rejection. -/
def Rejection.status : Rejection → Nat
  | .unknownPath => 404
  | .wrongMethod => 405
  | .mediaType => 415
  | .tooLarge => 413
  | .malformed => 400
  | .mismatch => 422
  | .invalid => 400
  | .query => 400
  | .name => 400

/-! ### Reading requests -/

/-- The body of a request is declared to be JSON. -/
def declaresJson (request : Http.Request) : Bool :=
  ((request.contentType.bind Http.MediaType.read?).map Http.MediaType.isJson).getD false

/-- The greatest number of bytes of a body that is read. -/
def bodyLimit : Nat := 0x200000

/-- Reads the JSON body of a request. -/
def readBody {α : Type} (reader : Json.Reader α) (request : Http.Request) : Except Rejection α :=
  if !declaresJson request then .error .mediaType
  else if bodyLimit < request.body.utf8ByteSize then .error .tooLarge
  else
    match Json.readAll reader request.body.toList with
    | .ok value => .ok value
    | .error .mismatch => .error .mismatch
    | .error _ => .error .malformed

/-- Reads credentials that break no rule. -/
def readCredentials (request : Http.Request) : Except Rejection Credentials := do
  let credentials ← readBody Credentials.read request
  if credentials.isValid then .ok credentials else .error .invalid

/-- Reads how many places of the leaderboard are wanted. -/
def readLimit (request : Http.Request) : Except Rejection Nat :=
  match BoardQuery.read request.query with
  | .ok query => if query.violations.isEmpty then .ok query.limit else .error .invalid
  | .error _ => .error .query

/-- The name that is written in a path. -/
def readName (written : List Char) : Except Rejection String :=
  match Text.ofBytes? (Text.decodePercent (Text.bytesOf (String.ofList written))) with
  | some name => .ok name
  | none => .error .name

/-- What a request with a method asks of a resource. -/
def Action.at (request : Http.Request) : Resource → Http.Method → Except Rejection Action
  | .health, .get => .ok .health
  | .feed, .get => .ok .openFeed
  | .registration, .post => (readCredentials request).map .register
  | .login, .post => (readCredentials request).map .login
  | .session, .get => .ok .look
  | .session, .post => (readCredentials request).map .start
  | .answer, .post => (readBody readAnswer request).map .answer
  | .skip, .post => .ok .skip
  | .finish, .post => .ok .finish
  | .sound, .post => (readBody readMuted request).map .mute
  | .picture, .get => .ok .picture
  | .board, .get => (readLimit request).map .board
  | .standing written, .get => (readName written).map .standing
  | _, _ => .error .wrongMethod

/-- What a request asks; the head alone is asked for like the whole. -/
def Action.ofRequest (request : Http.Request) : Except Rejection Action :=
  match Resource.ofPath? request.path with
  | some resource => Action.at request resource request.method.whole
  | none => .error .unknownPath

end TimedQuiz.App
