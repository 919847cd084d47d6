/-
**Requests and responses.**

A request names a method and a target, a path with an optional query, and may carry a body. A
response to a request for the head alone has no body.
-/

import TimedQuiz.Json
import TimedQuiz.Puzzle

namespace TimedQuiz.Http

/-- The methods told apart. -/
inductive Method
  | get
  | head
  | post
  | other
  deriving DecidableEq, Repr

/-- The method that asks for the whole of what a method asks for. -/
def Method.whole : Method → Method
  | .head => .get
  | method => method

/-- A request. -/
structure Request where
  method : Method
  target : String
  contentType : Option String := none
  body : String := ""
  deriving DecidableEq, Repr

namespace Request

/-- What stands behind the first colon with two slashes; without them there is nothing. -/
def behindScheme : List Char → List Char
  | ':' :: '/' :: '/' :: rest => rest
  | _ :: rest => behindScheme rest
  | [] => []

/-- The path of the target, up to a question mark or a number sign. A target that does not begin
with a slash may name a scheme and a server in front of the path. -/
def path (request : Request) : List Char :=
  let front := request.target.toList.takeWhile fun c => c != '?' && c != '#'
  match front with
  | '/' :: _ => front
  | _ => (behindScheme front).dropWhile (· != '/')

/-- The query of the target, behind the question mark; empty when there is none. -/
def query (request : Request) : String :=
  match request.target.toList.dropWhile fun c => c != '?' && c != '#' with
  | '?' :: rest => String.ofList rest
  | _ => ""

end Request

/-- The body of a response. -/
inductive Body
  | empty
  | text (content : String)
  | bytes (content : Bytes)
  deriving DecidableEq, Repr

/-- A response. -/
structure Response where
  status : Nat
  contentType : Option String := none
  cacheControl : Option String := none
  body : Body := .empty
  deriving DecidableEq, Repr

namespace Response

/-- The media type of JSON. -/
def jsonType : String := "application/json"

/-- A response with a JSON value. -/
def json (status : Nat) (value : Json) : Response :=
  { status, contentType := some jsonType, body := .text value.render }

/-- The response to a request for the head alone. -/
def headOnly (response : Response) : Response := { response with body := .empty }

end Response
end TimedQuiz.Http
