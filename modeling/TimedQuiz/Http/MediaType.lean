/-
**Media types.**

A media type consists of a type, a slash, a subtype, and parameters behind semicolons. A plus sign
in the subtype, other than as its first character, sets off a suffix; of several the last one
counts. A parameter is a name, an equals sign, and a value, which may be quoted; spaces may stand in
front of a name and behind a quoted value. The readers here look at ASCII texts only: a text with
any other character is no media type.
-/

namespace TimedQuiz.Http

/-- The character may stand in a name, or in a value without quotes. -/
def isTokenChar (c : Char) : Bool :=
  c.isAlphanum || "!#$%&'*+-.^_\x60|~".toList.contains c

/-- The character may stand in quotes. -/
def isQuotedChar (c : Char) : Bool := ' ' ≤ c && c ≤ '~'

/-- What a reader of parameters has read last. -/
inductive ParameterState
  /-- Nothing of the next parameter. -/
  | start
  /-- A part of its name. -/
  | name
  /-- The equals sign. -/
  | equals
  /-- A part of its value. -/
  | value
  /-- The quote in front of its value. -/
  | openQuote
  /-- A part of its quoted value. -/
  | quoted
  /-- The quote behind its value. -/
  | closed
  deriving DecidableEq, Repr

namespace ParameterState

/-- Reads one character. -/
def step : ParameterState → Char → Option ParameterState
  | .start, c => if c = ' ' then some .start else if isTokenChar c then some .name else none
  | .name, c => if c = '=' then some .equals else if isTokenChar c then some .name else none
  | .equals, c => if c = '"' then some .openQuote else if isTokenChar c then some .value else none
  | .value, c => if c = ';' then some .start else if isTokenChar c then some .value else none
  | .openQuote, c => if isQuotedChar c then some .quoted else none
  | .quoted, c => if c = '"' then some .closed else if isQuotedChar c then some .quoted else none
  | .closed, c => if c = ' ' then some .closed else if c = ';' then some .start else none

/-- The parameters may end here. -/
def isFinal : ParameterState → Bool
  | .start => true
  | .name => false
  | .equals => true
  | .value => true
  | .openQuote => false
  | .quoted => false
  | .closed => true

end ParameterState

/-- The characters behind the first semicolon are parameters. -/
def areParameters (text : List Char) : Bool :=
  (text.foldlM ParameterState.step .start).any ParameterState.isFinal

/-- A media type without its parameters, in lower case. -/
structure MediaType where
  kind : List Char
  subtype : List Char
  /-- What follows the last plus sign. -/
  suffix : Option (List Char)
  deriving DecidableEq, Repr

namespace MediaType

/-- Divides a subtype at its last plus sign; a plus sign in front does not count. -/
def divide (text : List Char) : List Char × Option (List Char) :=
  let behind := (text.drop 1).reverse.takeWhile (· != '+')
  if behind.length < (text.drop 1).length then
    (text.take (text.length - behind.length - 1), some behind.reverse)
  else (text, none)

/-- Reads a media type. -/
def read? (text : String) : Option MediaType :=
  let text := text.toList
  let kind := text.takeWhile isTokenChar
  match text.dropWhile isTokenChar with
  | '/' :: rest =>
    let full := rest.takeWhile isTokenChar
    let complete := match rest.dropWhile isTokenChar with
      | [] => true
      | ';' :: parameters => !full.isEmpty && areParameters parameters
      | _ => false
    if kind.isEmpty || !complete then none
    else
      let (subtype, suffix) := divide (full.map Char.toLower)
      some { kind := kind.map Char.toLower, subtype, suffix }
  | _ => none

/-- The media type is JSON or a format built on it. -/
def isJson (type : MediaType) : Bool :=
  type.kind == "application".toList &&
    (type.subtype == "json".toList || type.suffix == some "json".toList)

end MediaType
end TimedQuiz.Http
