/-
**Fetching a puzzle.**

A puzzle takes two requests: one for the description, at the address that is configured, and one for
the picture at the address in the description. The network is a parameter: it says what becomes of
each of the two requests, for every address it may be for. Both may be for the same address, and
answered differently. A fetch notes the addresses it has reached, in order.
-/

import TimedQuiz.Http.Status
import TimedQuiz.Puzzle
import TimedQuiz.Source.Line
import TimedQuiz.Text.Form

namespace TimedQuiz.Source

/-- What becomes of a request. -/
inductive Exchange
  /-- No connection could be made. -/
  | unreachable
  /-- The connection was closed without an answer. -/
  | dropped
  /-- There was an answer; its body is missing when the connection broke before its end. -/
  | answered (code : Nat) (body : Option Bytes)
  deriving DecidableEq, Repr

/-- What becomes of the requests of a fetch, which are numbered from zero, for each address. -/
abbrev Network := Nat → String → Exchange

/-- The network in which nobody can be reached. -/
def Network.offline : Network := fun _ _ => .unreachable

/-- Why a fetch brought no puzzle. -/
inductive Fault
  /-- A request could not be made, or its answer could not be read to the end. -/
  | transport (address : String)
  /-- An answer other than a success. -/
  | status (address : String) (code : Nat)
  /-- The description is not a text. -/
  | encoding
  | description (fault : Line.Fault)
  /-- The picture has no bytes. -/
  | picture
  /-- It took too long. -/
  | timeout
  deriving DecidableEq, Repr

/-- The text of a fault. -/
def Fault.message : Fault → String
  | .transport address => "failed to reach item source \x60" ++ address ++ "\x60"
  | .status address code =>
    "unexpected item source response status " ++ Http.statusText code ++ " for \x60" ++ address ++
      "\x60"
  | .encoding => "malformed puzzle payload: puzzle description is not UTF-8"
  | .description fault => "malformed puzzle payload: " ++ fault.message
  | .picture => "malformed puzzle payload: puzzle image is empty"
  | .timeout => "item fetch timed out"

/-- The code tells of a success. -/
def isSuccess (code : Nat) : Bool := 200 ≤ code && code ≤ 299

/-- What the request of a number brings: the body of a success. -/
def get (network : Network) (number : Nat) (address : String) : Except Fault Bytes :=
  match network number address with
  | .unreachable => .error (.transport address)
  | .dropped => .error (.transport address)
  | .answered code body =>
    if isSuccess code then
      match body with
      | some bytes => .ok bytes
      | none => .error (.transport address)
    else .error (.status address code)

/-- The description at an address, which is asked for first. -/
def describe (network : Network) (address : String) : Except Fault Line := do
  let bytes ← get network 0 address
  match Text.ofBytes? bytes with
  | none => .error .encoding
  | some text =>
    match Line.read text with
    | .ok line => .ok line
    | .error fault => .error (.description fault)

/-- The puzzle of a description; the picture is asked for with the second request. -/
def download (network : Network) (line : Line) : Except Fault Puzzle := do
  let image ← get network 1 line.address
  if image.isEmpty then .error .picture else .ok { image, solution := line.solution }

/-- Fetches one puzzle. -/
def fetch (network : Network) (address : String) : Except Fault Puzzle := do
  let line ← describe network address
  download network line

/-- The request of a number reaches someone at the address. -/
def reaches (network : Network) (number : Nat) (address : String) : Bool :=
  network number address != .unreachable

/-- The addresses that a fetch reaches, in order. -/
def visited (network : Network) (address : String) : List String :=
  let second := match describe network address with
    | .ok line => [line.address]
    | .error _ => []
  [address].filter (reaches network 0) ++ second.filter (reaches network 1)

end TimedQuiz.Source
