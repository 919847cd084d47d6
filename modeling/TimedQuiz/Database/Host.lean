/-
**Hosts of a database.**

A server is named by a host and a port, or by the path of a local socket. A host is a name, or an
address of eight groups in square brackets; a port that is not named is the standard one.
-/

import TimedQuiz.Database.Ipv6
import TimedQuiz.Decimal.Bounded
import TimedQuiz.Text.Divide
import TimedQuiz.Text.Form
import TimedQuiz.Text.Lower

namespace TimedQuiz.Database

/-- Where a server is. -/
inductive Host
  | named (host : String) (port : Option Nat)
  | socket (path : String)
  deriving DecidableEq, Repr

namespace Host

/-- The port used when none is named. -/
def standardPort : Nat := 27017

/-- The greatest port. -/
def greatestPort : Nat := 65535

/-- The text of a host. -/
def text : Host → String
  | .named host port => host ++ ":" ++ toString (port.getD standardPort)
  | .socket path => path

/-- A host with the port that is written behind it; zero is no port. -/
def withPort? (host : String) : Option (List Char) → Option Host
  | none => some (.named host none)
  | some port => (Decimal.Bounded.natural? 1 greatestPort port).map fun port =>
    .named host (some port)

/-- Reads an address in brackets, the first of which has been taken. -/
def readBracketed? (text : List Char) : Option Host :=
  match Text.divideFirst ']' text with
  | (address, some behind) => do
    let address ← Ipv6.read? address
    match behind with
    | [] => withPort? address.text none
    | ':' :: port => withPort? address.text (some port)
    | _ => none
  | (_, none) => none

/-- Reads a name, which is kept in lower case, and a port. -/
def readNamed? (text : List Char) : Option Host :=
  let (name, port) := Text.divideFirst ':' text
  if name.isEmpty then none else withPort? (Text.lower (String.ofList name)) port

/-- Reads a host. -/
def read? (text : List Char) : Option Host :=
  if ".sock".toList.isSuffixOf text then (Text.resolve? text).map .socket
  else
    match text with
    | '[' :: rest => readBracketed? rest
    | _ => readNamed? text

end Host
end TimedQuiz.Database
