/-
**Usernames.**

A username has between 3 and 32 characters, each an ASCII letter, a digit, an underscore, a hyphen
or a point. The length is looked at first.
-/

namespace TimedQuiz.Username

/-- The least number of characters. -/
def minLength : Nat := 3

/-- The greatest number of characters. -/
def maxLength : Nat := 32

/-- Why a name is not admitted. -/
inductive Fault
  | length (count : Nat)
  | format
  deriving DecidableEq, Repr

/-- The character may stand in a username. -/
def admits (c : Char) : Bool := c.isAlphanum || c == '_' || c == '-' || c == '.'

/-- Checks a name. -/
def check (name : String) : Except Fault Unit :=
  if name.length < minLength ∨ maxLength < name.length then .error (.length name.length)
  else if name.toList.all admits then .ok ()
  else .error .format

/-- The name is admitted. -/
def isValid (name : String) : Bool := (check name).toOption.isSome

/-- The word for a fault. -/
def Fault.code : Fault → String
  | .length _ => "username_length"
  | .format => "username_format"

/-- The text of a fault. -/
def Fault.message : Fault → String
  | .length count =>
    "Username must be between " ++ toString minLength ++ " and " ++ toString maxLength ++
      " characters (got " ++ toString count ++ ")"
  | .format => "Username may only contain letters, digits, '_', '-' and '.'"

end TimedQuiz.Username
