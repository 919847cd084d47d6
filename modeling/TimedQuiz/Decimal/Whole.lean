/-
**Whole numbers of 32 bits in decimal.**

A sign, which may be absent, and at least one ASCII digit. The digits are taken from the left, and
the first one that cannot be taken decides why a text is no such number: it is no digit, or the
value has become too large for its sign.
-/

namespace TimedQuiz.Decimal.Whole

/-- Why a text is no whole number of 32 bits. -/
inductive Fault
  | empty
  | digit
  | tooLarge
  | tooSmall
  deriving DecidableEq, Repr

/-- The text of a fault. -/
def Fault.message : Fault → String
  | .empty => "cannot parse integer from empty string"
  | .digit => "invalid digit found in string"
  | .tooLarge => "number too large to fit in target type"
  | .tooSmall => "number too small to fit in target type"

/-- The greatest number. -/
def greatest : Nat := 0x7FFFFFFF

/-- The magnitude of the least number. -/
def leastMagnitude : Nat := 0x80000000

/-- The value of an ASCII digit. -/
def digitValue (c : Char) : Nat := c.toNat - '0'.toNat

/-- Takes further digits into a value that may not pass a limit. -/
def takeDigits (limit : Nat) (beyond : Fault) (value : Nat) : List Char → Except Fault Nat
  | [] => .ok value
  | c :: rest =>
    if c.isDigit then
      let next := value * 10 + digitValue c
      if next ≤ limit then takeDigits limit beyond next rest else .error beyond
    else .error .digit

/-- The value of a text without a sign; there must be a digit. -/
def magnitude (limit : Nat) (beyond : Fault) (digits : List Char) : Except Fault Nat :=
  if digits.isEmpty then .error .digit else takeDigits limit beyond 0 digits

/-- Reads a whole number of 32 bits. -/
def read : List Char → Except Fault Int
  | [] => .error .empty
  | '+' :: digits => (magnitude greatest .tooLarge digits).map fun value => (value : Int)
  | '-' :: digits => (magnitude leastMagnitude .tooSmall digits).map fun value => -(value : Int)
  | digits => (magnitude greatest .tooLarge digits).map fun value => (value : Int)

end TimedQuiz.Decimal.Whole
