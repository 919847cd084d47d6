/-
**Decimal numbers between bounds.**

A number is written with at least one ASCII digit, and zeros in front do not matter. A plus sign may
stand in front of it, and a minus sign where negative numbers are admitted.
-/

namespace TimedQuiz.Decimal.Bounded

/-- The number written with some digits; there must be one. -/
def digits? (text : List Char) : Option Nat :=
  if text.isEmpty || !text.all Char.isDigit then none
  else some (text.foldl (fun value c => value * 10 + (c.toNat - '0'.toNat)) 0)

/-- Reads a number without a minus sign. -/
def natural? (least greatest : Nat) (text : List Char) : Option Nat :=
  let digits := match text with
    | '+' :: digits => digits
    | digits => digits
  (digits? digits).filter fun value => least ≤ value && value ≤ greatest

/-- Reads a number with either sign or none. -/
def integer? (least greatest : Int) (text : List Char) : Option Int :=
  let value : Option Int := match text with
    | '-' :: digits => (digits? digits).map fun value => -(value : Int)
    | '+' :: digits => (digits? digits).map fun value => (value : Int)
    | digits => (digits? digits).map fun value => (value : Int)
  value.filter fun value => least ≤ value && value ≤ greatest

end TimedQuiz.Decimal.Bounded
