/-
**Writing a decimal number.**

A layout says how a decimal is written: which sizes are written with all their places, which with
an exponent, and how the exponent looks. The layout is data of the format that uses it; the writer
is the same for every format.
-/

import TimedQuiz.Decimal.Shortest

namespace TimedQuiz.Decimal

/-- How the numbers of a format are written. -/
structure Layout where
  /-- The least exponent of the leading digit that is written with all places. -/
  leastPositional : Int
  /-- The greatest exponent of the leading digit that is written with all places. -/
  greatestPositional : Int
  /-- What follows a whole number written with all places. -/
  wholeSuffix : String
  /-- The mark between the digits and the exponent. -/
  exponentMark : String
  /-- What stands before an exponent that is not negative. -/
  positiveSign : String
  deriving DecidableEq, Repr

/-- Inserts a point after the first `places` of some digits. -/
def pointed (digits : List Char) (places : Nat) : List Char :=
  digits.take places ++ '.' :: digits.drop places

/-- A positive decimal in the words of a layout. -/
def Layout.write (layout : Layout) (decimal : Decimal) : String :=
  let digits := Nat.toDigits 10 decimal.digits
  let lead : Int := decimal.exponent + digits.length - 1
  if lead < layout.leastPositional ∨ layout.greatestPositional < lead then
    let mantissa := if digits.length = 1 then digits else pointed digits 1
    let sign := if lead < 0 then "-" else layout.positiveSign
    String.ofList mantissa ++ layout.exponentMark ++ sign ++ toString lead.natAbs
  else if 0 ≤ decimal.exponent then
    String.ofList (digits ++ List.replicate decimal.exponent.toNat '0') ++ layout.wholeSuffix
  else if 0 ≤ lead then
    String.ofList (pointed digits (lead.toNat + 1))
  else
    "0." ++ String.ofList (List.replicate (-lead - 1).toNat '0' ++ digits)

end TimedQuiz.Decimal
