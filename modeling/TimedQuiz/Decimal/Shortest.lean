/-
**The shortest decimal of a double.**

A finite double stands for the interval of reals that round to it. Among the decimals in that
interval one with the fewest digits is chosen, of several the nearest to the double's exact value,
and of two equally near the one with an even last digit.

The search looks, for one digit, two digits and so on, at the two neighbours of the exact value on
the grid of decimals with that many digits: if any point of the grid lies in the interval, one of
these two does. All arithmetic is exact, on natural numbers.
-/

namespace TimedQuiz

/-- The decimal number `digits * 10 ^ exponent`. -/
structure Decimal where
  digits : Nat
  exponent : Int
  deriving DecidableEq, Repr

namespace Decimal

/-- A positive binary number `mantissa * 2 ^ exponent`, with the two ends of the interval of reals
that round to it told apart by `narrowBelow`: the neighbour below is at half the usual distance. -/
structure Binary where
  mantissa : Nat
  exponent : Int
  narrowBelow : Bool
  deriving DecidableEq, Repr

/-- The leading bit of a double's mantissa, which is not among its bits. -/
def hiddenBit : Nat := 0x10000000000000

/-- How many exponents the bits of a double can tell apart. -/
def exponentRange : Nat := 0x800

/-- The binary number of the bits of a positive finite double. -/
def Binary.ofBits (bits : UInt64) : Binary :=
  let fraction : Nat := bits.toNat % hiddenBit
  let biased : Nat := bits.toNat / hiddenBit % exponentRange
  if biased = 0 then { mantissa := fraction, exponent := -1074, narrowBelow := false }
  else
    { mantissa := hiddenBit + fraction
      exponent := (biased : Int) - 1075
      narrowBelow := fraction == 0 && biased != 1 }

/-- An exact value with the ends of its rounding interval, over one denominator. -/
structure Interval where
  low : Nat
  value : Nat
  high : Nat
  denominator : Nat
  /-- The ends themselves round to the value. -/
  closed : Bool
  deriving DecidableEq, Repr

/-- The interval of reals that round to a binary number. -/
def Binary.interval (binary : Binary) : Interval :=
  let up := 1 <<< (binary.exponent - 2).toNat
  { low := (4 * binary.mantissa - if binary.narrowBelow then 1 else 2) * up
    value := 4 * binary.mantissa * up
    high := (4 * binary.mantissa + 2) * up
    denominator := 1 <<< (2 - binary.exponent).toNat
    closed := binary.mantissa % 2 == 0 }

/-- A power of ten. -/
def tenTo (exponent : Nat) : Nat := Nat.pow 10 exponent

/-- The value `digits * 10 ^ exponent` rounds to the interval's double. -/
def Interval.contains (interval : Interval) (decimal : Decimal) : Bool :=
  let up := tenTo decimal.exponent.toNat
  let down := tenTo (-decimal.exponent).toNat
  let point := decimal.digits * up * interval.denominator
  if interval.closed then interval.low * down ≤ point && point ≤ interval.high * down
  else interval.low * down < point && point < interval.high * down

/-- The decimal exponent of a positive quotient: the `e` with `10 ^ e ≤ value < 10 ^ (e + 1)`. -/
def leadingExponent (numerator denominator : Nat) : Int :=
  let guess : Int := (Nat.toDigits 10 numerator).length - (Nat.toDigits 10 denominator).length
  if denominator * tenTo guess.toNat ≤ numerator * tenTo (-guess).toNat then guess else guess - 1

/-- The nearest point in the interval on the grid `10 ^ exponent`, an even one of two equally
near. -/
def Interval.nearest? (interval : Interval) (exponent : Int) : Option Decimal :=
  let numerator := interval.value * tenTo (-exponent).toNat
  let unit := interval.denominator * tenTo exponent.toNat
  let below : Decimal := { digits := numerator / unit, exponent }
  let above : Decimal := { digits := numerator / unit + 1, exponent }
  let twice := 2 * (numerator % unit)
  match interval.contains below, interval.contains above with
  | true, true =>
    if twice < unit || (twice == unit && below.digits % 2 == 0) then some below else some above
  | true, false => some below
  | false, true => some above
  | false, false => none

/-- The digits without the zeros at their end. -/
def trim (decimal : Decimal) : Nat → Decimal
  | 0 => decimal
  | steps + 1 =>
    if decimal.digits % 10 = 0 ∧ decimal.digits ≠ 0 then
      trim { digits := decimal.digits / 10, exponent := decimal.exponent + 1 } steps
    else decimal

/-- The shortest decimal of a positive finite double, given by its bits. -/
def shortest (bits : UInt64) : Decimal :=
  let interval := (Binary.ofBits bits).interval
  let lead := leadingExponent interval.value interval.denominator
  let grids := (List.range 17).map fun (count : Nat) => lead - count
  match grids.findSome? interval.nearest? with
  | some decimal => decimal.trim 17
  | none => { digits := 0, exponent := 0 }

end Decimal
end TimedQuiz
