/-
**Points in time of the calendar.**

A timestamp counts nanoseconds from the beginning of 1970, before it in negative numbers. It is
written in the Gregorian calendar in the form of RFC 3339, with as many digits of the second as are
needed. The form has four digits for the year, so a year before the year zero has no text.
-/

namespace TimedQuiz

/-- A point in time, in nanoseconds from the beginning of 1970. -/
structure Timestamp where
  nanos : Int
  deriving DecidableEq, Repr

namespace Timestamp

/-- The point in time some seconds and nanoseconds after the beginning of 1970. -/
def ofSeconds (seconds : Int) (nanos : Nat) : Timestamp := { nanos := seconds * 1000000000 + nanos }

/-- The point in time some milliseconds after the beginning of 1970. -/
def ofMillis (millis : Int) : Timestamp := { nanos := millis * 1000000 }

/-- Whole milliseconds from the beginning of 1970, cut off toward it. -/
def millis (time : Timestamp) : Int := time.nanos.tdiv 1000000

/-- A later point in time. -/
def after (time : Timestamp) (span : Nat) : Timestamp := { nanos := time.nanos + span }

/-! ### The calendar -/

/-- A day of the calendar. -/
structure Date where
  year : Int
  month : Nat
  day : Nat
  deriving DecidableEq, Repr

/-- The day of the calendar some days after the first of January 1970. Years are counted from
March here, so that a leap day is the last day of its year, and in eras of 400 years, which all
have the same number of days. -/
def dateOfDays (days : Int) : Date :=
  let shifted := days + 719468
  let era := shifted.fdiv 146097
  let dayOfEra := (shifted.fmod 146097).toNat
  let yearOfEra := (dayOfEra - dayOfEra / 1460 + dayOfEra / 36524 - dayOfEra / 146096) / 365
  let dayOfYear := dayOfEra - (365 * yearOfEra + yearOfEra / 4 - yearOfEra / 100)
  let monthFromMarch := (5 * dayOfYear + 2) / 153
  let day := dayOfYear - (153 * monthFromMarch + 2) / 5 + 1
  let month := if monthFromMarch < 10 then monthFromMarch + 3 else monthFromMarch - 9
  let year := era * 400 + yearOfEra + if month ≤ 2 then 1 else 0
  { year, month, day }

/-! ### The text -/

/-- A number with at least the given count of digits. -/
def padded (width value : Nat) : String :=
  let digits := Nat.toDigits 10 value
  String.ofList (List.replicate (width - digits.length) '0' ++ digits)

/-- A fraction of a second in nanoseconds: a point and nine digits without the zeros at the end,
and nothing for zero. -/
def fractionText (nanos : Nat) : String :=
  if nanos = 0 then ""
  else
    let digits := (padded 9 nanos).toList.reverse.dropWhile (· == '0')
    "." ++ String.ofList digits.reverse

/-- What stands for a time that has no text. -/
def invalidText : String := "invalid-timestamp"

/-- The time in the form of RFC 3339, in universal time. -/
def text (time : Timestamp) : String :=
  let seconds := time.nanos.fdiv 1000000000
  let nanos := (time.nanos.fmod 1000000000).toNat
  let date := dateOfDays (seconds.fdiv 86400)
  let ofDay := (seconds.fmod 86400).toNat
  if date.year < 0 ∨ 9999 < date.year then invalidText
  else
    padded 4 date.year.toNat ++ "-" ++ padded 2 date.month ++ "-" ++ padded 2 date.day ++ "T" ++
      padded 2 (ofDay / 3600) ++ ":" ++ padded 2 (ofDay / 60 % 60) ++ ":" ++
      padded 2 (ofDay % 60) ++ fractionText nanos ++ "Z"

end Timestamp
end TimedQuiz
