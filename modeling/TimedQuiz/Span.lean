/-
**Lengths of time.**

Every clock of the library counts nanoseconds from a start of its own, so a point in time and a
length of time are the same kind of number. What the program prints are whole milliseconds and
whole seconds; both are bounded by the largest unsigned 64-bit number.
-/

namespace TimedQuiz

/-- A length of time in nanoseconds, or the reading of a clock that started at zero. -/
abbrev Span := Nat

namespace Span

/-- The largest number that a printed count of milliseconds can show. -/
def countLimit : Nat := 0xFFFFFFFFFFFFFFFF

/-- The span of a number of milliseconds. -/
def ofMillis (millis : Nat) : Span := millis * 1000000

/-- The span of a number of seconds and a fraction in nanoseconds. -/
def ofSeconds (seconds nanos : Nat) : Span := seconds * 1000000000 + nanos

/-- Whole milliseconds of a span, the fraction cut off. -/
def millis (span : Span) : Nat := span / 1000000

/-- Whole milliseconds of a span, bounded by `countLimit`. -/
def shownMillis (span : Span) : Nat := min (millis span) countLimit

/-- Seconds shown to the player for a number of milliseconds: a started second counts as whole. -/
def secondsOfMillis (millis : Nat) : Nat := (millis + 999) / 1000

/-- Seconds shown to the player for a span. -/
def shownSeconds (span : Span) : Nat := secondsOfMillis (shownMillis span)

end Span
end TimedQuiz
