/-
**Texts in lower case.**

Every character is replaced by its lower-case form. Two forms are not a single character of a table:
the capital dotted `İ` becomes `i` with a dot above it, and the capital `Σ` becomes `ς` at the end
of a word and `σ` elsewhere.

* `lowerChar_eq_toLower`: on ASCII characters this is the lower case of the core library.
-/

import TimedQuiz.Text.Lower.Table

namespace TimedQuiz.Text

namespace Lower

/-- The character belongs to the run. -/
def Run.contains (run : Run) (code : Nat) : Bool :=
  run.first ≤ code && code ≤ run.last && (code - run.first) % run.step == 0

/-- The code point is in one of the ranges. -/
def inRanges (ranges : List (Nat × Nat)) (code : Nat) : Bool :=
  ranges.any fun range => range.1 ≤ code && code ≤ range.2

/-- The character has case. -/
def isCased (c : Char) : Bool := inRanges casedRanges c.toNat

/-- The character is passed over when the case around another one is asked for. -/
def isIgnorable (c : Char) : Bool := inRanges ignorableRanges c.toNat

/-- The first character that is not passed over has case. -/
def startsCased (text : List Char) : Bool :=
  (text.dropWhile isIgnorable).head?.any isCased

/-- The lower-case form of a character that does not depend on the others. -/
def lowerChar (c : Char) : List Char :=
  if c = 'İ' then ['i', '\u0307']
  else
    match runs.find? fun run => run.contains c.toNat with
    | some run => [Char.ofNat (run.lower + (c.toNat - run.first))]
    | none => [c]

/-- The form of a capital `Σ` between the characters before it, the nearest first, and those behind
it: the end of a word is where a letter precedes and none follows. -/
def sigma (before behind : List Char) : Char :=
  if startsCased before && !startsCased behind then 'ς' else 'σ'

/-- The lower-case forms of the characters that follow some others, the nearest of which comes
first. -/
def lowerList (before : List Char) : List Char → List Char
  | [] => []
  | c :: behind =>
    (if c = 'Σ' then [sigma before behind] else lowerChar c) ++ lowerList (c :: before) behind

/-- On ASCII characters this is the lower case of the core library. -/
theorem lowerChar_eq_toLower (c : Char) (ascii : c.toNat < 128) : lowerChar c = [c.toLower] := by
  have all : ∀ code : Fin 128,
      lowerChar (Char.ofNat code.val) = [(Char.ofNat code.val).toLower] := by
    decide +kernel
  have one := all ⟨c.toNat, ascii⟩
  rwa [Char.ofNat_toNat] at one

end Lower

/-- The text in lower case. -/
def lower (text : String) : String := String.ofList (Lower.lowerList [] text.toList)

end TimedQuiz.Text
