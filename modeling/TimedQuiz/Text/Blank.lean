/-
**White space.**

The characters with the Unicode property White_Space, and texts without them at their ends.
-/

namespace TimedQuiz.Text

/-- The characters with the property White_Space. -/
def blankChars : List Char :=
  ['\t', '\n', '\x0b', '\x0c', '\r', ' ', '\u0085', '\u00a0', '\u1680', '\u2000', '\u2001',
   '\u2002', '\u2003', '\u2004', '\u2005', '\u2006', '\u2007', '\u2008', '\u2009', '\u200a',
   '\u2028', '\u2029', '\u202f', '\u205f', '\u3000']

/-- The character is white space. -/
def isBlank (c : Char) : Bool := blankChars.contains c

/-- What counts as white space in ASCII texts is white space. -/
theorem isBlank_of_isWhitespace (c : Char) (ascii : c.isWhitespace = true) : isBlank c = true := by
  simp only [Char.isWhitespace, Bool.or_eq_true, decide_eq_true_eq] at ascii
  rcases ascii with ((rfl | rfl) | rfl) | rfl <;> decide

/-- The characters without the white space at both ends. -/
def trimList (text : List Char) : List Char :=
  ((text.dropWhile isBlank).reverse.dropWhile isBlank).reverse

/-- The text without the white space at both ends. -/
def trim (text : String) : String := String.ofList (trimList text.toList)

end TimedQuiz.Text
