/-
**Reading JSON in one pass.**

A reader takes what it wants from the front of a text and leaves the rest. The first problem met
from left to right is the one reported, and there are three kinds of problem: the text ends too
early, it is no JSON, or it is JSON of another shape than the one wanted.

Values that nobody wants are skipped: they must be well formed, but may be nested to any depth,
their numbers may be of any size, and escapes in their strings need not stand for a character.
-/

import TimedQuiz.Text.Hex

namespace TimedQuiz.Json

/-- Why a text cannot be read. -/
inductive Fault
  /-- The text ends too early. -/
  | truncated
  /-- The text is no JSON. -/
  | malformed
  /-- The text is JSON so far, but not of the shape wanted. -/
  | mismatch
  deriving DecidableEq, Repr

/-- Takes a value from the front of a text. -/
abbrev Reader (α : Type) := List Char → Except Fault (α × List Char)

/-! ### Blanks and words -/

/-- The characters that may stand between the parts of a JSON text. -/
def isBlank (c : Char) : Bool := c == ' ' || c == '\n' || c == '\t' || c == '\r'

/-- The text without the blanks at its front. -/
def skipBlanks (chars : List Char) : List Char := chars.dropWhile isBlank

/-- The text after the given characters, which must stand at its front. -/
def expect : List Char → List Char → Except Fault (List Char)
  | [], chars => .ok chars
  | _ :: _, [] => .error .truncated
  | wanted :: more, c :: rest => if c = wanted then expect more rest else .error .malformed

/-! ### Strings -/

/-- The number written by four hexadecimal digits. -/
def quad? (a b c d : Char) : Option Nat := do
  let p ← Text.Hex.value? a
  let q ← Text.Hex.value? b
  let r ← Text.Hex.value? c
  let s ← Text.Hex.value? d
  return ((p * 16 + q) * 16 + r) * 16 + s

/-- The problem with an escape that lacks its four digits: the text ends too early when fewer than
four bytes of it are left. -/
def shortQuad (chars : List Char) : Fault :=
  if (String.ofList chars).utf8ByteSize < 4 then .truncated else .malformed

/-- The unit is the first half of a pair. -/
def isHighSurrogate (unit : Nat) : Bool := 0xD800 ≤ unit && unit < 0xDC00

/-- The unit is the second half of a pair. -/
def isLowSurrogate (unit : Nat) : Bool := 0xDC00 ≤ unit && unit < 0xE000

/-- The character that a pair stands for. -/
def pairedChar (high low : Nat) : Char :=
  Char.ofNat (0x10000 + (high - 0xD800) * 0x400 + (low - 0xDC00))

/-- The character that stands for a character after a backslash. -/
def escaped? (c : Char) : Option Char :=
  if c = '"' ∨ c = '\\' ∨ c = '/' then some c
  else if c = 'b' then some '\x08'
  else if c = 'f' then some '\x0c'
  else if c = 'n' then some '\n'
  else if c = 'r' then some '\r'
  else if c = 't' then some '\t'
  else none

/-- Puts a character in front of a string that has been read. -/
def push (c : Char) :
    Except Fault (List Char × List Char) → Except Fault (List Char × List Char)
  | .ok (chars, rest) => .ok (c :: chars, rest)
  | .error fault => .error fault

/-- The string up to its closing quote. -/
def readQuoted : Reader (List Char)
  | [] => .error .truncated
  | '"' :: rest => .ok ([], rest)
  | '\\' :: 'u' :: a :: b :: c :: d :: rest =>
    match quad? a b c d with
    | none => .error .malformed
    | some unit =>
      if isLowSurrogate unit then .error .malformed
      else if isHighSurrogate unit then
        match rest with
        | [] => .error .truncated
        | ['\\'] => .error .truncated
        | '\\' :: 'u' :: e :: f :: g :: h :: later =>
          match quad? e f g h with
          | none => .error .malformed
          | some low =>
            if isLowSurrogate low then push (pairedChar unit low) (readQuoted later)
            else .error .malformed
        | '\\' :: 'u' :: short => .error (shortQuad short)
        | _ => .error .malformed
      else push (Char.ofNat unit) (readQuoted rest)
  | '\\' :: 'u' :: short => .error (shortQuad short)
  | ['\\'] => .error .truncated
  | '\\' :: c :: rest =>
    match escaped? c with
    | some plain => push plain (readQuoted rest)
    | none => .error .malformed
  | c :: rest => if c < ' ' then .error .malformed else push c (readQuoted rest)

/-- The text after a string that nobody wants. -/
def skipQuoted : List Char → Except Fault (List Char)
  | [] => .error .truncated
  | '"' :: rest => .ok rest
  | '\\' :: 'u' :: a :: b :: c :: d :: rest =>
    if (quad? a b c d).isSome then skipQuoted rest else .error .malformed
  | '\\' :: 'u' :: short => .error (shortQuad short)
  | ['\\'] => .error .truncated
  | '\\' :: c :: rest => if (escaped? c).isSome then skipQuoted rest else .error .malformed
  | c :: rest => if c < ' ' then .error .malformed else skipQuoted rest

/-! ### Numbers -/

/-- A number as it is read: a whole number that fits into 64 bits, or any other. -/
inductive Numeral
  | whole (value : Int)
  | real
  deriving DecidableEq, Repr

/-- Whole numbers below this bound are read exactly. -/
def wordBound : Nat := 0x10000000000000000

/-- Appends digits to a number while the result stays below the bound; what is left are the digits
that did not fit. -/
def accumulate (value : Nat) : List Char → Nat × List Char
  | [] => (value, [])
  | digit :: rest =>
    let next := value * 10 + (digit.toNat - 48)
    if next < wordBound then accumulate next rest else (value, digit :: rest)

/-- The number `value * 10 ^ exponent` is too large for a double. -/
def isBeyondDouble (value : Nat) (exponent : Int) : Bool :=
  value != 0 && decide (0 ≤ exponent) &&
    (decide (308 < exponent) ||
      (Float.ofNat value * Float.ofScientific 1 false exponent.toNat).isInf)

/-- A number with a fraction or an exponent; one too large for a double is malformed. -/
def realOf (value : Nat) (exponent : Int) (rest : List Char) : Except Fault (Numeral × List Char) :=
  if isBeyondDouble value exponent then .error .malformed else .ok (.real, rest)

/-- The text starts with a digit. -/
def startsWithDigit : List Char → Bool
  | c :: _ => c.isDigit
  | [] => false

/-- The digits at the front of a text where at least one is required, and the rest. -/
def someDigits (chars : List Char) : Except Fault (List Char × List Char) :=
  if startsWithDigit chars then .ok (chars.takeWhile Char.isDigit, chars.dropWhile Char.isDigit)
  else if chars.isEmpty then .error .truncated
  else .error .malformed

/-- The digits of a whole part, which has no zero in front of other digits, and the rest. -/
def wholeDigits (chars : List Char) : Except Fault (List Char × List Char) :=
  match someDigits chars with
  | .ok ('0' :: _ :: _, _) => .error .malformed
  | other => other

/-- The exponent after its mark, and the rest. -/
def readExponent (chars : List Char) : Except Fault (Int × List Char) := do
  let (negative, digitsText) := match chars with
    | '-' :: rest => (true, rest)
    | '+' :: rest => (false, rest)
    | rest => (false, rest)
  let (digits, rest) ← someDigits digitsText
  let size : Int := digits.foldl (fun value digit => value * 10 + (digit.toNat - 48)) 0
  return (if negative then -size else size, rest)

/-- The rest of a number after its whole part and its fraction. -/
def finishReal (value : Nat) (exponent : Int) (chars : List Char) :
    Except Fault (Numeral × List Char) :=
  match chars with
  | c :: rest =>
    if c = 'e' ∨ c = 'E' then do
      let (shift, later) ← readExponent rest
      realOf value (exponent + shift) later
    else realOf value exponent chars
  | [] => realOf value exponent chars

/-- The magnitude of the least number of 64 bits with a sign. -/
def leastMagnitude : Nat := 0x8000000000000000

/-- A whole number with its sign. Minus zero, and what does not fit into 64 bits with its sign, is
no whole number. -/
def signedWhole (negative : Bool) (value : Nat) : Numeral :=
  if !negative then .whole value
  else if value = 0 ∨ leastMagnitude < value then .real
  else .whole (-value)

/-- A number after its sign. -/
def readUnsigned (negative : Bool) (chars : List Char) : Except Fault (Numeral × List Char) := do
  let (digits, rest) ← wholeDigits chars
  let (value, unread) := accumulate 0 digits
  match rest with
  | '.' :: fraction =>
    let (places, later) ← someDigits fraction
    let (precise, dropped) := accumulate value places
    finishReal precise (unread.length - (places.length - dropped.length : Nat)) later
  | 'e' :: _ => finishReal value unread.length rest
  | 'E' :: _ => finishReal value unread.length rest
  | _ =>
    if unread.isEmpty then return (signedWhole negative value, rest)
    else realOf value unread.length rest

/-- The digits after a point or an exponent mark in a number that nobody wants. -/
def skipDigits (chars : List Char) : Except Fault (List Char) :=
  if startsWithDigit chars then .ok (chars.dropWhile Char.isDigit) else .error .malformed

/-- The text after the exponent of a number that nobody wants, if there is one. -/
def skipExponent (chars : List Char) : Except Fault (List Char) :=
  match chars with
  | c :: rest =>
    if c = 'e' ∨ c = 'E' then
      match rest with
      | '-' :: digits => skipDigits digits
      | '+' :: digits => skipDigits digits
      | digits => skipDigits digits
    else .ok chars
  | [] => .ok chars

/-- The text after a number that nobody wants, without its sign. -/
def skipUnsigned (chars : List Char) : Except Fault (List Char) := do
  let rest ← match chars with
    | '0' :: rest => if startsWithDigit rest then .error .malformed else .ok rest
    | _ => skipDigits chars
  match rest with
  | '.' :: fraction => skipExponent (← skipDigits fraction)
  | _ => skipExponent rest

/-! ### Skipping values -/

/-- An array or an object that has been opened and not yet closed. -/
inductive Frame
  | array
  | object
  deriving DecidableEq, Repr

/-- Where skipping stands: all is skipped, or a value stands next, within some frames. -/
inductive Progress
  | done (rest : List Char)
  | value (frames : List Frame) (chars : List Char)

/-- The text after a key and its colon, up to the value. -/
def skipKey (chars : List Char) : Except Fault (List Char) :=
  match skipBlanks chars with
  | [] => .error .truncated
  | '"' :: rest => do
    match skipBlanks (← skipQuoted rest) with
    | ':' :: later => return later
    | [] => .error .truncated
    | _ => .error .malformed
  | _ => .error .malformed

/-- The next value in the innermost frame. -/
def enter (frame : Frame) (outer : List Frame) (chars : List Char) : Except Fault Progress :=
  match frame with
  | .array => .ok (.value (frame :: outer) chars)
  | .object => do return .value (frame :: outer) (← skipKey chars)

/-- Closes frames as long as they end here. A value has just been skipped in the innermost frame,
unless `fresh` says that the frame has just been opened. -/
def closeFrames (fresh : Bool) : List Frame → List Char → Except Fault Progress
  | [], chars => .ok (.done chars)
  | frame :: outer, chars =>
    match skipBlanks chars with
    | [] => .error .truncated
    | c :: rest =>
      if frame = .array ∧ c = ']' then closeFrames false outer rest
      else if frame = .object ∧ c = '\x7d' then closeFrames false outer rest
      else if fresh then enter frame outer (c :: rest)
      else if c = ',' then enter frame outer rest
      else .error .malformed

/-- Skips the scalar, or opens the array or the object, at the front of a text. -/
def skipOne (frames : List Frame) (chars : List Char) : Except Fault Progress :=
  match skipBlanks chars with
  | [] => .error .truncated
  | 'n' :: rest => do closeFrames false frames (← expect ['u', 'l', 'l'] rest)
  | 't' :: rest => do closeFrames false frames (← expect ['r', 'u', 'e'] rest)
  | 'f' :: rest => do closeFrames false frames (← expect ['a', 'l', 's', 'e'] rest)
  | '-' :: rest => do closeFrames false frames (← skipUnsigned rest)
  | '"' :: rest => do closeFrames false frames (← skipQuoted rest)
  | '[' :: rest => closeFrames true (.array :: frames) rest
  | '\x7b' :: rest => closeFrames true (.object :: frames) rest
  | c :: rest =>
    if c.isDigit then do closeFrames false frames (← skipUnsigned (c :: rest))
    else .error .malformed

/-- Skips values, at most `bound` of them, until all frames are closed. -/
def skipWithin : Nat → List Frame → List Char → Except Fault (List Char)
  | 0, _, _ => .error .truncated
  | bound + 1, frames, chars =>
    match skipOne frames chars with
    | .error fault => .error fault
    | .ok (.done rest) => .ok rest
    | .ok (.value inner rest) => skipWithin bound inner rest

/-- The text after a value that nobody wants. A value takes at least one character, so no text has
more values than characters. -/
def skipValue (chars : List Char) : Except Fault (List Char) :=
  skipWithin (chars.length + 1) [] chars

/-! ### Wanted values -/

/-- What is wrong with a value of another kind than the one wanted: it is a mismatch if it is well
formed as far as it is looked at. -/
def wrongKind (chars : List Char) : Fault :=
  let judge {α : Type} : Except Fault α → Fault
    | .ok _ => .mismatch
    | .error fault => fault
  match skipBlanks chars with
  | [] => .truncated
  | 'n' :: rest => judge (expect ['u', 'l', 'l'] rest)
  | 't' :: rest => judge (expect ['r', 'u', 'e'] rest)
  | 'f' :: rest => judge (expect ['a', 'l', 's', 'e'] rest)
  | '-' :: rest => judge (readUnsigned true rest)
  | '"' :: rest => judge (readQuoted rest)
  | '[' :: _ => .mismatch
  | '\x7b' :: _ => .mismatch
  | c :: rest => if c.isDigit then judge (readUnsigned false (c :: rest)) else .malformed

/-- A string. -/
def readText : Reader String := fun chars =>
  match skipBlanks chars with
  | '"' :: rest => do
    let (content, later) ← readQuoted rest
    return (String.ofList content, later)
  | _ => .error (wrongKind chars)

/-- A truth value. -/
def readFlag : Reader Bool := fun chars =>
  match skipBlanks chars with
  | 't' :: rest => do return (true, ← expect ['r', 'u', 'e'] rest)
  | 'f' :: rest => do return (false, ← expect ['a', 'l', 's', 'e'] rest)
  | _ => .error (wrongKind chars)

/-- A number of either sign. -/
def readNumeral : Reader Numeral := fun chars =>
  match skipBlanks chars with
  | '-' :: rest => readUnsigned true rest
  | c :: rest =>
    if c.isDigit then readUnsigned false (c :: rest) else .error (wrongKind chars)
  | [] => .error .truncated

/-- A whole number between two bounds, both included. -/
def readWhole (low high : Int) : Reader Int := fun chars =>
  match readNumeral chars with
  | .error fault => .error fault
  | .ok (.real, _) => .error .mismatch
  | .ok (.whole value, rest) =>
    if low ≤ value ∧ value ≤ high then .ok (value, rest) else .error .mismatch

/-- A value, or nothing where `null` stands. -/
def readOptional {α : Type} (read : Reader α) : Reader (Option α) := fun chars =>
  match skipBlanks chars with
  | 'n' :: rest => do return (none, ← expect ['u', 'l', 'l'] rest)
  | _ => do
    let (value, rest) ← read chars
    return (some value, rest)

end TimedQuiz.Json
