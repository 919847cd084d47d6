/-
**Percent signs and forms.**

In an address a byte may be written as a percent sign and two hexadecimal digits. In the query of an
address, pairs of a name and a value are separated by ampersands, and a plus sign stands for a
space.
-/

import TimedQuiz.Text.Hex

namespace TimedQuiz.Text

/-- The bytes of a text. -/
def bytesOf (text : String) : List UInt8 := text.toUTF8.toList

/-- The text of some bytes, if they are one in UTF-8. -/
def ofBytes? (bytes : List UInt8) : Option String :=
  String.fromUTF8? (ByteArray.mk bytes.toArray)

/-- The value of the hexadecimal digit with the given code. -/
def hexValue? (byte : UInt8) : Option Nat := Hex.value? (Char.ofNat byte.toNat)

/-- Resolves percent signs; one that two digits do not follow stands for itself. -/
def decodePercent : List UInt8 → List UInt8
  | 0x25 :: high :: low :: rest =>
    match hexValue? high, hexValue? low with
    | some h, some l => UInt8.ofNat (16 * h + l) :: decodePercent rest
    | _, _ => 0x25 :: decodePercent (high :: low :: rest)
  | byte :: rest => byte :: decodePercent rest
  | [] => []

/-- How many bytes the character has that starts with a byte. -/
def charSize (byte : UInt8) : Nat :=
  if byte < 0x80 then 1 else if byte < 0xE0 then 2 else if byte < 0xF0 then 3 else 4

/-- The characters of some bytes; a byte that belongs to no character becomes the replacement
character. -/
def charsOf : List UInt8 → List Char
  | [] => []
  | byte :: rest =>
    match ofBytes? (byte :: rest.take (charSize byte - 1)) with
    | some found => found.toList ++ charsOf (rest.drop (charSize byte - 1))
    | none => '\uFFFD' :: charsOf rest
  termination_by bytes => bytes.length
  decreasing_by all_goals simp only [List.length_cons, List.length_drop]; omega

/-- The text of a part of an address with its percent signs resolved, if that is one in UTF-8. -/
def resolve? (part : List Char) : Option String :=
  ofBytes? (decodePercent (bytesOf (String.ofList part)))

/-- The text of a part of an address with its percent signs resolved and the replacement character
for what is not UTF-8. -/
def resolve (part : List Char) : String :=
  String.ofList (charsOf (decodePercent (bytesOf (String.ofList part))))

/-- Resolves plus and percent signs in a part of a form. -/
def decodePart (part : List UInt8) : List UInt8 :=
  decodePercent (part.map fun byte => if byte = 0x2B then 0x20 else byte)

/-- The pairs of a form, without the empty ones; a pair without an equals sign has an empty
value. -/
def formPairs (query : List UInt8) : List (List UInt8 × List UInt8) :=
  let parts := (query.splitOn 0x26).filter fun part => !part.isEmpty
  parts.map fun part =>
    (decodePart (part.takeWhile (· != 0x3D)), decodePart ((part.dropWhile (· != 0x3D)).drop 1))

/-- The byte may stand in the query of an address: all but the control characters, the space, the
quote, the number sign and the angle brackets. -/
def admitsInQuery (byte : UInt8) : Bool :=
  byte == 0x21 || (0x24 ≤ byte && byte != 0x3C && byte != 0x3E && byte != 0x7F)

end TimedQuiz.Text
