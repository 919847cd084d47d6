/-
**Identities of results.**

The identity of a result is a number of 128 bits. As bytes it is written from the highest byte on;
as text in hexadecimal digits, in five groups divided by hyphens. The text may also come without
hyphens, in braces, or behind `urn:uuid:` in either case.
-/

import TimedQuiz.Puzzle
import TimedQuiz.Store.Record
import TimedQuiz.Text.Hex

namespace TimedQuiz.Store.Identity

/-- The number of bytes of an identity. -/
def size : Nat := 16

/-- The bytes of an identity, from the highest on. -/
def bytes (id : ResultId) : Bytes :=
  (List.range size).map fun (index : Nat) => UInt8.ofNat (id >>> (8 * (size - 1 - index)))

/-- The identity with the given bytes. -/
def ofBytes (bytes : Bytes) : ResultId :=
  bytes.foldl (fun value byte => value * 256 + byte.toNat) 0

/-- The lengths of the groups of digits. -/
def groups : List Nat := [8, 4, 4, 4, 12]

/-- Divides digits into groups. -/
def divide : List Nat → List Char → List (List Char)
  | [], _ => []
  | length :: rest, digits => digits.take length :: divide rest (digits.drop length)

/-- The text of an identity. -/
def text (id : ResultId) : String :=
  "-".intercalate ((divide groups (Text.Hex.encodeList (bytes id))).map String.ofList)

/-- The identity written by digits alone. -/
def ofDigits? (digits : List Char) : Option ResultId :=
  if digits.length = 2 * size then (Text.Hex.decodeList digits).map ofBytes else none

/-- Takes groups of digits that are divided by hyphens. -/
def joinGroups : List Nat → List Char → Option (List Char)
  | [], rest => if rest.isEmpty then some [] else none
  | [length], text => if text.length = length then some text else none
  | length :: more, text =>
    match text.drop length with
    | '-' :: rest => (joinGroups more rest).map (text.take length ++ ·)
    | _ => none

/-- The identity written in groups. -/
def ofGroups? (text : List Char) : Option ResultId := (joinGroups groups text).bind ofDigits?

/-- The text in front of an identity that is written as a name, in lower case. -/
def namePrefix : List Char := "urn:uuid:".toList

/-- The identity with a text. -/
def ofText? (text : String) : Option ResultId :=
  let text := text.toList
  match ofDigits? text, ofGroups? text with
  | some id, _ => some id
  | none, some id => some id
  | none, none =>
    if (text.take namePrefix.length).map Char.toLower = namePrefix then
      ofGroups? (text.drop namePrefix.length)
    else
      match text with
      | '\x7b' :: rest =>
        if rest.getLast? = some '\x7d' then ofGroups? rest.dropLast else none
      | _ => none

end TimedQuiz.Store.Identity
