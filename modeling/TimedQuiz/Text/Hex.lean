/-
**Hexadecimal text.**

A byte is written as two lower-case hexadecimal digits, and digits of either case are read.
-/

namespace TimedQuiz.Text.Hex

/-- The lower-case digit of a number below sixteen. -/
def digit (value : Nat) : Char :=
  if value < 10 then Char.ofNat (48 + value) else Char.ofNat (87 + value)

/-- The value of a hexadecimal digit of either case. -/
def value? (c : Char) : Option Nat :=
  if '0' ≤ c ∧ c ≤ '9' then some (c.toNat - 48)
  else if 'a' ≤ c ∧ c ≤ 'f' then some (c.toNat - 87)
  else if 'A' ≤ c ∧ c ≤ 'F' then some (c.toNat - 55)
  else none

/-- The two digits of a byte. -/
def encodeByte (byte : UInt8) : List Char :=
  [digit (byte.toNat / 16), digit (byte.toNat % 16)]

/-- The digits of a sequence of bytes. -/
def encodeList (bytes : List UInt8) : List Char := bytes.flatMap encodeByte

/-- The text of a sequence of bytes. -/
def encode (bytes : List UInt8) : String := String.ofList (encodeList bytes)

/-- The bytes written by pairs of digits; nothing for any other text. -/
def decodeList : List Char → Option (List UInt8)
  | [] => some []
  | high :: low :: rest => do
    let h ← value? high
    let l ← value? low
    let bytes ← decodeList rest
    return UInt8.ofNat (16 * h + l) :: bytes
  | [_] => none

/-- The bytes written by a text of hexadecimal digits. -/
def decode? (text : String) : Option (List UInt8) := decodeList text.toList

end TimedQuiz.Text.Hex
