/-
**JSON values and their compact text.**

A value is written without spaces, with the fields of an object in the order in which they are
listed. In a string only the quote, the backslash and the control characters below the space are
escaped. A number with a fraction is written by its shortest decimal, and always shows that it is
not a whole number; a number that is not finite is written as `null`.
-/

import TimedQuiz.Decimal.Layout
import TimedQuiz.Text.Hex

namespace TimedQuiz

/-- A JSON value; the fields of an object keep their order. -/
inductive Json
  | null
  | bool (value : Bool)
  | whole (value : Int)
  | real (value : Float)
  | text (value : String)
  | array (items : List Json)
  | object (fields : List (String × Json))
  deriving Inhabited

namespace Json

/-! ### Strings -/

/-- A character as it stands inside quotes. -/
def escape (c : Char) : List Char :=
  if c = '"' then ['\\', '"']
  else if c = '\\' then ['\\', '\\']
  else if c = '\x08' then ['\\', 'b']
  else if c = '\x0c' then ['\\', 'f']
  else if c = '\n' then ['\\', 'n']
  else if c = '\r' then ['\\', 'r']
  else if c = '\t' then ['\\', 't']
  else if c < ' ' then '\\' :: 'u' :: '0' :: '0' :: Text.Hex.encodeByte (UInt8.ofNat c.toNat)
  else [c]

/-- A string in quotes. -/
def quote (text : String) : String :=
  String.ofList ('"' :: text.toList.flatMap escape ++ ['"'])

/-! ### Numbers -/

/-- Numbers are written with all their places while the leading digit stands between the fifth
place after the point and the sixteenth before it. -/
def numberLayout : Decimal.Layout :=
  { leastPositional := -5
    greatestPositional := 15
    wholeSuffix := ".0"
    exponentMark := "e"
    positiveSign := "+" }

/-- The bit that tells the sign of a double. -/
def signBit : Nat := 0x8000000000000000

/-- The bits of the infinite double; what comes after them is no number. -/
def infinityBits : Nat := 0x7FF0000000000000

/-- The text of a double; `null` for the values that are not finite. -/
def realText (value : Float) : String :=
  let magnitude := value.toBits.toNat % signBit
  let sign := if signBit ≤ value.toBits.toNat then "-" else ""
  if infinityBits ≤ magnitude then "null"
  else if magnitude = 0 then sign ++ "0.0"
  else sign ++ numberLayout.write (Decimal.shortest (UInt64.ofNat magnitude))

/-! ### Values -/

mutual

/-- The compact text of a value. -/
def render : Json → String
  | .null => "null"
  | .bool value => if value then "true" else "false"
  | .whole value => toString value
  | .real value => realText value
  | .text value => quote value
  | .array items => "[" ++ renderItems items ++ "]"
  | .object fields => "\x7b" ++ renderFields fields ++ "\x7d"

/-- The texts of the items of an array, separated by commas. -/
def renderItems : List Json → String
  | [] => ""
  | [item] => render item
  | item :: next :: rest => render item ++ "," ++ renderItems (next :: rest)

/-- The texts of the fields of an object, separated by commas. -/
def renderFields : List (String × Json) → String
  | [] => ""
  | [(name, value)] => quote name ++ ":" ++ render value
  | (name, value) :: next :: rest =>
    quote name ++ ":" ++ render value ++ "," ++ renderFields (next :: rest)

end

/-- The value, or `null` when there is none. -/
def ofOption {α : Type} (write : α → Json) : Option α → Json
  | none => .null
  | some value => write value

end Json
end TimedQuiz
