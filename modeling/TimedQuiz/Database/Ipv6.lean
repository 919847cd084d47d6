/-
**Addresses of eight groups.**

An address consists of eight groups of sixteen bits, written as hexadecimal numbers with colons
between them. Two colons stand for as many zero groups as are missing, and the last two groups may
be written as four decimal octets. In the shortest text the longest run of zero groups is left out.
-/

import TimedQuiz.Decimal.Bounded
import TimedQuiz.Text.Hex

namespace TimedQuiz.Database

/-- An address of eight groups. -/
structure Ipv6 where
  groups : List UInt16
  length_eq : groups.length = 8
  deriving DecidableEq

namespace Ipv6

/-! ### Reading -/

/-- The address of some groups, if they are eight. -/
def ofGroups? (groups : List UInt16) : Option Ipv6 :=
  if eight : groups.length = 8 then some ⟨groups, eight⟩ else none

/-- Reads a group: one to four hexadecimal digits. -/
def readGroup? (text : List Char) : Option UInt16 :=
  if 1 ≤ text.length ∧ text.length ≤ 4 then
    (text.mapM Text.Hex.value?).map fun digits =>
      UInt16.ofNat (digits.foldl (fun value digit => 16 * value + digit) 0)
  else none

/-- Reads an octet: up to three decimal digits without zeros in front. -/
def readOctet? (text : List Char) : Option Nat :=
  if text.length ≤ 3 ∧ (text.head? = some '0' → text.length = 1) then
    (Decimal.Bounded.digits? text).filter (· ≤ 255)
  else none

/-- Reads the two groups of four octets with points between them. -/
def readOctets? (text : List Char) : Option (List UInt16) :=
  match (text.splitOn '.').mapM readOctet? with
  | some [a, b, c, d] => some [UInt16.ofNat (256 * a + b), UInt16.ofNat (256 * c + d)]
  | _ => none

/-- Reads the groups of some parts, the last of which may consist of octets. -/
def readParts? : List (List Char) → Option (List UInt16)
  | [] => some []
  | [part] => ((readGroup? part).map fun group => [group]) <|> readOctets? part
  | part :: rest => do
    let group ← readGroup? part
    let groups ← readParts? rest
    return group :: groups

/-- The parts between the colons of a text; an empty text has none. -/
def parts (text : List Char) : List (List Char) := if text.isEmpty then [] else text.splitOn ':'

/-- The texts before and behind the first two colons. -/
def divideGap? : List Char → Option (List Char × List Char)
  | ':' :: ':' :: back => some ([], back)
  | c :: rest => (divideGap? rest).map fun (front, back) => (c :: front, back)
  | [] => none

/-- Reads an address. -/
def read? (text : List Char) : Option Ipv6 :=
  match divideGap? text with
  | none => (readParts? (parts text)).bind ofGroups?
  | some (front, back) => do
    let high ← (parts front).mapM readGroup?
    let low ← readParts? (parts back)
    if high.length + low.length < 8 then
      ofGroups? (high ++ List.replicate (8 - high.length - low.length) 0 ++ low)
    else none

/-! ### The shortest text -/

/-- The digits of a group, without zeros in front. -/
def groupText (group : UInt16) : String := String.ofList (Nat.toDigits 16 group.toNat)

/-- Groups with colons between them. -/
def groupsText (groups : List UInt16) : String := ":".intercalate (groups.map groupText)

/-- The octets of two groups with points between them. -/
def octetsText (high low : UInt16) : String :=
  ".".intercalate
    ([high.toNat / 256, high.toNat % 256, low.toNat / 256, low.toNat % 256].map fun octet =>
      toString octet)

/-- Where the longest run of zero groups starts, and how long it is; the first of several. -/
def longestGap (groups : List UInt16) : Nat × Nat :=
  (List.range groups.length).foldl
    (fun best start =>
      let size := ((groups.drop start).takeWhile (· == 0)).length
      if best.2 < size then (start, size) else best)
    (0, 0)

/-- The shortest text of an address. An address that stands for four octets shows them, and a zero
group that stands alone is written. -/
def text (address : Ipv6) : String :=
  match address.groups with
  | [0, 0, 0, 0, 0, 0xFFFF, high, low] => "::ffff:" ++ octetsText high low
  | groups =>
    let (start, size) := longestGap groups
    if 2 ≤ size then
      groupsText (groups.take start) ++ "::" ++ groupsText (groups.drop (start + size))
    else groupsText groups

end Ipv6
end TimedQuiz.Database
