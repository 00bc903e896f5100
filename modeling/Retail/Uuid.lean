import Retail.Text.Hex

/-!
# Universally unique identifiers

An identifier is a number of 128 bits. It is read from 32 hexadecimal digits, or from the form with
hyphens, which may stand in braces or behind `urn:uuid:` in letters of any case, and written with
hyphens.

## Main definitions

* `Uuid`: the identifiers
* `Uuid.ofText?`, `Uuid.text`: the written form
-/

namespace Retail

/-- An identifier as a number. -/
structure Uuid where
  value : BitVec 128
  deriving DecidableEq, Repr

namespace Uuid

/-- The identifier of 32 hexadecimal digits. -/
def ofDigits? (digits : List Char) : Option Uuid :=
  if digits.length == 32 then
    (Text.hexNumber? digits).map fun value => ⟨BitVec.ofNat 128 value⟩
  else none

/-- The numbers of digits between the hyphens. -/
def groupSizes : List Nat := [8, 4, 4, 4, 12]

/-- The digits without the hyphens between their groups. -/
def ungroup? : List Nat → List Char → Option (List Char)
  | [], [] => some []
  | [], _ => none
  | [size], chars => if chars.length == size then some chars else none
  | size :: sizes, chars =>
    match chars.drop size with
    | '-' :: rest => (ungroup? sizes rest).map (chars.take size ++ ·)
    | _ => none

/-- Reads the form with hyphens. -/
def ofGroups? (chars : List Char) : Option Uuid := (ungroup? groupSizes chars).bind ofDigits?

/-- Reads an identifier in any of its forms. -/
def ofText? (text : String) : Option Uuid :=
  let chars := text.toList
  if chars.length == 32 then ofDigits? chars
  else if chars.length == 38 && chars.head? == some '\x7b' && chars.getLast? == some '\x7d' then
    ofGroups? (chars.drop 1).dropLast
  else if (chars.take 9).map Char.toLower == "urn:uuid:".toList then ofGroups? (chars.drop 9)
  else ofGroups? chars

/-- The digits with hyphens between their groups. -/
def group : List Nat → List Char → List Char
  | [], chars => chars
  | [_], chars => chars
  | size :: sizes, chars => chars.take size ++ '-' :: group sizes (chars.drop size)

/-- The form with hyphens, in small letters. -/
def text (id : Uuid) : String :=
  let digits := Nat.toDigits 16 id.value.toNat
  String.ofList (group groupSizes (List.replicate (32 - digits.length) '0' ++ digits))

end Uuid

end Retail
