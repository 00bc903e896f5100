import Retail.Binary64
import Retail.Decimal.Reader
import Retail.Document.Basic

/-!
# Numbers in documents

A number has many spellings, and a document that is made from values holds one of them: a whole
number of 64 bits with all its digits, any other number as the binary number nearest to it, with the
fewest digits that are read as the same one.

## Main definitions

* `Numeral`: a number as it is given
* `Numeral.text`: its spelling in a document
* `Document.ofNumeral?`: the document of a number
-/

namespace Retail

/-- The number `digits · 10 ^ exponent`, and whether it was spelt without point and exponent. -/
structure Numeral where
  negative : Bool
  digits : Nat
  exponent : Int
  isWhole : Bool

namespace Numeral

/-! ## Reading -/

/-- Reads digits with an optional point and an optional exponent. -/
def ofUnsigned? (negative : Bool) (chars : List Char) : Option Numeral := do
  let isMark (c : Char) : Bool := c == 'e' || c == 'E'
  let mantissa := chars.takeWhile (!isMark ·)
  let whole := mantissa.takeWhile (· != '.')
  let places := mantissa.drop (whole.length + 1)
  let digits ← Decimal.unsigned? (whole ++ places)
  let exponent : Int ← match chars.dropWhile (!isMark ·) with
    | [] => some 0
    | _ :: '-' :: rest => (Decimal.unsigned? rest).map fun n => -(n : Int)
    | _ :: rest => (Decimal.unsigned? rest).map fun n => (n : Int)
  return {
    negative
    digits
    exponent := exponent - places.length
    isWhole := whole.length == chars.length }

/-- Reads a number with an optional minus sign. -/
def ofText? (text : String) : Option Numeral :=
  match text.toList with
  | '-' :: rest => ofUnsigned? true rest
  | chars => ofUnsigned? false chars

/-! ## Writing -/

/-- Whether the number is a whole one of 64 bits, with or without sign. Zero has no sign there. -/
def fitsWord (n : Numeral) : Bool :=
  n.isWhole && (if n.negative then 0 < n.digits && n.digits ≤ 9223372036854775808
    else n.digits < 18446744073709551616)

/-- The binary number nearest to the size of the number, which is zero long before the exponent gets
as small as the least one here. -/
def binary (n : Numeral) : Binary64 :=
  .ofDecimal n.digits (max n.exponent (-400 - (Nat.toDigits 10 n.digits).length))

/-- Digits with a point behind the first `point` of them. Where the point is far away from them it
stands behind the first digit, and an exponent says by how much it is to be moved. -/
def layOut (digits : List Char) (point : Int) : List Char :=
  if -5 < point && point ≤ 16 then
    let before := (max point 1).toNat
    let padded := (List.replicate (1 - point).toNat '0' ++ digits).rightpad (before + 1) '0'
    padded.take before ++ '.' :: padded.drop before
  else
    let behind := if digits.length ≤ 1 then [] else '.' :: digits.drop 1
    let sign := if 0 < point then '+' else '-'
    digits.take 1 ++ behind ++ 'e' :: sign :: Nat.toDigits 10 (point - 1).natAbs

/-- The digits of a number that is not a whole one of 64 bits. -/
def binaryDigits (n : Numeral) : List Char :=
  let x := n.binary
  if x.significand == 0 then layOut ['0'] 1
  else
    let (digits, exponent) := x.shortest?.getD (0, 0)
    let chars := Nat.toDigits 10 digits
    layOut chars (chars.length + exponent)

/-- The spelling of the number in a document. -/
def text (n : Numeral) : String :=
  let chars := if n.fitsWord then Nat.toDigits 10 n.digits else n.binaryDigits
  String.ofList (if n.negative then '-' :: chars else chars)

end Numeral

/-- The document that holds a number, given by any spelling of it. -/
def Document.ofNumeral? (spelling : String) : Option Document :=
  (Numeral.ofText? spelling).map (.number ·.text)

end Retail
