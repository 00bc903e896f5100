/-!
# Base64

Three bytes are written as four characters of an alphabet of 64; a last group of fewer bytes is
filled up with equals signs.

## Main definitions

* `base64Digit`: the alphabet
* `base64`: the encoding of bytes
-/

namespace Retail

namespace Text

/-- The character of a number below 64. -/
def base64Digit (n : Nat) : Char :=
  if n < 26 then Char.ofNat (n + 'A'.toNat)
  else if n < 52 then Char.ofNat (n - 26 + 'a'.toNat)
  else if n < 62 then Char.ofNat (n - 52 + '0'.toNat)
  else if n == 62 then '+' else '/'

/-- The encoding of bytes, each given as a number below 256. -/
def base64 : List Nat → List Char
  | [] => []
  | [a] => [base64Digit (a / 4), base64Digit (a % 4 * 16), '=', '=']
  | [a, b] =>
    [base64Digit (a / 4), base64Digit (a % 4 * 16 + b / 16), base64Digit (b % 16 * 4), '=']
  | a :: b :: c :: rest =>
    base64Digit (a / 4) :: base64Digit (a % 4 * 16 + b / 16) :: base64Digit (b % 16 * 4 + c / 64)
      :: base64Digit (c % 64) :: base64 rest

/-- The encoding of the bytes of a text. -/
def base64OfText (text : String) : String :=
  String.ofList (base64 (text.toUTF8.toList.map (·.toNat)))

end Text

end Retail
