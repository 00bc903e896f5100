import Retail.Decimal.Basic

/-!
# Reading decimals

A decimal is written as an optional sign, digits with at most one point among them, and an optional
exponent. An underscore may stand anywhere after the first digit. Digits behind the point that no
longer fit are dropped, and the first of them decides the rounding, a half going up; a short number
with an underscore right behind its last place is cut instead. A negative exponent drops digits with
rounding as well.

## Main definitions

* `Decimal.Scan`: the number read so far
* `Decimal.ofPlain?`: the reader without exponents
* `Decimal.ofText?`: the reader
-/

namespace Retail

namespace Decimal

/-- The value of a digit. -/
def digitValue? (c : Char) : Option Nat :=
  if '0' ≤ c ∧ c ≤ '9' then some (c.toNat - '0'.toNat) else none

/-- The number read so far: its digits, how many of them stand behind the point, whether the point
has been read and whether a digit has. -/
structure Scan where
  value : Nat
  scale : Nat
  pointed : Bool
  started : Bool

namespace Scan

/-- Nothing has been read. -/
def start : Scan := { value := 0, scale := 0, pointed := false, started := false }

/-- What has been read, if there was a digit. -/
def finish (s : Scan) : Option (Nat × Nat) :=
  if s.started then some (s.value, s.scale) else none

/-- Where the mantissa is full after rounding up, its last digit goes as well. -/
def roundUp (s : Scan) : Option (Nat × Nat) :=
  if s.value + 1 < limit then some (s.value + 1, s.scale)
  else if s.scale == 0 then none
  else some ((s.value + 5) / 10, s.scale - 1)

/-- A number is short while its digits before the last one leave room for another decimal digit, and
for a byte of reserve, in 64 bits. -/
def isShort (s : Scan) : Bool := decide (s.value / 10 < 1844674407370954906)

/-- The digit that decides how a full number is rounded: the first one that follows. Right behind a
short number an underscore counts as a zero. -/
def roundingDigit (s : Scan) (rest : List Char) : Nat :=
  if rest.head? == some '_' && s.isShort then 0 else (rest.findSome? digitValue?).getD 0

/-- The number is full: what follows are digits and underscores, and it is rounded, a half going
up. -/
def finishAt (s : Scan) (rest : List Char) : Option (Nat × Nat) :=
  if rest.all fun c => (digitValue? c).isSome || c == '_' then
    if 5 ≤ s.roundingDigit rest then s.roundUp else some (s.value, s.scale)
  else none

/-- Reads the digits, the point and the underscores; the result is the mantissa and its scale. -/
def run (s : Scan) : List Char → Option (Nat × Nat)
  | [] => s.finish
  | c :: rest =>
    if s.pointed && s.scale == maxScale then s.finishAt (c :: rest)
    else match digitValue? c with
      | some digit =>
        let value := s.value * 10 + digit
        if value < limit then
          run { s with value, scale := if s.pointed then s.scale + 1 else 0, started := true } rest
        else if s.pointed then s.finishAt (c :: rest)
        else none
      | none =>
        if c == '.' && !s.pointed then run { s with pointed := true } rest
        else if c == '_' && s.started then run s rest
        else none

end Scan

/-- Reads a decimal without exponent. -/
def ofPlain? : List Char → Option Decimal
  | '-' :: rest => (Scan.start.run rest).bind fun (value, scale) => ofParts? (-value) scale
  | '+' :: rest => (Scan.start.run rest).bind fun (value, scale) => ofParts? value scale
  | chars => (Scan.start.run chars).bind fun (value, scale) => ofParts? value scale

/-- A whole number of at least one digit, with an optional plus sign. -/
def unsigned? (chars : List Char) : Option Nat :=
  let digits := match chars with
    | '+' :: rest => rest
    | rest => rest
  if digits.isEmpty then none
  else digits.foldlM (fun value c => (digitValue? c).map (value * 10 + ·)) 0

/-- The decimal `d · 10⁻ⁿ`. Digits beyond the largest scale are rounded away, a half going up; where
no other digit remains the sign does. -/
def shiftDown? (d : Decimal) (n : Nat) : Option Decimal :=
  if maxScale < n then none
  else
    let scale := min (d.scale + n) maxScale
    let size := divRound .awayFromZero d.magnitude (tenPow (d.scale + n - scale))
    ofSigned? d.negative size.toNat scale

/-- The decimal `d · 10ⁿ`: digits behind the point are used up first. -/
def shiftUp? (d : Decimal) (n : Nat) : Option Decimal :=
  if n ≤ d.scale then ofParts? d.mantissa (d.scale - n)
  else if maxScale < n then none
  else ofParts? (d.mantissa * tenPow (n - d.scale)) 0

/-- Reads a decimal with or without exponent, and nothing around it. -/
def ofText? (text : String) : Option Decimal :=
  let chars := text.toList
  let isMark (c : Char) : Bool := c == 'e' || c == 'E'
  match chars.dropWhile (!isMark ·) with
  | [] => ofPlain? chars
  | _ :: '-' :: rest => do
    let base ← ofPlain? (chars.takeWhile (!isMark ·))
    base.shiftDown? (← unsigned? rest)
  | _ :: rest => do
    let base ← ofPlain? (chars.takeWhile (!isMark ·))
    base.shiftUp? (← unsigned? rest)

end Decimal

end Retail
