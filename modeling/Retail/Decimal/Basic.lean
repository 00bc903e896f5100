/-!
# Decimal numbers of 96 bits

A decimal is a sign, a whole magnitude below 2⁹⁶ and the number of its digits that stand behind the
point, at most 28. Sums, products and quotients are computed exactly as a ratio of whole numbers and
then written down at the largest scale at which they fit, a half going to the even neighbour; an
amount that does not fit at scale zero has no decimal.

## Main definitions

* `Tie`, `divRound`: division rounded to the nearest whole number
* `Decimal`: sign, magnitude and scale
* `Decimal.mantissa`: the magnitude with its sign
* `Decimal.ofRatio?`: a ratio at the largest scale at which it fits
* `Decimal.add?`, `Decimal.sub?`, `Decimal.mul?`, `Decimal.div?`: arithmetic
* `Decimal.round`: rounding to a number of places
* `Decimal.text`: the written form
-/

namespace Retail

/-- Where a half goes when a quotient is rounded. -/
inductive Tie where
  | toEven
  | awayFromZero
  deriving DecidableEq, Repr

/-- The whole number nearest to `num / den`, for a positive `den`. -/
def divRound (tie : Tie) (num : Int) (den : Nat) : Int :=
  let quotient := num.natAbs / den
  let rest := num.natAbs % den
  let up := den < 2 * rest || (2 * rest == den && (tie == .awayFromZero || quotient % 2 == 1))
  let size : Int := if up then quotient + 1 else quotient
  if num < 0 then -size else size

/-- The number 2⁹⁶, which no magnitude reaches. -/
abbrev Decimal.limit : Nat := 79228162514264337593543950336

/-- A magnitude of 96 bits with a sign and with `scale` digits behind the point. A zero may be
negative as well: it is a number below zero of which no digit was kept. -/
structure Decimal where
  negative : Bool
  magnitude : Nat
  scale : Nat
  magnitude_lt : magnitude < Decimal.limit := by decide
  scale_le : scale ≤ 28 := by decide
  deriving DecidableEq

namespace Decimal

/-- The largest number of digits behind the point. -/
def maxScale : Nat := 28

/-- The magnitude with its sign. -/
def mantissa (d : Decimal) : Int := if d.negative then -d.magnitude else d.magnitude

@[simp] theorem natAbs_mantissa (d : Decimal) : d.mantissa.natAbs = d.magnitude := by
  unfold mantissa
  split <;> simp

/-- A whole number in range as a decimal. -/
def whole (n : Int) (h : n.natAbs < limit) : Decimal :=
  { negative := n < 0, magnitude := n.natAbs, scale := 0, magnitude_lt := h }

/-- The number 0, without places. -/
def zero : Decimal := { negative := false, magnitude := 0, scale := 0 }

/-- The number 1, without places. -/
def one : Decimal := { negative := false, magnitude := 1, scale := 0 }

/-- The number 100, without places. -/
def hundred : Decimal := { negative := false, magnitude := 100, scale := 0 }

instance : Inhabited Decimal := ⟨zero⟩

/-- The decimal with this sign, magnitude and scale, if they are in range. -/
def ofSigned? (negative : Bool) (magnitude scale : Nat) : Option Decimal :=
  if h : magnitude < limit ∧ scale ≤ 28 then some ⟨negative, magnitude, scale, h.1, h.2⟩ else none

/-- The decimal with this mantissa and scale, if they are in range. -/
def ofParts? (mantissa : Int) (scale : Nat) : Option Decimal :=
  ofSigned? (mantissa < 0) mantissa.natAbs scale

/-- The decimal of a whole number, if it is in range. -/
def ofInt? (n : Int) : Option Decimal := ofParts? n 0

/-- The power of ten with this exponent. -/
def tenPow (exponent : Nat) : Nat := Nat.pow 10 exponent

/-- The power of ten that divides the mantissa. -/
def denominator (d : Decimal) : Nat := tenPow d.scale

/-- `num / den` rounded half to even at the largest scale, from the given one down, at which it
fits. -/
def ofRatio? (num : Int) (den : Nat) : Nat → Option Decimal
  | 0 => ofParts? (divRound .toEven num den) 0
  | scale + 1 =>
    (ofParts? (divRound .toEven (num * tenPow (scale + 1)) den) (scale + 1)).or
      (ofRatio? num den scale)

/-! ## Order

Decimals are compared by value: `1.50` and `1.5` are the same amount. -/

/-- Whether one decimal is at most the other. Zeros behind the point make no difference. -/
def le (a b : Decimal) : Bool := a.mantissa * b.denominator ≤ b.mantissa * a.denominator

/-- Whether both decimals are the same number, whatever their scales are. -/
def sameValue (a b : Decimal) : Bool := a.mantissa * b.denominator == b.mantissa * a.denominator

/-! ## Arithmetic -/

/-- The sum, at the larger of both scales or at the largest one at which it fits. -/
def add? (a b : Decimal) : Option Decimal :=
  ofRatio? (a.mantissa * b.denominator + b.mantissa * a.denominator) (a.denominator * b.denominator)
    (max a.scale b.scale)

/-- The difference, at the larger of both scales or at the largest one at which it fits. -/
def sub? (a b : Decimal) : Option Decimal :=
  ofRatio? (a.mantissa * b.denominator - b.mantissa * a.denominator) (a.denominator * b.denominator)
    (max a.scale b.scale)

/-- A product with zero is the plain zero, whatever the scales. -/
def mul? (a b : Decimal) : Option Decimal :=
  if a.magnitude == 0 || b.magnitude == 0 then some zero
  else ofRatio? (a.mantissa * b.mantissa) (a.denominator * b.denominator)
    (min (a.scale + b.scale) maxScale)

/-- There is no quotient by zero. -/
def div? (a b : Decimal) : Option Decimal :=
  if b.magnitude == 0 then none
  else ofRatio? (a.mantissa * b.denominator * b.mantissa.sign) (b.magnitude * a.denominator)
    maxScale

/-! ## Rounding -/

/-- The nearest whole number. -/
def roundToInt (tie : Tie) (d : Decimal) : Int := divRound tie d.mantissa d.denominator

/-- The decimal with at most `places` digits behind the point that is nearest; a decimal that has no
more is left as it is. -/
def round (tie : Tie) (places : Nat) (d : Decimal) : Decimal :=
  if places < d.scale then
    (ofParts? (divRound tie d.mantissa (tenPow (d.scale - places))) places).getD d
  else d

/-! ## Text -/

/-- The digits of `n`, at least `width` of them. -/
def paddedDigits (width n : Nat) : List Char :=
  let digits := Nat.toDigits 10 n
  List.replicate (width - digits.length) '0' ++ digits

/-- The digits of `n` with a point before the last `scale` of them. -/
def pointedDigits (scale n : Nat) : List Char :=
  let digits := paddedDigits (scale + 1) n
  let whole := digits.take (digits.length - scale)
  if scale == 0 then whole else whole ++ '.' :: digits.drop (digits.length - scale)

/-- Every digit of the scale is written. -/
def text (d : Decimal) : String :=
  String.ofList ((if d.negative then ['-'] else []) ++ pointedDigits d.scale d.magnitude)

/-- The digits without the zeros that end them behind the point. -/
def trimZeros : Nat → Nat → Nat × Nat
  | 0, n => (0, n)
  | scale + 1, n => if n % 10 == 0 then trimZeros scale (n / 10) else (scale + 1, n)

/-- The written form without zeros at the end. -/
def shortText (d : Decimal) : String :=
  let (scale, n) := trimZeros d.scale d.magnitude
  String.ofList ((if d.negative then ['-'] else []) ++ pointedDigits scale n)

end Decimal

end Retail
