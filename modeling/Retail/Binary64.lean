import Retail.Decimal.Basic

/-!
# Binary numbers of 64 bits

A binary number is a whole number of at most 53 bits times a power of two that is not below 2⁻¹⁰⁷⁴.
Fractions are rounded to the nearest one. Written in decimal, a binary number needs no more digits
than tell it from its neighbours.

## Main definitions

* `Binary64`: a binary number
* `Binary64.nearest`: the binary number nearest to a fraction
* `Binary64.shortest?`: the decimal with the fewest digits that is read as the number
-/

namespace Retail

/-- The number `significand · 2 ^ exponent`. -/
structure Binary64 where
  significand : Nat
  exponent : Int
  deriving DecidableEq, Repr

namespace Binary64

/-- The power `base ^ exponent` as a fraction. -/
def power (base : Nat) (exponent : Int) : Nat × Nat :=
  if exponent < 0 then (1, Nat.pow base (-exponent).toNat) else (Nat.pow base exponent.toNat, 1)

/-! ## Reading -/

/-- The exponent below which there are no binary numbers of 64 bits. -/
def leastExponent : Int := -1074

/-- The number 2⁵³, which no significand reaches. -/
def significandLimit : Nat := 9007199254740992

/-- The number nearest to `num / den` among those with this exponent, a half going to the even
one. -/
def nearestAt (num den : Nat) (exponent : Int) : Binary64 :=
  let (up, down) := power 2 exponent
  let significand := (divRound .toEven (num * down) (den * up)).toNat
  if significand < significandLimit then ⟨significand, exponent⟩
  else ⟨significand / 2, exponent + 1⟩

/-- The number nearest to `num / den`, which has the least exponent that leaves room for the
significand. -/
def nearest (num den : Nat) : Binary64 :=
  -- The fraction lies between 2 ^ (size - 1) and 2 ^ (size + 1).
  let size : Int := num.log2 - den.log2
  let exponent := max (size - 53) leastExponent
  let (up, down) := power 2 exponent
  if num * down / (den * up) < significandLimit then nearestAt num den exponent
  else nearestAt num den (exponent + 1)

/-- The number that `digits · 10 ^ exponent` is read as. -/
def ofDecimal (digits : Nat) (exponent : Int) : Binary64 :=
  let (up, down) := power 10 exponent
  nearest (digits * up) down

/-! ## Writing -/

/-- The decimal with this exponent that is read as the number; of two such decimals the nearer. -/
def digitsAt? (x : Binary64) (exponent : Int) : Option Nat :=
  let (up, down) := power 2 x.exponent
  let (tenUp, tenDown) := power 10 exponent
  let num := x.significand * up * tenDown
  let den := down * tenUp
  [(divRound .toEven num den).toNat, num / den, num / den + 1].find? (ofDecimal · exponent == x)

/-- The decimal with the fewest digits that is read as the number, as digits and exponent. Exponents
are tried from the largest one that a number has down to 10⁻³²⁴, at which every number is read from
some decimal. -/
def shortest? (x : Binary64) : Option (Nat × Int) :=
  (List.range 634).findSome? fun (n : Nat) =>
    let exponent : Int := 309 - n
    (x.digitsAt? exponent).map (·, exponent)

end Binary64

end Retail
