import Retail.Currency
import Retail.Decimal.Basic

/-!
# Money

An amount of money is a whole number of minor units of a currency. Sums and differences are exact.
Whatever passes through a decimal or is multiplied comes back as a whole number of minor units of 64
bits, rounded half away from zero, or fails.

## Main definitions

* `PricingError`: why a calculation with money fails
* `Money`: an amount
* `Money.minorUnits`: the amount as calculations and comparisons see it
* `Money.add`, `Money.sub`, `Money.total`: exact sums within one currency
* `Money.quantize`, `Money.toMajor`, `Money.majorText`: from and to decimals of major units
* `Money.times`, `Money.divide`, `Money.share`: multiples, quotients and proportional shares
* `Money.floorAtZero`: the amount, or zero where it is negative
-/

namespace Retail

/-- Why a calculation with money fails. -/
inductive PricingError where
  | overflow
  | currencyMismatch (expected actual : Currency)
  | percentConversion
  deriving DecidableEq, Repr

/-- The message of an error. -/
def PricingError.message : PricingError → String
  | .overflow => "amount overflowed the minor unit range"
  | .currencyMismatch expected actual =>
    "Currency mismatch: expected " ++ expected.code ++ ", got " ++ actual.code
  | .percentConversion => "percentage conversion overflowed or was not finite"

/-- An amount in minor units of a currency. -/
structure Money where
  minor : Int
  currency : Currency
  deriving DecidableEq, Repr

/-- The whole numbers of 64 bits with sign. -/
def fitsMinor (n : Int) : Bool := -9223372036854775808 ≤ n && n < 9223372036854775808

/-- A decimal number of minor units as a whole one, half away from zero. -/
def roundMinor (d : Decimal) : Except PricingError Int :=
  let n := d.roundToInt .awayFromZero
  if fitsMinor n then .ok n else .error .overflow

namespace Money

/-- Nothing, in a currency. -/
def zero (currency : Currency) : Money := ⟨0, currency⟩

/-- The minor units of the amount; an amount beyond 64 bits counts as zero. -/
def minorUnits (m : Money) : Int := if fitsMinor m.minor then m.minor else 0

theorem fitsMinor_minorUnits (m : Money) : fitsMinor m.minorUnits = true := by
  unfold minorUnits
  split
  · assumption
  · decide

theorem natAbs_minorUnits_lt (m : Money) : m.minorUnits.natAbs < Decimal.limit := by
  have h := m.fitsMinor_minorUnits
  simp only [fitsMinor, Bool.and_eq_true, decide_eq_true_eq] at h
  unfold Decimal.limit
  omega

/-- The minor units as a decimal. -/
def minorDecimal (m : Money) : Decimal := .whole m.minorUnits m.natAbs_minorUnits_lt

/-- The amount in major units. -/
def toMajor (m : Money) : Decimal :=
  ⟨m.minorUnits < 0, m.minorUnits.natAbs, m.currency.exponent, m.natAbs_minorUnits_lt,
    m.currency.exponent_le⟩

/-- The amount in major units in writing, with the code of its currency. -/
def majorText (m : Money) : String := m.toMajor.text ++ " " ++ m.currency.code

/-! ## Sums -/

/-- Fails unless both amounts are in one currency. -/
def sameCurrency (expected actual : Money) : Except PricingError Unit :=
  if expected.currency = actual.currency then .ok ()
  else .error (.currencyMismatch expected.currency actual.currency)

/-- The exact sum, which may be beyond 64 bits. -/
def add (a b : Money) : Except PricingError Money := do
  sameCurrency a b
  return ⟨a.minor + b.minor, a.currency⟩

/-- The exact difference, which may be beyond 64 bits. -/
def sub (a b : Money) : Except PricingError Money := do
  sameCurrency a b
  return ⟨a.minor - b.minor, a.currency⟩

/-- The sum of amounts that are all in this currency. -/
def total (currency : Currency) (amounts : List Money) : Except PricingError Money :=
  amounts.foldlM add (zero currency)

/-- The amount, or zero where it is negative. -/
def floorAtZero (m : Money) : Money := if m.minorUnits < 0 then zero m.currency else m

/-! ## Rounded amounts -/

/-- An amount of major units, rounded to a whole number of minor units. -/
def quantize (amount : Decimal) (currency : Currency) : Except PricingError Money := do
  let scale ← (Decimal.ofInt? (Decimal.tenPow currency.exponent)).elim (.error .overflow) .ok
  let minor ← (amount.mul? scale).elim (.error .overflow) .ok
  return ⟨← roundMinor minor, currency⟩

/-- `quantity` times the price. -/
def times (price : Money) (quantity : Nat) : Except PricingError Money :=
  let product := price.minorUnits * quantity
  if fitsMinor product then .ok ⟨product, price.currency⟩ else .error .overflow

/-- The price of one of `quantity` parts; nothing where there are no parts. -/
def divide (price : Money) (quantity : Nat) : Except PricingError Money :=
  if quantity == 0 then .ok (zero price.currency)
  else do
    let quotient := (Decimal.ofInt? quantity).bind price.minorDecimal.div?
    return ⟨← quotient.elim (.error .overflow) roundMinor, price.currency⟩

/-- The share of `amount` that `part` is of `whole`; nothing of an empty whole. -/
def share (amount part whole : Money) : Except PricingError Money := do
  sameCurrency amount part
  sameCurrency amount whole
  if whole.minorUnits == 0 then return zero amount.currency
  let product := amount.minorDecimal.mul? part.minorDecimal
  let quotient := product.bind (·.div? whole.minorDecimal)
  return ⟨← quotient.elim (.error .overflow) roundMinor, amount.currency⟩

end Money

end Retail
