import Retail.Money.Basic

/-!
# Discount values

A discount takes a fixed amount or a percentage off a price, and never takes the price below zero.

## Main definitions

* `ValueType`, `DiscountValue`: a number and how it is meant
* `discountedPrice`: the price after a discount
* `DiscountValue.amountOff`: what a discount takes off
* `percentOf`, `percentPoints`: fractions of an amount and fractions as percent points
* `DiscountKind`: where a discount comes from
* `DiscountSummary`: the discount that a checkout or an order shows
* `NotApplicable`: why an offer does not apply
-/

namespace Retail

/-- How the number of a discount is meant: an amount in major units or percent points. -/
inductive ValueType where
  | fixed
  | percentage
  deriving DecidableEq, Repr

/-- The name of a value type in reports. -/
def ValueType.label : ValueType → String
  | .fixed => "fixed"
  | .percentage => "percentage"

/-- Where a discount comes from: a catalogue or order promotion, a voucher or the staff. -/
inductive DiscountKind where
  | promotion
  | orderPromotion
  | voucher
  | manual
  deriving DecidableEq, Repr

/-- The name of a kind in reports, and on receipts where a discount has no other name. -/
def DiscountKind.label : DiscountKind → String
  | .promotion => "promotion"
  | .orderPromotion => "order_promotion"
  | .voucher => "voucher"
  | .manual => "manual"

/-- Why an offer does not apply. -/
inductive NotApplicable where
  | channelNotAvailable
  | minSpent (minimum : Money)
  | minItems (minimum : Nat)
  | oncePerCustomer
  | onlyForStaff
  | usageLimitReached
  deriving DecidableEq, Repr

/-- What a customer is told. -/
def NotApplicable.message : NotApplicable → String
  | .channelNotAvailable => "this offer is not available in this channel"
  | .minSpent minimum => "this offer is only valid for orders over " ++ minimum.majorText
  | .minItems minimum =>
    "this offer is only valid for orders with a minimum of " ++ toString minimum ++ " quantity"
  | .oncePerCustomer => "this offer is only valid once per customer"
  | .onlyForStaff => "this offer is valid only for staff customers"
  | .usageLimitReached => "this offer has reached its usage limit"

/-! ## Prices after a discount -/

/-- A number and how it is meant. -/
structure DiscountValue where
  value : Decimal
  valueType : ValueType
  deriving DecidableEq

/-- The fraction of a whole number of minor units, rounded half away from zero. -/
def percentOf (fraction : Decimal) (minor : Int) : Except PricingError Int :=
  match (Decimal.ofInt? minor).bind fraction.mul? with
  | none => .error .percentConversion
  | some product => (roundMinor product).mapError fun _ => .percentConversion

/-- The fraction that remains of a price when `points` percent are taken off. -/
def remainingFraction (points : Decimal) : Option Decimal :=
  (Decimal.hundred.sub? points).bind (·.div? Decimal.hundred)

/-- The price after a discount of `value`, where a fixed amount is in `currency`. -/
def discountedPrice (value : Decimal) (valueType : ValueType) (currency : Currency)
    (price : Money) : Except PricingError Money :=
  match valueType with
  | .fixed => do
    let discount ← Money.quantize value currency
    return (← price.sub discount).floorAtZero
  | .percentage =>
    if price.currency ≠ currency then .error (.currencyMismatch currency price.currency)
    else do
      let remaining ← (remainingFraction value).elim (.error .percentConversion) .ok
      return Money.floorAtZero ⟨← percentOf remaining price.minorUnits, currency⟩

namespace DiscountValue

/-- The price after the discount. -/
def apply (d : DiscountValue) (price : Money) : Except PricingError Money :=
  discountedPrice d.value d.valueType price.currency price

/-- What the discount takes off the price. -/
def amountOff (d : DiscountValue) (price : Money) : Except PricingError Money := do
  price.sub (← d.apply price)

end DiscountValue

/-! ## Percent points -/

/-- A fraction as percent points of at most two places, a half going to the even neighbour. -/
def percentPoints (fraction : Decimal) : Decimal :=
  (((fraction.mul? .one).bind (·.mul? .hundred)).getD .zero).round .toEven 2

/-! ## Summaries -/

/-- The discount that a checkout or an order shows. -/
structure DiscountSummary where
  amount : Money
  name : Option String
  localizedName : Option String
  deriving DecidableEq, Repr

namespace DiscountSummary

/-- No discount is shown. -/
def none (currency : Currency) : DiscountSummary := ⟨.zero currency, .none, .none⟩

/-- Whether no discount is shown. -/
def isNone (s : DiscountSummary) : Bool :=
  s.amount.minorUnits == 0 && s.name.isNone && s.localizedName.isNone

end DiscountSummary

end Retail
