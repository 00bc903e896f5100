import Retail.Discount.Record
import Retail.Step

/-!
# Lines

A line is a variant at some quantity in a checkout or an order, with its prices, the records of its
discounts and the catalogue rules that it qualifies for.

## Main definitions

* `Line`: a line
* `Line.create`: a line at its full price
* `Line.setDiscountedUnitPrice`: the catalogue price of a line
* `Line.applyDiscount`: an amount taken off the total of a line
* `baseSubtotal`: the sum of the lines
-/

namespace Retail

/-- A catalogue rule that a line qualifies for, and what it takes off each unit if it is known. -/
structure LineRule where
  rule : RuleKey
  unitDiscount : Option Money
  deriving DecidableEq, Repr

/-- A variant at some quantity. The full price stays as it was, catalogue promotions set the
discounted one, and a discount of the order that is spread lowers the base and the unit price. -/
structure Line where
  key : LineKey
  variant : VariantKey
  quantity : Nat
  undiscountedUnitPrice : Money
  discountedUnitPrice : Money
  baseUnitPrice : Money
  unitPrice : Money
  unitDiscount : Money
  totalPrice : Money
  undiscountedTotalPrice : Money
  discounts : List DiscountRecord
  rules : List LineRule
  deriving DecidableEq

namespace Line

/-- A line at its full price. -/
def create (key : LineKey) (variant : VariantKey) (quantity : Nat) (unitPrice : Money) :
    Except PricingError Line := do
  let total ← unitPrice.times quantity
  return {
    key
    variant
    quantity
    undiscountedUnitPrice := unitPrice
    discountedUnitPrice := unitPrice
    baseUnitPrice := unitPrice
    unitPrice
    unitDiscount := .zero unitPrice.currency
    totalPrice := total
    undiscountedTotalPrice := total
    discounts := []
    rules := [] }

/-- The currency of the full price. -/
def currency (line : Line) : Currency := line.undiscountedUnitPrice.currency

/-- Sets the price of a unit after catalogue promotions, and the total. The total stays as it was
where it would be too large. -/
def setDiscountedUnitPrice (price : Money) : Step Line PricingError Unit := .of fun line =>
  let price := price.floorAtZero
  match line.undiscountedUnitPrice.sub price with
  | .error e => (.error e, line)
  | .ok unitDiscount =>
    let priced := { line with
      unitDiscount, discountedUnitPrice := price, baseUnitPrice := price, unitPrice := price }
    match price.times line.quantity with
    | .error e => (.error e, priced)
    | .ok totalPrice => (.ok (), { priced with totalPrice })

/-- Takes an amount off the total, and spreads it over the units. -/
def applyDiscount (amount : Money) : Step Line PricingError Unit := .of fun line =>
  match line.totalPrice.sub amount with
  | .error e => (.error e, line)
  | .ok difference =>
    let totalPrice := difference.floorAtZero
    match totalPrice.divide line.quantity with
    | .error e => (.error e, line)
    | .ok unitPrice =>
      let priced := { line with totalPrice, baseUnitPrice := unitPrice, unitPrice }
      match amount.divide line.quantity with
      | .error e => (.error e, priced)
      | .ok unitDiscount => (.ok (), { priced with unitDiscount })

/-- The total at the base price. -/
def baseTotal (line : Line) : Except PricingError Money := line.baseUnitPrice.times line.quantity

/-- What catalogue promotions take off the whole line. -/
def catalogueDiscountAmount (line : Line) : Except PricingError Money := do
  (← line.undiscountedUnitPrice.sub line.discountedUnitPrice).times line.quantity

/-- The total at the full price and the total at the base price. -/
structure Totals where
  undiscounted : Money
  discounted : Money

/-- Both totals of the line. -/
def totals (line : Line) : Except PricingError Totals := do
  return ⟨← line.undiscountedUnitPrice.times line.quantity, ← line.baseTotal⟩

/-- The base total without what vouchers take off the line, at least zero. -/
def baseTotalAfterVouchers (currency : Currency) (line : Line) : Except PricingError Money := do
  let total ← line.baseTotal
  let vouchers := line.discounts.filter (·.kind == .voucher)
  let discount ← Money.total currency (vouchers.map (·.amount))
  return (← total.sub discount).floorAtZero

end Line

/-- The sum of the lines at their base prices. -/
def baseSubtotal (lines : List Line) (currency : Currency) : Except PricingError Money := do
  Money.total currency (← lines.mapM Line.baseTotal)

/-- The sum of the lines without what vouchers take off them. -/
def baseSubtotalAfterVouchers (lines : List Line) (currency : Currency) :
    Except PricingError Money := do
  Money.total currency (← lines.mapM (Line.baseTotalAfterVouchers currency))

end Retail
