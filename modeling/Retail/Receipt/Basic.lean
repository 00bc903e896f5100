import Retail.Checkout
import Retail.Order.Basic

/-!
# Receipts

A receipt lists the lines of a checkout or an order with their catalogue discounts, then the other
discounts and the totals.

## Main definitions

* `Receipt`: a receipt
* `Receipt.ofCheckout`, `Receipt.ofOrder`: the receipts of checkouts and orders
* `Receipt.savings`, `Receipt.savingsFraction`: what was saved
-/

namespace Retail

/-- Why there is no receipt. -/
inductive ReceiptError where
  | pricing (error : PricingError)
  | missingVariant (key : VariantKey)
  deriving DecidableEq, Repr

/-- The message of an error. -/
def ReceiptError.message : ReceiptError → String
  | .pricing error => error.message
  | .missingVariant _ => "Missing variant"

/-- What is shown of a line: names, quantity, full and base price of a unit, base total, and the
labels of its catalogue promotions. -/
structure ReceiptLine where
  product : String
  variant : String
  quantity : Nat
  undiscountedUnitPrice : Money
  unitPrice : Money
  total : Money
  promotions : List String
  deriving DecidableEq, Repr

/-- A discount that is listed below the lines. -/
structure ReceiptDiscount where
  label : String
  amount : Money
  deriving DecidableEq, Repr

/-- A receipt. The subtotal is at full prices, and the discounts are those that do not belong to a
line. -/
structure Receipt where
  title : String
  lines : List ReceiptLine
  discounts : List ReceiptDiscount
  subtotal : Money
  shipping : Money
  total : Money
  currency : Currency
  deriving DecidableEq, Repr

/-- The localized name, the name or else the code of a voucher; without all of them the kind. -/
def Discount.label (discount : Discount) : String :=
  ((discount.localizedName.or discount.name).or
    (discount.voucherCode.map ("Voucher " ++ ·))).getD discount.kind.label

namespace ReceiptLine

/-- The row of a line; its variant and product must be in the catalogue. -/
def ofLine (catalogue : Catalogue) (line : Line) : Except ReceiptError ReceiptLine :=
  match catalogue.variants.get? line.variant with
  | none => .error (.missingVariant line.variant)
  | some variant =>
    match catalogue.products.get? variant.product with
    | none => .error (.missingVariant line.variant)
    | some product => do
      return {
        product := product.name
        variant := variant.name
        quantity := line.quantity
        undiscountedUnitPrice := line.undiscountedUnitPrice
        unitPrice := line.baseUnitPrice
        total := ← line.baseTotal.mapError .pricing
        promotions := (line.discounts.filter (·.kind == .promotion)).map (·.label) }

end ReceiptLine

namespace Receipt

/-- The sum of the lines at their full prices. -/
def fullSubtotal (lines : List Line) (currency : Currency) : Except ReceiptError Money :=
  (Money.total currency (lines.map (·.undiscountedTotalPrice))).mapError .pricing

/-- The discount that a checkout shows. -/
def shownDiscounts (summary : DiscountSummary) : List ReceiptDiscount :=
  if summary.isNone then []
  else [⟨(summary.localizedName.or summary.name).getD "Discount", summary.amount⟩]

/-- The receipt of a checkout. -/
def ofCheckout (title : String) (checkout : Checkout) (catalogue : Catalogue) :
    Except ReceiptError Receipt := do
  let lines ← checkout.lines.mapM (ReceiptLine.ofLine catalogue)
  let shipping ← (checkout.baseTotal.sub checkout.baseSubtotal).mapError .pricing
  let total ← (checkout.baseTotal.sub checkout.discount.amount).mapError .pricing
  return {
    title
    lines
    discounts := shownDiscounts checkout.discount
    subtotal := ← fullSubtotal checkout.lines checkout.currency
    shipping
    total := total.floorAtZero
    currency := checkout.currency }

/-- The receipt of an order; a record that took nothing off is not listed. -/
def ofOrder (title : String) (order : Order) (catalogue : Catalogue) :
    Except ReceiptError Receipt := do
  let lines ← order.lines.mapM (ReceiptLine.ofLine catalogue)
  let discounts := (order.discounts.filter fun record => 0 < record.amount.minorUnits).map
    fun record => ⟨record.label, record.amount⟩
  let off ← (Money.total order.currency (discounts.map ReceiptDiscount.amount)).mapError .pricing
  let total ← (order.baseTotal.sub off).mapError .pricing
  return {
    title
    lines
    discounts
    subtotal := ← fullSubtotal order.lines order.currency
    shipping := order.baseShippingPrice
    total := total.floorAtZero
    currency := order.currency }

/-- What is paid without any discount. -/
def fullTotal (receipt : Receipt) : Except PricingError Money :=
  receipt.subtotal.add receipt.shipping

/-- How much less is paid than without any discount. -/
def savings (receipt : Receipt) : Except PricingError Money := do
  (← receipt.fullTotal).sub receipt.total

/-- The savings as a fraction of what is paid without any discount. -/
def savingsFraction (receipt : Receipt) : Except PricingError Decimal := do
  let savings ← receipt.savings
  let before ← receipt.fullTotal
  return (savings.minorDecimal.div? before.minorDecimal).getD .zero

end Receipt

end Retail
