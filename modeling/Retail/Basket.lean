import Retail.Line.Basic
import Retail.Promotion.Predicate
import Retail.Voucher.Book

/-!
# Baskets

What checkouts and orders have in common: lines, a voucher, a customer, base prices and discounts.

## Main definitions

* `Customer`, `Basket`: customers and what they buy
* `Basket.basePricesWith`: subtotal and total before order discounts
* `Vouchers.validate`: whether a voucher applies to a purchase
-/

namespace Retail

/-- A customer who is known, and may be one of the staff. -/
structure Customer where
  email : String
  isStaff : Bool
  deriving DecidableEq, Repr

/-- The common part of checkouts and orders. -/
structure Basket where
  channel : ChannelKey
  currency : Currency
  lines : List Line
  voucher : Option VoucherKey
  voucherCode : Option String
  email : Option String
  customer : Option Customer
  language : Option String
  baseSubtotal : Money
  baseTotal : Money
  discount : DiscountSummary
  discounts : List DiscountRecord
  deriving DecidableEq

namespace Basket

/-- A basket without lines. -/
def start (channel : ChannelKey) (currency : Currency) : Basket where
  channel
  currency
  lines := []
  voucher := none
  voucherCode := none
  email := none
  customer := none
  language := none
  baseSubtotal := .zero currency
  baseTotal := .zero currency
  discount := .none currency
  discounts := []

/-- The number of items, kept in 32 bits. -/
def quantity (basket : Basket) : Nat :=
  basket.lines.foldr (fun line total => line.quantity + total) 0 % 4294967296

/-- The address of the customer, or else of the guest. -/
def customerEmail (basket : Basket) : Option String :=
  (basket.customer.map (·.email)).or basket.email

/-- The sum of the lines at their base prices. -/
def subtotal (basket : Basket) : Except PricingError Money :=
  Retail.baseSubtotal basket.lines basket.currency

/-- The base prices when shipping costs `shipping`. -/
def basePricesWith (basket : Basket) (shipping : Money) : Except PricingError BasePrices := do
  let subtotal ← basket.subtotal
  return ⟨subtotal, ← subtotal.add shipping⟩

/-- Takes an amount off the line with this key; nothing happens where there is none. -/
def discountLine (key : LineKey) (amount : Money) : Step Basket PricingError Unit :=
  .of fun basket =>
    let (result, lines) := go basket.lines
    (result, { basket with lines })
where
  /-- Takes the amount off the first of the lines with the key. -/
  go : List Line → Except PricingError Unit × List Line
    | [] => (.ok (), [])
    | line :: rest =>
      if line.key = key then
        let (result, line) := (Line.applyDiscount amount).runOn line
        (result, line :: rest)
      else
        let (result, rest) := go rest
        (result, line :: rest)

end Basket

/-- Whether a voucher applies to a purchase of `quantity` items for `total`. -/
def Vouchers.validate (book : Vouchers) (voucher : VoucherKey) (total : Money) (quantity : Nat)
    (email : Option String) (channel : ChannelKey) (customer : Option Customer) :
    Except VoucherError Unit :=
  match book.vouchers.get? voucher with
  | none => .error (.voucherNotFound voucher)
  | some terms => do
    (terms.checkMinSpent total channel).mapError .notApplicable
    (terms.checkMinItems quantity).mapError .notApplicable
    if terms.oncePerCustomer && email.any (book.customerHasUsed voucher) then
      .error (.notApplicable .oncePerCustomer)
    if terms.onlyForStaff && !customer.any (·.isStaff) then
      .error (.notApplicable .onlyForStaff)

end Retail
