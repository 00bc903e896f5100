import Retail.Channel
import Retail.Discount.Value
import Retail.Instant.Basic
import Retail.Text.Quoted

/-!
# Vouchers

A voucher lists, for each channel, a discount value and a minimum to be spent, and says who may
redeem it and how often. Customers redeem it through its codes.

## Main definitions

* `Voucher`, `VoucherCode`: vouchers and their codes
* `VoucherError`: why a voucher is refused
* `Voucher.isActiveIn`: whether a voucher can be redeemed in a channel
* `Voucher.discountAmount`, `Voucher.productsDiscount`: what a voucher takes off
* `Voucher.checkMinSpent`, `Voucher.checkMinItems`: the conditions on the purchase
-/

namespace Retail

/-- What a voucher discounts: the subtotal, the shipping or the single products. -/
inductive VoucherType where
  | entireOrder
  | shipping
  | specificProduct
  deriving DecidableEq, Repr

/-- What a voucher takes off in a channel, and the minimum to be spent there. -/
structure VoucherListing where
  value : Decimal
  minSpent : Option Money

/-- A voucher with its window of time, the limits on its use, the conditions on a purchase and its
listing in each channel. -/
structure Voucher where
  name : Option String
  voucherType : VoucherType
  valueType : ValueType
  usageLimit : Option Nat
  singleUse : Bool
  oncePerCustomer : Bool
  oncePerOrder : Bool
  onlyForStaff : Bool
  minItems : Option Nat
  start : Instant
  finish : Option Instant
  listings : List (ChannelKey × VoucherListing)

/-- A code of a voucher, with the number of times that it was used. -/
structure VoucherCode where
  voucher : VoucherKey
  text : String
  used : Nat
  isActive : Bool
  deriving DecidableEq, Repr

/-- Why a voucher is refused. -/
inductive VoucherError where
  | notApplicable (reason : NotApplicable)
  | invalidPromoCode
  | duplicateCode (text : String)
  | voucherNotFound (key : VoucherKey)
  | codeNotFound (key : CodeKey)
  | pricing (error : PricingError)
  deriving DecidableEq, Repr

/-- The message of an error; a missing voucher or code is an internal fault. -/
def VoucherError.message : VoucherError → String
  | .notApplicable reason => reason.message
  | .invalidPromoCode => "promo code is invalid"
  | .duplicateCode text => "voucher code " ++ Text.quoted text ++ " already exists"
  | .voucherNotFound key => "voucher " ++ toString key.index ++ " not found"
  | .codeNotFound key => "voucher code " ++ toString key.index ++ " not found"
  | .pricing error => error.message

namespace Voucher

/-- What the voucher lists for a channel. -/
def listing? (voucher : Voucher) (channel : ChannelKey) : Option VoucherListing :=
  lookup voucher.listings channel

/-- Whether the voucher can be redeemed in a channel at this time. -/
def isActiveIn (voucher : Voucher) (channel : ChannelKey) (now : Instant) : Bool :=
  now.within voucher.start voucher.finish && (voucher.listing? channel).isSome

/-- The discount of the voucher in a channel. -/
def discountIn (voucher : Voucher) (channel : ChannelKey) : Except NotApplicable DiscountValue :=
  match voucher.listing? channel with
  | some listing => .ok ⟨listing.value, voucher.valueType⟩
  | none => .error .channelNotAvailable

/-- What the voucher takes off a price in a channel. -/
def discountAmount (voucher : Voucher) (price : Money) (channel : ChannelKey) :
    Except VoucherError Money := do
  let discount ← (voucher.discountIn channel).mapError .notApplicable
  (discount.amountOff price).mapError .pricing

/-- The purchase must reach the minimum to be spent, where that is in its currency. -/
def checkMinSpent (voucher : Voucher) (total : Money) (channel : ChannelKey) :
    Except NotApplicable Unit :=
  match voucher.listing? channel with
  | none => .error .channelNotAvailable
  | some listing =>
    match listing.minSpent with
    | some minimum =>
      if minimum.currency = total.currency ∧ total.minorUnits < minimum.minorUnits then
        .error (.minSpent minimum)
      else .ok ()
    | none => .ok ()

/-- The purchase must have as many items as the voucher asks for. -/
def checkMinItems (voucher : Voucher) (quantity : Nat) : Except NotApplicable Unit :=
  match voucher.minItems with
  | some minimum => if quantity < minimum then .error (.minItems minimum) else .ok ()
  | none => .ok ()

/-! ## Discounts on single products -/

/-- The first of the prices that are lowest. -/
def cheapest? : List Money → Option Money
  | [] => none
  | price :: rest =>
    match cheapest? rest with
    | some other => if price.minorUnits ≤ other.minorUnits then some price else some other
    | none => some price

/-- What the voucher takes off products, given as quantities and unit prices: off one of the
cheapest where it applies once per order, otherwise off each. -/
def productsDiscount (voucher : Voucher) (units : List (Nat × Money)) (channel : ChannelKey)
    (currency : Currency) : Except VoucherError Money :=
  let units := units.filter (·.1 != 0)
  if voucher.oncePerOrder then
    match cheapest? (units.map Prod.snd) with
    | some price => voucher.discountAmount price channel
    | none => .ok (.zero currency)
  else do
    let discounts ← units.mapM fun (quantity, price) => do
      let discount ← voucher.discountAmount price channel
      return { discount with minor := discount.minor * quantity }
    (Money.total currency discounts).mapError .pricing

end Voucher

end Retail
