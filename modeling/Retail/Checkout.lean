import Retail.Basket

/-!
# Checkouts

A checkout is a basket that is not paid yet; it may choose a shipping method.

## Main definitions

* `Checkout`: a checkout
* `Checkout.deliveryPrice`: what shipping costs
* `Checkout.voucherAmount`: what a voucher takes off
* `Checkout.validateVoucher`: whether its voucher still applies
-/

namespace Retail

/-- A basket with the shipping method that was chosen for it, if it is to be shipped. -/
structure Checkout extends Basket where
  shippingMethod : Option ShippingMethodKey
  isShippingRequired : Bool
  deriving DecidableEq

namespace Checkout

/-- A checkout without lines, to be shipped in a way that is not chosen yet. -/
def start (channel : ChannelKey) (currency : Currency) : Checkout where
  toBasket := .start channel currency
  shippingMethod := none
  isShippingRequired := true

/-- The listed price of the shipping method; a method that is not listed costs nothing. -/
def deliveryPrice (checkout : Checkout) (channel : Channel) : Money :=
  let free := Money.zero checkout.currency
  if checkout.isShippingRequired then
    (checkout.shippingMethod.bind channel.shippingPrice).getD free
  else free

/-- What is left of the delivery price when a voucher for shipping is redeemed. -/
def deliveryPriceAfter (checkout : Checkout) (channel : Channel) (voucher : Voucher) :
    Except VoucherError Money :=
  let price := checkout.deliveryPrice channel
  if checkout.isShippingRequired && voucher.voucherType == .shipping then do
    let discount ← voucher.discountAmount price checkout.channel
    (price.sub discount).mapError .pricing
  else .ok price

/-- What the voucher takes off the checkout. -/
def voucherAmount (checkout : Checkout) (channel : Channel) (voucher : Voucher) :
    Except VoucherError Money :=
  match voucher.voucherType with
  | .entireOrder => voucher.discountAmount checkout.baseSubtotal checkout.channel
  | .shipping => do
    let discounted ← checkout.deliveryPriceAfter channel voucher
    ((checkout.deliveryPrice channel).sub discounted).mapError .pricing
  | .specificProduct =>
    voucher.productsDiscount (checkout.lines.map fun line => (line.quantity, line.baseUnitPrice))
      checkout.channel checkout.currency

/-- Whether the voucher of the checkout applies to what is in it. -/
def validateVoucher (checkout : Checkout) (vouchers : Vouchers) : Except VoucherError Unit :=
  match checkout.voucher with
  | none => .ok ()
  | some voucher => do
    let subtotal ← (baseSubtotalAfterVouchers checkout.lines checkout.currency).mapError .pricing
    vouchers.validate voucher subtotal checkout.quantity checkout.customerEmail checkout.channel
      checkout.customer

end Checkout

end Retail
