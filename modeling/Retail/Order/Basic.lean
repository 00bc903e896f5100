import Retail.Basket

/-!
# Orders

An order is a basket with a fixed price for shipping, and with the prices that are charged.

## Main definitions

* `Order`: an order
* `Order.undiscountedTotal`: the base prices with the charged shipping price
* `Order.validateVoucher`: whether its voucher still applies
-/

namespace Retail

/-- An order: `baseShippingPrice` before discounts, the other prices after them. -/
structure Order extends Basket where
  baseShippingPrice : Money
  shippingPrice : Money
  subtotal : Money
  total : Money
  deriving DecidableEq

namespace Order

/-- An order without lines, shipped for nothing. -/
def start (channel : ChannelKey) (currency : Currency) : Order where
  toBasket := .start channel currency
  baseShippingPrice := .zero currency
  shippingPrice := .zero currency
  subtotal := .zero currency
  total := .zero currency

/-- The order with a price for shipping, from which nothing has been taken off. -/
def withShippingPrice (order : Order) (price : Money) : Order :=
  { order with baseShippingPrice := price, shippingPrice := price }

/-- The base prices of the lines together with the charged shipping price. -/
def undiscountedTotal (order : Order) : Except PricingError Money := do
  (← order.toBasket.subtotal).add order.shippingPrice

/-- Whether the voucher of the order applies to its subtotal. -/
def validateVoucher (order : Order) (vouchers : Vouchers) : Except VoucherError Unit :=
  match order.voucher with
  | none => .ok ()
  | some voucher =>
    vouchers.validate voucher order.subtotal order.quantity order.customerEmail order.channel
      order.customer

end Order

end Retail
