import Retail.Discount.Ledger
import Retail.Line.Redistribution
import Retail.Order.Basic

/-!
# Prices of orders

The discounts of an order are taken off its subtotal and its shipping price one after the other, and
each record notes what it took off. What the subtotal lost is spread over the lines.

## Main definitions

* `OrderPrices`: subtotal and shipping price
* `OrderPrices.after`: the prices after one discount
* `Order.applyDiscounts`: the prices after all discounts
-/

namespace Retail

/-- Subtotal and shipping price. -/
structure OrderPrices where
  subtotal : Money
  shipping : Money
  deriving DecidableEq, Repr

namespace OrderPrices

/-- Takes a discount off the subtotal. -/
def onSubtotal (prices : OrderPrices) (discount : Discount) (currency : Currency) :
    Except PricingError OrderPrices := do
  return { prices with
    subtotal := ← discountedPrice discount.value discount.valueType currency prices.subtotal }

/-- Takes a discount off the shipping price. -/
def onShipping (prices : OrderPrices) (discount : Discount) (currency : Currency) :
    Except PricingError OrderPrices := do
  return { prices with
    shipping := ← discountedPrice discount.value discount.valueType currency prices.shipping }

/-- The prices after a fixed amount was taken off both in proportion to them. -/
def onBoth (prices : OrderPrices) (discount : Discount) (currency : Currency) :
    Except PricingError OrderPrices := do
  let combined ← prices.subtotal.add prices.shipping
  if combined.minorUnits ≤ 0 then return prices
  let discounted ← discountedPrice discount.value discount.valueType currency combined
  let off ← combined.sub discounted
  let offSubtotal ← off.share prices.subtotal combined
  -- Shipping bears what the share of the subtotal leaves, so that no minor unit is lost.
  let offShipping ← off.sub offSubtotal
  return ⟨← prices.subtotal.sub offSubtotal, ← prices.shipping.sub offShipping⟩

/-- The prices after one discount. A voucher acts by its type; one for single products and one that
is not known take nothing off here. -/
def after (prices : OrderPrices) (discount : Discount) (vouchers : Vouchers) (currency : Currency) :
    Except PricingError OrderPrices :=
  match discount.kind with
  | .promotion => .ok prices
  | .orderPromotion => prices.onSubtotal discount currency
  | .voucher =>
    match discount.voucher.bind vouchers.typeOf? with
    | some .entireOrder => prices.onSubtotal discount currency
    | some .shipping => prices.onShipping discount currency
    | some .specificProduct => .ok prices
    | none => .ok prices
  | .manual =>
    match discount.valueType with
    | .percentage => do (← prices.onSubtotal discount currency).onShipping discount currency
    | .fixed => prices.onBoth discount currency

/-- What was taken off between two states of the prices. -/
def lostTo (before later : OrderPrices) : Except PricingError Money := do
  let shipping ← before.shipping.sub later.shipping
  shipping.add (← before.subtotal.sub later.subtotal)

end OrderPrices

/-- Why the prices of an order cannot be found. -/
inductive OrderError where
  | pricing (error : PricingError)
  | ledger (error : LedgerError)
  deriving DecidableEq, Repr

namespace Order

/-- Takes the discounts of the records off the prices and notes in each what it took off. The answer
is the prices at the end and the records that changed; with a failure the records before it keep
their new amounts. -/
def priceRecords (vouchers : Vouchers) (currency : Currency) :
    OrderPrices → List DiscountRecord →
      Except PricingError (OrderPrices × List DiscountRecord) × List DiscountRecord
  | prices, [] => (.ok (prices, []), [])
  | prices, record :: rest =>
    -- Catalogue promotions are already in the prices of the lines.
    if record.kind = .promotion then
      let (result, rest) := priceRecords vouchers currency prices rest
      (result, record :: rest)
    else
      let priced : Except PricingError (OrderPrices × Money) := do
        let later ← prices.after record.toDiscount vouchers currency
        return (later, ← prices.lostTo later)
      match priced with
      | .error e => (.error e, record :: rest)
      | .ok (later, amount) =>
        let changed := { record with amount }
        let (result, rest) := priceRecords vouchers currency later rest
        (result.map fun (prices, updates) =>
          (prices, if record.amount = amount then updates else changed :: updates), changed :: rest)

/-- Prices the records of the order. -/
def repriceRecords (vouchers : Vouchers) (prices : OrderPrices) :
    Step Order PricingError (OrderPrices × List DiscountRecord) := .of fun order =>
  let (result, discounts) := priceRecords vouchers order.currency prices order.discounts
  (result, { order with discounts })

/-- Makes prices those of the order, and spreads what the subtotal lost over the lines. -/
def charge (undiscounted : Money) (prices : OrderPrices) : Step Order PricingError Unit := do
  modify fun order => { order with shippingPrice := prices.shipping, subtotal := prices.subtotal }
  let total ← Step.answer (prices.subtotal.add prices.shipping)
  modify fun order => { order with total }
  let off ← Step.answer (undiscounted.sub prices.subtotal)
  discard (Step.on (·.lines) (fun lines (order : Order) => { order with lines })
    (redistribute undiscounted off))

/-- The step of an order as one of an order with the ledger. -/
def alone {ε ε' α : Type} (rename : ε → ε') (step : Step Order ε α) : Step (Order × Ledger) ε' α :=
  (step.mapError rename).on Prod.fst fun order whole => (order, whole.2)

/-- Takes all discounts of the order off, notes the amounts in its records and in the ledger, and
charges the prices where `override` asks for it. -/
def applyDiscounts (vouchers : Vouchers) (override : Bool) :
    Step (Order × Ledger) OrderError OrderPrices := do
  let (order, _) ← get
  let undiscounted ← Step.answer (order.toBasket.subtotal.mapError .pricing)
  let (prices, updates) ← alone .pricing
    (repriceRecords vouchers ⟨undiscounted, order.baseShippingPrice⟩)
  if !updates.isEmpty then
    let (order, ledger) ← get
    let ledger ← Step.answer ((ledger.update updates (.ofList [.amount])).mapError .ledger)
    set (order, ledger)
  if override then
    alone .pricing (charge undiscounted prices)
  return prices

end Order

end Retail
