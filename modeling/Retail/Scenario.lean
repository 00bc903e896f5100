import Retail.Checkout
import Retail.Order.Pricing
import Retail.Sync.OrderPromotion
import Retail.Voucher.Usage

/-!
# Scenarios

A scenario holds a shop with its checkouts and orders. Reconciling it at a time gives every line its
catalogue price, drops vouchers that do not apply any more from checkouts, brings all records in
step with the rules and charges the orders.

## Main definitions

* `Scenario`: the shop
* `ReconcileError`: why a scenario cannot be reconciled
* `Checkout.reconcile`, `Order.reconcile`: one checkout, one order
* `Scenario.reconcile`: all of them
-/

namespace Retail

/-- A shop with all that is sold, offered and recorded in it, and with its checkouts and orders
under their names. -/
structure Scenario where
  channels : Registry .channel Channel
  shippingMethods : Registry .shippingMethod String
  catalogue : Catalogue
  promotions : Promotions
  vouchers : Vouchers
  ledger : Ledger
  lineKeys : Registry .line Unit
  checkouts : List (String × Checkout)
  orders : List (String × Order)

/-- Why a scenario cannot be reconciled. -/
inductive ReconcileError where
  | unknownChannel (key : ChannelKey)
  | pricing (error : PricingError)
  | ledger (error : LedgerError)
  | promotion (error : PromotionError)
  | voucher (error : VoucherError)
  deriving DecidableEq, Repr

namespace ReconcileError

/-- An error of bringing records in step. -/
def ofSync : SyncError → ReconcileError
  | .pricing error => .pricing error
  | .ledger error => .ledger error
  | .promotion error => .promotion error

/-- An error of charging an order. -/
def ofOrder : OrderError → ReconcileError
  | .pricing error => .pricing error
  | .ledger error => .ledger error

end ReconcileError

/-! ## Checkouts -/

namespace Checkout

/-- A step on the basket and the ledger as one on the checkout and the ledger. -/
def onBasket {α : Type} (step : SyncStep α) : Step (Checkout × Ledger) ReconcileError α :=
  (step.mapError .ofSync).on (fun (checkout, ledger) => (checkout.toBasket, ledger))
    fun (basket, ledger) (checkout, _) => ({ checkout with toBasket := basket }, ledger)

/-- Gives the lines their catalogue prices. -/
def setCataloguePrices (promotions : Promotions) (now : Instant) :
    Step (Checkout × Ledger) ReconcileError Unit := do
  let channel := (← get).1.channel
  ((cataloguePrices promotions channel now).mapError .pricing).on (·.1.lines)
    fun lines (checkout, ledger) => ({ checkout with lines }, ledger)

/-- Takes the voucher off the checkout when its code cannot be used or it does not apply. -/
def dropInvalidVoucher (vouchers : Vouchers) (now : Instant) :
    Step (Checkout × Ledger) ReconcileError Unit := do
  let (checkout, ledger) ← get
  match checkout.voucherCode with
  | none => return
  | some text =>
    let checked : Except VoucherError Unit := do
      discard (vouchers.usableCode text checkout.channel now)
      checkout.validateVoucher vouchers
    let dropped := ({ checkout with voucher := none, voucherCode := none }, ledger)
    match checked with
    | .ok () => return
    | .error .invalidPromoCode => set dropped
    | .error (.notApplicable _) => set dropped
    | .error error => throw (.voucher error)

/-- Shows what the voucher takes off. -/
def showVoucher (channel : Channel) (vouchers : Vouchers) :
    Step (Checkout × Ledger) ReconcileError Unit := do
  let (checkout, ledger) ← get
  match checkout.voucher with
  | none => return
  | some key =>
    match vouchers.vouchers.get? key with
    | none => throw (.voucher (.voucherNotFound key))
    | some voucher =>
      let amount ← Step.answer ((checkout.voucherAmount channel voucher).mapError .voucher)
      set ({ checkout with discount := ⟨amount, voucher.name, none⟩ }, ledger)

/-- Reconciles a checkout. -/
def reconcile (channel : Channel) (promotions : Promotions) (vouchers : Vouchers) (now : Instant) :
    Step (Checkout × Ledger) ReconcileError SyncReport := do
  setCataloguePrices promotions now
  -- A checkout that loses its voucher here may carry an order promotion below.
  dropInvalidVoucher vouchers now
  let shipping := (← get).1.deliveryPrice channel
  let report ← onBasket (syncPromotions shipping promotions now)
  showVoucher channel vouchers
  return report

end Checkout

/-! ## Orders -/

namespace Order

/-- A step on the basket and the ledger as one on the order and the ledger. -/
def onBasket {α : Type} (step : SyncStep α) : Step (Order × Ledger) ReconcileError α :=
  (step.mapError .ofSync).on (fun (order, ledger) => (order.toBasket, ledger))
    fun (basket, ledger) (order, _) => ({ order with toBasket := basket }, ledger)

/-- Gives the lines their catalogue prices. -/
def setCataloguePrices (promotions : Promotions) (now : Instant) :
    Step (Order × Ledger) ReconcileError Unit := do
  let channel := (← get).1.channel
  ((cataloguePrices promotions channel now).mapError .pricing).on (·.1.lines)
    fun lines (order, ledger) => ({ order with lines }, ledger)

/-- A voucher that does not apply any more stays on an order. -/
def checkVoucher (vouchers : Vouchers) : Step (Order × Ledger) ReconcileError Unit := do
  match (← get).1.validateVoucher vouchers with
  | .ok () => return
  | .error (.notApplicable _) => return
  | .error error => throw (.voucher error)

/-- The discount that a record of a voucher shows. -/
def voucherSummary (vouchers : Vouchers) (record : DiscountRecord) : DiscountSummary :=
  ⟨record.amount, record.voucher.bind fun key => (vouchers.vouchers.get? key).bind (·.name), none⟩

/-- Shows the discount of the first record of a voucher. -/
def showVoucher (vouchers : Vouchers) : Step (Order × Ledger) ReconcileError Unit :=
  modify fun (order, ledger) =>
    match order.discounts.find? (·.kind == .voucher) with
    | some record => ({ order with discount := voucherSummary vouchers record }, ledger)
    | none => (order, ledger)

/-- Reconciles an order. -/
def reconcile (promotions : Promotions) (vouchers : Vouchers) (now : Instant) :
    Step (Order × Ledger) ReconcileError SyncReport := do
  setCataloguePrices promotions now
  let shipping := (← get).1.baseShippingPrice
  let report ← onBasket (syncPromotions shipping promotions now)
  discard ((applyDiscounts vouchers true).mapError .ofOrder)
  checkVoucher vouchers
  showVoucher vouchers
  return report

end Order

/-! ## The whole scenario -/

namespace Scenario

/-- A shop with nothing in it. -/
def empty : Scenario where
  channels := .empty
  shippingMethods := .empty
  catalogue := .empty
  promotions := .empty
  vouchers := .empty
  ledger := .empty
  lineKeys := .empty
  checkouts := []
  orders := []

instance : Inhabited Scenario := ⟨empty⟩

/-- The first checkout with this name. -/
def checkout? (scenario : Scenario) (name : String) : Option Checkout :=
  (scenario.checkouts.find? (·.1 == name)).map Prod.snd

/-- The first order with this name. -/
def order? (scenario : Scenario) (name : String) : Option Order :=
  (scenario.orders.find? (·.1 == name)).map Prod.snd

/-- Does a step on each of the named targets and the ledger, up to the first failure. -/
def forEachTarget {τ : Type} (step : Step (τ × Ledger) ReconcileError Unit) :
    Step (List (String × τ) × Ledger) ReconcileError Unit :=
  .of fun (targets, ledger) => go targets ledger
where
  /-- Does the step on the targets of the list. -/
  go : List (String × τ) → Ledger → Except ReconcileError Unit × (List (String × τ) × Ledger)
    | [], ledger => (.ok (), [], ledger)
    | (name, target) :: rest, ledger =>
      match step.runOn (target, ledger) with
      | (.error e, target, ledger) => (.error e, (name, target) :: rest, ledger)
      | (.ok (), target, ledger) =>
        let (result, rest, ledger) := go rest ledger
        (result, (name, target) :: rest, ledger)

/-- Reconciles a checkout whose channel is known. -/
def reconcileCheckout (scenario : Scenario) (now : Instant) :
    Step (Checkout × Ledger) ReconcileError Unit := do
  let key := (← get).1.channel
  match scenario.channels.get? key with
  | none => throw (.unknownChannel key)
  | some channel => discard (Checkout.reconcile channel scenario.promotions scenario.vouchers now)

/-- Reconciles an order whose channel is known. -/
def reconcileOrder (scenario : Scenario) (now : Instant) :
    Step (Order × Ledger) ReconcileError Unit := do
  let key := (← get).1.channel
  match scenario.channels.get? key with
  | none => throw (.unknownChannel key)
  | some _ => discard (Order.reconcile scenario.promotions scenario.vouchers now)

/-- Reconciles all checkouts, then all orders. -/
def reconcile (now : Instant) : Step Scenario ReconcileError Unit := do
  let scenario ← get
  Step.on (fun scenario => (scenario.checkouts, scenario.ledger))
    (fun (checkouts, ledger) (scenario : Scenario) => { scenario with checkouts, ledger })
    (forEachTarget (scenario.reconcileCheckout now))
  Step.on (fun scenario => (scenario.orders, scenario.ledger))
    (fun (orders, ledger) (scenario : Scenario) => { scenario with orders, ledger })
    (forEachTarget (scenario.reconcileOrder now))

end Scenario

end Retail
