import Retail.Assembly.Basic
import Retail.Manifest.Sales

/-!
# Assembling checkouts and orders

Checkouts and orders are entered in the order of their names. The voucher of an order and a discount
given by the staff become records that have taken nothing off yet.

## Main definitions

* `Assembly.addCheckout`, `Assembly.addOrder`: one checkout, one order
* `Assembly.addSales`: all of them
-/

namespace Retail

namespace Assembly

/-- A channel with its key. -/
def channel (a : Assembly) (name : String) : Except LoadError (ChannelKey × Channel) := do
  let key ← a.channelKey name
  match a.scenario.channels.get? key with
  | some channel => return (key, channel)
  | none => throw (.unknownName .channel name)

/-- Enters a line at the price of its variant in the channel. -/
def addLine (channel : ChannelKey) (channelName : String) (a : Assembly) (entry : LineEntry) :
    Except LoadError (Assembly × Line) := do
  let variant ← a.variantKey entry.variant
  let price := (a.scenario.catalogue.variants.get? variant).bind (·.price channel)
  let price ← price.elim (.error (.notListed entry.variant channelName)) .ok
  let keys := a.scenario.lineKeys
  let line ← (Line.create keys.nextKey variant entry.quantity price).mapError .pricing
  return ({ a with scenario := { a.scenario with lineKeys := keys.push () } }, line)

/-- Enters the lines one after the other. -/
def addLines (channel : ChannelKey) (channelName : String) :
    Assembly → List LineEntry → Except LoadError (Assembly × List Line)
  | a, [] => .ok (a, [])
  | a, entry :: rest => do
    let (a, line) ← a.addLine channel channelName entry
    let (a, lines) ← addLines channel channelName a rest
    return (a, line :: lines)

/-- The voucher to which a code belongs. -/
def voucherOfCode (a : Assembly) (text : String) : Except LoadError VoucherKey :=
  let vouchers := a.scenario.vouchers
  let code := (vouchers.findCode? text).bind vouchers.codes.get?
  code.elim (.error (.unknownName .voucherCode text)) fun code => .ok code.voucher

/-! ## Checkouts -/

/-- Enters a checkout. Its voucher is the one of its code, and it shows no discount yet. -/
def addCheckout (a : Assembly) : String × BasketEntry → Except LoadError Assembly
  | (name, entry) => do
    let (key, channel) ← a.channel entry.channel
    let (a, lines) ← addLines key entry.channel a entry.lines
    let shippingMethod ← entry.shippingMethod.mapM a.shippingMethodKey
    let voucher ← entry.voucherCode.mapM a.voucherOfCode
    let checkout : Checkout := { Checkout.start key channel.currency with
      lines
      voucher
      voucherCode := entry.voucherCode
      email := entry.email
      customer := entry.customer
      language := entry.language
      shippingMethod }
    return { a with scenario := { a.scenario with
      checkouts := a.scenario.checkouts ++ [(name, checkout)] } }

/-! ## Orders -/

/-- The price of a shipping method that must be listed in the channel. -/
def shippingPrice (a : Assembly) (channel : Channel) (name : String) : Except LoadError Money := do
  let price := channel.shippingPrice (← a.shippingMethodKey name)
  price.elim (.error (.unknownName .shippingMethod name)) .ok

/-- The discount of the voucher with which an order was placed. -/
def voucherDiscount (a : Assembly) (channel : ChannelKey) (currency : Currency) (text : String) :
    Except LoadError (VoucherKey × Discount) := do
  let key ← a.voucherOfCode text
  match a.scenario.vouchers.vouchers.get? key with
  | none => throw (.voucher (.voucherNotFound key))
  | some voucher =>
    let value ← (voucher.discountIn channel).mapError fun reason => .voucher (.notApplicable reason)
    return (key, {
      scope := .order
      kind := .voucher
      valueType := value.valueType
      value := value.value
      amount := .zero currency
      voucher := some key
      voucherCode := some text })

/-- A discount given by the staff. -/
def manualDiscount (currency : Currency) (entry : ManualEntry) : Except LoadError Discount := do
  return {
    scope := .order
    kind := .manual
    valueType := entry.valueType
    value := ← readNumber entry.value
    amount := .zero currency
    name := some "Manual discount"
    reason := entry.reason }

/-- Enters the discounts of an order in the ledger, if it has any. -/
def enterDiscounts (a : Assembly) (discounts : List Discount) : Assembly × List DiscountRecord :=
  if discounts.isEmpty then (a, [])
  else
    let (ledger, records) := a.scenario.ledger.create discounts
    ({ a with scenario := { a.scenario with ledger } }, records)

/-- Enters an order with the discounts of its voucher and of the staff, in this order. -/
def addOrder (a : Assembly) : String × OrderEntry → Except LoadError Assembly
  | (name, entry) => do
    let (key, channel) ← a.channel entry.channel
    let (a, lines) ← addLines key entry.channel a entry.lines
    let shipping ← entry.shippingMethod.mapM (a.shippingPrice channel)
    let voucher ← entry.voucherCode.mapM (a.voucherDiscount key channel.currency)
    let manual ← entry.manual.mapM (manualDiscount channel.currency)
    let (a, discounts) := a.enterDiscounts ((voucher.map Prod.snd).toList ++ manual.toList)
    let order := (Order.start key channel.currency).withShippingPrice
      (shipping.getD (.zero channel.currency))
    let order := { order with
      lines
      voucher := voucher.map Prod.fst
      voucherCode := entry.voucherCode
      email := entry.email
      customer := entry.customer
      language := entry.language
      discounts }
    return { a with scenario := { a.scenario with
      orders := a.scenario.orders ++ [(name, order)] } }

/-! ## All of them -/

/-- The entries in the order of their names. -/
def byName {α : Type} (entries : Named α) : Named α :=
  entries.mergeSort fun x y => !decide (y.1 < x.1)

/-- Enters all checkouts, then all orders. -/
def addSales (a : Assembly) (manifest : SalesManifest) : Except LoadError Assembly := do
  let a ← (byName manifest.checkouts).foldlM addCheckout a
  (byName manifest.orders).foldlM addOrder a

end Assembly

end Retail
