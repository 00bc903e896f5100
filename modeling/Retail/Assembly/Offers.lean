import Retail.Assembly.Basic
import Retail.Manifest.Offers

/-!
# Assembling the offers

Promotions with their rules, which are related to the variants that they select when all of them are
entered, and vouchers with their codes.

## Main definitions

* `ConditionEntry.predicate`: the condition of an order rule
* `Assembly.addPromotions`: the promotions
* `Assembly.addVouchers`: the vouchers
-/

namespace Retail

/-! ## Conditions -/

/-- The bounds as numbers; a bound that is not one refuses the manifest. -/
def BoundsEntry.range (bounds : BoundsEntry) : Except LoadError PriceRange := do
  return {
    atLeast := ← bounds.atLeast.mapM readNumber
    atMost := ← bounds.atMost.mapM readNumber
    exactly := ← bounds.exactly.mapM readNumber }

/-- All of the conditions; a single one stands for itself. -/
def OrderPredicate.joined : List OrderPredicate → OrderPredicate
  | [condition] => condition
  | conditions => .all conditions

mutual

/-- The condition that is written down. Lists without conditions do not bind. -/
def ConditionEntry.predicate : ConditionEntry → Except LoadError OrderPredicate
  | .mk all any subtotal total => do
    let all ← ConditionEntry.predicates all
    let any ← ConditionEntry.predicates any
    let subtotal ← subtotal.mapM BoundsEntry.range
    let total ← total.mapM BoundsEntry.range
    return OrderPredicate.joined ((if all.isEmpty then [] else [.all all])
      ++ (if any.isEmpty then [] else [.any any])
      ++ (subtotal.map .subtotal).toList ++ (total.map .total).toList)

/-- The conditions of a list, in the order in which they are written. -/
def ConditionEntry.predicates : List ConditionEntry → Except LoadError (List OrderPredicate)
  | [] => .ok []
  | entry :: rest => do
    return (← ConditionEntry.predicate entry) :: (← ConditionEntry.predicates rest)

end

namespace Assembly

/-! ## Promotions -/

/-- The predicate of the entities that are named. -/
def selection (a : Assembly) (entry : SelectionEntry) : Except LoadError CataloguePredicate := do
  return {
    variants := ← entry.variants.mapM a.variantKey
    products := ← entry.products.mapM a.productKey
    categories := ← entry.categories.mapM a.categoryKey
    collections := ← entry.collections.mapM a.collectionKey }

/-- What a rule applies to. An order rule without a reward gives a discount. -/
def ruleTarget (a : Assembly) (entry : RuleEntry) : Except LoadError RuleTarget :=
  match entry.condition with
  | some condition => do
    return .order (← condition.predicate) (entry.reward.getD .subtotalDiscount)
  | none => do
    return .catalogue (← a.selection (entry.selection.getD {}))

/-- Enters a rule of a promotion. Its value is read before its target and its channels are looked
up. -/
def addRule (promotion : PromotionKey) (a : Assembly) (entry : RuleEntry) :
    Except LoadError Assembly := do
  let value ← readNumber entry.value
  let target ← a.ruleTarget entry
  let channels ← entry.channels.mapM a.channelKey
  let (promotions, _) ← (a.scenario.promotions.addRule {
    promotion
    name := entry.name
    channels
    target
    value := ⟨value, entry.valueType⟩
    localizations := entry.localizations }).mapError .promotion
  return { a with scenario := { a.scenario with promotions } }

/-- Enters a promotion with its rules. -/
def addPromotion (a : Assembly) : String × PromotionEntry → Except LoadError Assembly
  | (name, entry) => do
    let id ← (Uuid.ofText? entry.id).elim (.error (.invalidId entry.id)) .ok
    let (promotions, key) := a.scenario.promotions.addPromotion {
      id
      name := entry.name
      oldSaleId := entry.oldSaleId
      start := entry.start
      finish := entry.finish
      localizations := entry.localizations }
    let a ← entry.rules.foldlM (addRule key)
      { a with scenario := { a.scenario with promotions } }
    return { a with promotions := a.promotions ++ [(name, key)] }

/-- Enters promotions and finds the variants of all rules. -/
def addPromotions (a : Assembly) (entries : Named PromotionEntry) : Except LoadError Assembly := do
  let a ← entries.foldlM addPromotion a
  let (promotions, _) ← (a.scenario.promotions.assignVariants a.scenario.catalogue).mapError
    .promotion
  return { a with scenario := { a.scenario with promotions } }

/-! ## Vouchers -/

/-- What a voucher lists for the channel of a name. The minimum may be in any currency. -/
def voucherListing (a : Assembly) :
    String × ListingEntry → Except LoadError (ChannelKey × VoucherListing)
  | (name, entry) => do
    let minSpent ← entry.minSpent.mapM readPrice
    let key ← a.channelKey name
    return (key, { value := ← readNumber entry.value, minSpent })

/-- Enters a code of a voucher. -/
def addCode (voucher : VoucherKey) (a : Assembly) (text : String) : Except LoadError Assembly := do
  let (vouchers, _) ← (a.scenario.vouchers.addCode voucher text).mapError .voucher
  return { a with scenario := { a.scenario with vouchers } }

/-- Enters a voucher with its codes. -/
def addVoucher (a : Assembly) : String × VoucherEntry → Except LoadError Assembly
  | (name, entry) => do
    let listings ← entry.listings.mapM a.voucherListing
    let (vouchers, key) := a.scenario.vouchers.addVoucher {
      name := entry.name
      voucherType := entry.voucherType
      valueType := entry.valueType
      usageLimit := entry.usageLimit
      singleUse := entry.singleUse
      oncePerCustomer := entry.oncePerCustomer
      oncePerOrder := entry.oncePerOrder
      onlyForStaff := entry.onlyForStaff
      minItems := entry.minItems
      start := entry.start
      finish := entry.finish
      listings }
    let a ← entry.codes.foldlM (addCode key) { a with scenario := { a.scenario with vouchers } }
    return { a with vouchers := a.vouchers ++ [(name, key)] }

/-- Enters the vouchers in the order in which they are written. -/
def addVouchers (a : Assembly) (entries : Named VoucherEntry) : Except LoadError Assembly :=
  entries.foldlM addVoucher a

end Assembly

end Retail
