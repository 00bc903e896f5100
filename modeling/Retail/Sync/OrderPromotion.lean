import Retail.Promotion.Offer
import Retail.Sync.Lines

/-!
# The record of the order promotion

A basket without a voucher code carries one record of the order rule that gives most, and shows it;
a basket with a code carries none.

## Main definitions

* `clearOrderPromotion`: no record and no discount shown
* `keepOrderPromotion`: one record of the given rule
* `syncOrderPromotion`: the record brought in step with the rules
* `syncPromotions`: records of lines and of the order promotion
-/

namespace Retail

/-- The records of order promotions. -/
def Basket.orderPromotions (basket : Basket) : List DiscountRecord :=
  basket.discounts.filter (·.kind == .orderPromotion)

/-- Removes the records of order promotions; without a voucher code, no discount is shown. -/
def clearOrderPromotion : SyncStep Unit := do
  let keys := (← SyncStep.basket).orderPromotions.map (·.key)
  if !keys.isEmpty then
    discard (SyncStep.delete keys)
    SyncStep.changeBasket fun basket =>
      { basket with discounts := basket.discounts.filter (·.kind != .orderPromotion) }
  SyncStep.changeBasket fun basket =>
    if basket.voucherCode.isNone && !basket.discount.isNone then
      { basket with discount := .none basket.currency }
    else basket

/-- Brings the record under a key in line with what a promotion grants. -/
def updateOrderPromotion (key : RecordKey) (terms : PromotionTerms) : SyncStep Unit := do
  let basket ← SyncStep.basket
  let isRecord (record : DiscountRecord) : Bool := record.key == key
  match basket.discounts.find? isRecord, changeFirst? isRecord (·.sync terms) basket.discounts with
  | some record, some (synced, discounts) =>
    SyncStep.changeBasket fun basket => { basket with discounts }
    let fields := UpdatedFields.ofList (record.outdatedFields terms)
    if !fields.isEmpty then
      SyncStep.update [synced] fields
  | _, _ => throw (.ledger (.recordNotFound key))

/-- Keeps one record of what a promotion grants, the first one where there are several, and shows
it. -/
def keepOrderPromotion (terms : PromotionTerms) : SyncStep Unit := do
  match (← SyncStep.basket).orderPromotions.map (·.key) with
  | [] =>
    let records ← SyncStep.create [.ofTerms .order .orderPromotion terms]
    SyncStep.changeBasket fun basket => { basket with discounts := basket.discounts ++ records }
  | current :: extras =>
    if !extras.isEmpty then
      discard (SyncStep.delete extras)
      SyncStep.changeBasket fun basket =>
        { basket with
          discounts := basket.discounts.filter fun record => !extras.contains record.key }
    updateOrderPromotion current terms
  SyncStep.changeBasket fun basket =>
    { basket with discount := ⟨terms.amount, terms.name, terms.localizedName⟩ }

/-- Finds the base prices, and brings the record of the order promotion in step with the rules. The
answer is the rule that applies. -/
def syncOrderPromotion (shipping : Money) (book : Promotions) (now : Instant) :
    SyncStep (Option RuleKey) := do
  let basket ← SyncStep.basket
  let prices ← Step.answer ((basket.basePricesWith shipping).mapError .pricing)
  SyncStep.changeBasket fun basket =>
    { basket with baseSubtotal := prices.subtotal, baseTotal := prices.total }
  if basket.voucherCode.isSome then
    clearOrderPromotion
    return none
  -- Conditions look at the base prices, not at prices after other discounts.
  let rules := book.rulesForPrices basket.channel prices now
  match ← Step.answer ((bestReward rules prices.subtotal basket.currency).mapError .pricing) with
  | none =>
    clearOrderPromotion
    return none
  | some ((key, rule), amount) =>
    match book.promotions.get? rule.promotion with
    | none => throw (.promotion (.promotionNotFound rule.promotion))
    | some promotion =>
      keepOrderPromotion (rule.terms key promotion amount basket.language)
      return some key

/-- What changed in the records of a basket. -/
structure SyncReport where
  lines : LineChanges
  orderRule : Option RuleKey
  deriving DecidableEq, Repr

/-- Brings the records of the lines and of the order promotion in step with the rules. -/
def syncPromotions (shipping : Money) (book : Promotions) (now : Instant) :
    SyncStep SyncReport := do
  let lines ← syncLines book
  let orderRule ← syncOrderPromotion shipping book now
  return ⟨lines, orderRule⟩

end Retail
