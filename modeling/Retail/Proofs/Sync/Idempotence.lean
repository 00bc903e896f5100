import Retail.Proofs.Settled
import Retail.Proofs.Sync.Convergence
import Retail.Proofs.Sync.Steady
import Retail.Proofs.Sync.Turnover

/-!
# Promotions brought in step twice

A basket whose promotions were just brought in step is left alone when they are brought in step
again: the records of its lines carry what the rules grant, the same order rule wins at the same
base prices, and its record carries what that rule grants. The ledger is not even written to, since
neither a field is outdated nor a record missing nor one too many.

The first time may find the basket in any state, as long as the ledger has its records and a line
has one record of each rule at most. Where two records of a rule hang on a line, only the first of
them is brought in line.

## Main definitions

* `Basket.Stored`: records with keys of their own, which the ledger has as they are

## Main results

* `Basket.Stored.syncPromotions`: the ledger has the records afterwards as well
* `Basket.Settles.runOn_settleOrderPromotion`: an order promotion that was just settled
* `Basket.Stored.runOn_syncPromotions`: promotions that were just brought in step
* `syncPromotions_idempotent`: checkouts and orders
-/

namespace Retail

variable {basket basket' : Basket} {ledger ledger' : Ledger} {rest : List DiscountRecord}
  {shipping : Money} {book : Promotions} {now : Instant} {winner : Option PromotionTerms}
  {terms : PromotionTerms} {record : DiscountRecord} {report : SyncReport}

/-! ## Records that the ledger has -/

/-- The records have keys of their own, and the ledger has each of them as it is. -/
structure Basket.Stored (basket : Basket) (ledger : Ledger) : Prop where
  nodup : (basket.records.map (·.key)).Nodup
  stored : ∀ record ∈ basket.records, ledger.get? record.key = some record

namespace Basket

theorem Stored.exists_holds (h : basket.Stored ledger) :
    ∃ rest, ledger.Holds (basket.records ++ rest) :=
  Ledger.exists_holds h.nodup h.stored

theorem stored_of_holds (h : ledger.Holds (basket.records ++ rest)) : basket.Stored ledger := by
  have hnodup := h.nodup
  rw [List.map_append] at hnodup
  exact ⟨hnodup.of_append_left, fun record hrecord => h.get? (List.mem_append_left _ hrecord)⟩

theorem Stored.nodup_discounts (h : basket.Stored ledger) :
    (basket.discounts.map (·.key)).Nodup := by
  have hnodup := h.nodup
  rw [records, List.map_append] at hnodup
  exact hnodup.of_append_left

theorem Stored.nodup_lineRecords (h : basket.Stored ledger) :
    (basket.lineRecords.map (·.key)).Nodup := by
  have hnodup := h.nodup
  rw [records, List.map_append] at hnodup
  exact hnodup.of_append_right

theorem Stored.syncLines {changes : LineChanges} (h : basket.Stored ledger)
    (hlines : (Retail.syncLines book).runOn (basket, ledger) = (.ok changes, (basket', ledger'))) :
    basket'.Stored ledger' := by
  obtain ⟨rest, hholds⟩ := h.exists_holds
  have hdiscounts : basket'.discounts = basket.discounts := by
    obtain ⟨_, _, -, -, rfl, -⟩ := exists_of_syncLines_eq_ok hlines
    rfl
  have hafter := (holds_records.1 hholds).syncLines hlines
  rw [← hdiscounts] at hafter
  exact stored_of_holds (holds_records.2 hafter)

theorem Stored.rewritten (h : basket.Stored ledger)
    (hrewritten : basket.Rewritten basket' ledger ledger') : basket'.Stored ledger' := by
  obtain ⟨rest, hholds⟩ := h.exists_holds
  rw [records, List.append_assoc] at hholds
  have hafter := hrewritten.holds _ hholds
  rw [← List.append_assoc, ← hrewritten.lines] at hafter
  exact stored_of_holds hafter

/-- The ledger follows the promotions that are brought in step. -/
theorem Stored.syncPromotions (h : basket.Stored ledger)
    (hsync : (Retail.syncPromotions shipping book now).runOn (basket, ledger) =
      (.ok report, (basket', ledger'))) : basket'.Stored ledger' := by
  obtain ⟨⟨middle, ledger₁⟩, hlines, horder⟩ := syncPromotions_eq_ok.1 hsync
  have hmiddle := h.syncLines hlines
  exact hmiddle.rewritten (rewritten_syncOrderPromotion hmiddle.nodup_discounts horder)

/-! ## The order promotion -/

/-- An order promotion that was just kept is kept without any change. -/
theorem Kept.runOn_keepOrderPromotion (h : Kept terms basket basket' record)
    (hnodup : (basket'.discounts.map (·.key)).Nodup) (ledger : Ledger) :
    (keepOrderPromotion terms).runOn (basket', ledger) = (.ok (), (basket', ledger)) := by
  have hmem : record ∈ basket'.discounts := by
    have hown : record ∈ basket'.orderPromotions := h.orderPromotions ▸ List.mem_singleton_self _
    exact (List.mem_filter.1 hown).1
  have hnone : record.outdatedFields terms = [] := Discount.outdatedFields_eq_nil_iff.2 h.carries
  have hsame : basket'.discounts.map (·.updatedBy (.ofList []) (record.sync terms)) =
      basket'.discounts := by
    refine (List.map_congr_left fun other _ => ?_).trans (List.map_id _)
    rw [← DiscountRecord.updatedByAll_singleton, DiscountRecord.updatedByAll_of_isEmpty rfl, id]
  have hupdate : (updateOrderPromotion record.key terms).runOn (basket', ledger) =
      (.ok (), (basket', ledger)) := by
    refine (updateOrderPromotion_eq_ok hnodup).2 ⟨record, ⟨hmem, rfl⟩, ?_, ?_⟩
    · rw [hnone, hsame]
    · rw [Ledger.Follows, if_pos hnone]
  refine (keepOrderPromotion_eq_ok_of_cons h.orderPromotions).2 ⟨basket', ?_, ?_⟩
  · rw [List.map_nil, without_nil, Ledger.without_nil]
    exact hupdate
  · rw [h.eq]
    rfl

/-- A basket without an order promotion is cleared without any change. -/
theorem cleared_cleared (basket : Basket) : basket.cleared.cleared = basket.cleared := by
  have hdiscounts := basket.otherDiscounts_cleared
  have hshown := basket.discount_cleared_cleared
  show { basket.cleared with
    discounts := basket.cleared.otherDiscounts
    discount := basket.cleared.cleared.discount } = basket.cleared
  rw [hdiscounts, hshown]
  rfl

/-- An order promotion that was just settled is settled without any change. -/
theorem Settles.runOn_settleOrderPromotion (h : basket.Settles basket' winner)
    (hnodup : (basket'.discounts.map (·.key)).Nodup) (ledger : Ledger) :
    (settleOrderPromotion winner).runOn (basket', ledger) = (.ok (), (basket', ledger)) := by
  cases winner with
  | none =>
    obtain rfl : basket' = basket.cleared := h
    refine (runOn_clearOrderPromotion _ ledger).trans ?_
    rw [cleared_cleared, orderPromotions_cleared, List.map_nil, Ledger.without_nil]
  | some terms =>
    obtain ⟨record, hkept⟩ := h
    exact hkept.runOn_keepOrderPromotion hnodup ledger

/-! ## All promotions -/

/-- Promotions that were just brought in step are left as they are. -/
theorem Stored.runOn_syncPromotions (hstored : basket.Stored ledger)
    (hdistinct : ∀ line ∈ basket.lines, line.Distinct)
    (h : (Retail.syncPromotions shipping book now).runOn (basket, ledger) =
      (.ok report, (basket', ledger'))) :
    (Retail.syncPromotions shipping book now).runOn (basket', ledger') =
      (.ok ⟨⟨0, 0, 0⟩, report.orderRule⟩, (basket', ledger')) := by
  have hafter := hstored.syncPromotions h
  obtain ⟨⟨middle, ledger₁⟩, hlines, horder⟩ := syncPromotions_eq_ok.1 h
  obtain ⟨hmiddle, hsynced⟩ := synced_syncLines hstored.nodup_lineRecords hdistinct hlines
  obtain ⟨prices, winner, hwinner, hrule, hsettle⟩ := syncOrderPromotion_eq_ok.1 horder
  have hsettles : (middle.withBasePrices prices).Settles basket' winner :=
    settles_of_settleOrderPromotion (hstored.syncLines hlines).nodup_discounts hsettle
  have hsteady : ∀ line ∈ middle.lines, line.InStep book middle.language := by
    intro line hline
    obtain ⟨source, -, hline⟩ := exists_left_of_forall₂ hsynced hline
    rw [hmiddle]
    exact hline.inStep
  rw [hrule]
  apply hsettles.runOn_syncPromotions hwinner hsteady rfl
  exact hsettles.runOn_settleOrderPromotion hafter.nodup_discounts ledger'

end Basket

/-! ## Checkouts and orders -/

/-- **Promotions brought in step twice.** Where the ledger has the records of a checkout or an order
and no line has two records of a rule, the second time changes nothing: no line, the same order rule,
and no write to the ledger, which would have noted it. -/
theorem syncPromotions_idempotent (book : Promotions) (now : Instant) :
    (∀ (channel : Channel) (checkout checkout' : Checkout) (ledger ledger' : Ledger)
      (report : SyncReport), checkout.toBasket.Stored ledger →
      (∀ line ∈ checkout.lines, line.Distinct) →
      (Checkout.onBasket (syncPromotions (checkout.deliveryPrice channel) book now)).runOn
        (checkout, ledger) = (.ok report, (checkout', ledger')) →
      (Checkout.onBasket (syncPromotions (checkout'.deliveryPrice channel) book now)).runOn
        (checkout', ledger') = (.ok ⟨⟨0, 0, 0⟩, report.orderRule⟩, (checkout', ledger'))) ∧
    ∀ (order order' : Order) (ledger ledger' : Ledger) (report : SyncReport),
      order.toBasket.Stored ledger → (∀ line ∈ order.lines, line.Distinct) →
      (Order.onBasket (syncPromotions order.baseShippingPrice book now)).runOn
        (order, ledger) = (.ok report, (order', ledger')) →
      (Order.onBasket (syncPromotions order'.baseShippingPrice book now)).runOn
        (order', ledger') = (.ok ⟨⟨0, 0, 0⟩, report.orderRule⟩, (order', ledger')) := by
  constructor
  · intro channel checkout checkout' ledger ledger' report hstored hdistinct h
    obtain ⟨basket, hbasket, rfl⟩ := Checkout.onBasket_eq_ok.1 h
    have hdelivery : ({ checkout with toBasket := basket } : Checkout).deliveryPrice channel =
        checkout.deliveryPrice channel := by
      have hsettled := Basket.settled_syncPromotions hstored.nodup_discounts
        hstored.nodup_lineRecords hdistinct hbasket
      have hcurrency : basket.currency = checkout.currency := hsettled.sameSale.currency
      rw [Checkout.deliveryPrice, Checkout.deliveryPrice, hcurrency]
    rw [hdelivery]
    exact Checkout.onBasket_eq_ok.2 ⟨basket, hstored.runOn_syncPromotions hdistinct hbasket, rfl⟩
  · intro order order' ledger ledger' report hstored hdistinct h
    obtain ⟨basket, hbasket, rfl⟩ := Order.onBasket_eq_ok.1 h
    exact Order.onBasket_eq_ok.2 ⟨basket, hstored.runOn_syncPromotions hdistinct hbasket, rfl⟩

/-- Catalogue rules of one and of a hundred percent, and an order rule of one percent. -/
def saleRules : Promotions :=
  { catalogueRules [.one, .hundred] with
    rules := (catalogueRules [.one, .hundred]).rules.push
      { promotion := ⟨1⟩, name := none, channels := [⟨1⟩]
        target := .order (.all []) .subtotalDiscount
        value := ⟨.one, .percentage⟩, localizations := [] } }

/-- A basket of lines that are not in step, with two order promotions. -/
def staleBasket : Basket :=
  { Basket.start ⟨1⟩ .gbp with
    lines := markedDown
    discounts := [idlePromotion.withKey ⟨5⟩, idlePromotion.withKey ⟨6⟩] }

/-- The records of `staleBasket`. -/
def staleLedger : Ledger :=
  (Ledger.empty.create
    ((staleBasket.lineRecords ++ staleBasket.discounts).map (·.toDiscount))).1

/-- The basket as a checkout that is not shipped. -/
def staleCheckout : Checkout := { Checkout.start ⟨1⟩ .gbp with toBasket := staleBasket }

/-- The basket as an order. -/
def staleOrder : Order := { Order.start ⟨1⟩ .gbp with toBasket := staleBasket }

/-- The first time a record of a rule is entered and another one updated, two records of lines and
one of the order go, and the order promotion is brought in line. The second time nothing happens. -/
theorem syncPromotions_idempotent_staleBasket :
    (∃ checkout' ledger',
      (Checkout.onBasket (syncPromotions (staleCheckout.deliveryPrice ⟨.gbp, []⟩) saleRules
        ⟨0⟩)).runOn (staleCheckout, staleLedger) =
          (.ok ⟨⟨1, 1, 2⟩, some ⟨3⟩⟩, (checkout', ledger')) ∧
      (Checkout.onBasket (syncPromotions (checkout'.deliveryPrice ⟨.gbp, []⟩) saleRules
        ⟨0⟩)).runOn (checkout', ledger') =
          (.ok ⟨⟨0, 0, 0⟩, some ⟨3⟩⟩, (checkout', ledger'))) ∧
    ∃ order' ledger',
      (Order.onBasket (syncPromotions staleOrder.baseShippingPrice saleRules ⟨0⟩)).runOn
        (staleOrder, staleLedger) = (.ok ⟨⟨1, 1, 2⟩, some ⟨3⟩⟩, (order', ledger')) ∧
      (Order.onBasket (syncPromotions order'.baseShippingPrice saleRules ⟨0⟩)).runOn
        (order', ledger') = (.ok ⟨⟨0, 0, 0⟩, some ⟨3⟩⟩, (order', ledger')) := by
  have hstored : staleBasket.Stored staleLedger := ⟨by decide, by decide⟩
  have hcheckout : ((Checkout.onBasket (syncPromotions (staleCheckout.deliveryPrice ⟨.gbp, []⟩)
      saleRules ⟨0⟩)).runOn (staleCheckout, staleLedger)).1 = .ok ⟨⟨1, 1, 2⟩, some ⟨3⟩⟩ := by
    decide +kernel
  have horder : ((Order.onBasket (syncPromotions staleOrder.baseShippingPrice saleRules
      ⟨0⟩)).runOn (staleOrder, staleLedger)).1 = .ok ⟨⟨1, 1, 2⟩, some ⟨3⟩⟩ := by decide +kernel
  obtain ⟨hagain, hagain'⟩ := syncPromotions_idempotent saleRules ⟨0⟩
  constructor
  · generalize hrun : (Checkout.onBasket _).runOn (staleCheckout, staleLedger) = run at hcheckout
    obtain ⟨_, checkout', ledger'⟩ := run
    obtain rfl : _ = Except.ok _ := hcheckout
    exact ⟨checkout', ledger', rfl, hagain _ staleCheckout checkout' staleLedger ledger' _ hstored
      distinct_markedDown hrun⟩
  · generalize hrun : (Order.onBasket _).runOn (staleOrder, staleLedger) = run at horder
    obtain ⟨_, order', ledger'⟩ := run
    obtain rfl : _ = Except.ok _ := horder
    exact ⟨order', ledger', rfl, hagain' staleOrder order' staleLedger ledger' _ hstored
      distinct_markedDown hrun⟩

end Retail
