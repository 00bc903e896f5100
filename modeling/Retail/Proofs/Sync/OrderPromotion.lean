import Retail.Proofs.Sync.Lines
import Retail.Sync.OrderPromotion

/-!
# The record of the order promotion in step

What the order promotion becomes depends on which rule wins for the basket, if any does. Each part
of bringing it in step succeeds in one way only, and the ledger follows at once.

## Main definitions

* `Basket.otherDiscounts`: the records of the order besides those of order promotions
* `Basket.cleared`: a basket without an order promotion
* `Basket.without`, `Ledger.without`: without the records of some keys
* `Basket.winner`: the base prices of a basket, and what the order rule grants that applies

## Main results

* `runOn_clearOrderPromotion`, `updateOrderPromotion_eq_ok`, `keepOrderPromotion_eq_ok_of_nil`,
  `keepOrderPromotion_eq_ok_of_cons`: the parts
* `syncOrderPromotion_eq_ok`: the base prices, then the order promotion that won
* `syncPromotions_eq_ok`: the records of the lines, then the order promotion
* `Basket.HeldIn.syncPromotions`: the ledger follows the records of lines and of the order promotion
-/

namespace Retail

/-! ## Parts of baskets and ledgers -/

/-- The ledger without the records of some keys; nothing is written where there are none. -/
def Ledger.without (keys : List RecordKey) (ledger : Ledger) : Ledger :=
  if keys = [] then ledger else (ledger.delete keys).1

@[simp] theorem Ledger.without_nil (ledger : Ledger) : ledger.without [] = ledger := if_pos rfl

theorem Ledger.toList_without (keys : List RecordKey) (ledger : Ledger) :
    (ledger.without keys).toList = ledger.toList.filter (!keys.contains ·.key) := by
  rw [without]
  split
  · rename_i hnone
    simp [hnone]
  · exact toList_delete _

namespace Basket

/-- The records of the order besides those of order promotions. -/
def otherDiscounts (basket : Basket) : List DiscountRecord :=
  basket.discounts.filter (·.kind != .orderPromotion)

/-- The basket without the records of the order of some keys. -/
def without (keys : List RecordKey) (basket : Basket) : Basket :=
  { basket with discounts := basket.discounts.filter (!keys.contains ·.key) }

@[simp] theorem without_nil (basket : Basket) : basket.without [] = basket := by
  simp [without]

/-- The basket without an order promotion; without a voucher code it shows no discount. -/
def cleared (basket : Basket) : Basket :=
  { basket with
    discounts := basket.otherDiscounts
    discount := if basket.voucherCode.isNone && !basket.discount.isNone then .none basket.currency
      else basket.discount }

/-- The basket with its base prices. -/
def withBasePrices (prices : BasePrices) (basket : Basket) : Basket :=
  { basket with baseSubtotal := prices.subtotal, baseTotal := prices.total }

/-- The base prices, and what the order rule grants that applies to them. With a voucher code there
is none. -/
def winner (shipping : Money) (book : Promotions) (now : Instant) (basket : Basket) :
    Except SyncError (BasePrices × Option PromotionTerms) := do
  let prices ← (basket.basePricesWith shipping).mapError .pricing
  if basket.voucherCode.isSome then return (prices, none)
  let rules := book.rulesForPrices basket.channel prices now
  match ← (bestReward rules prices.subtotal basket.currency).mapError .pricing with
  | none => return (prices, none)
  | some ((key, rule), amount) =>
    match book.promotions.get? rule.promotion with
    | none => throw (.promotion (.promotionNotFound rule.promotion))
    | some promotion => return (prices, some (rule.terms key promotion amount basket.language))

end Basket

variable {basket basket' : Basket} {ledger ledger' : Ledger} {rest : List DiscountRecord}
  {shipping : Money} {book : Promotions} {now : Instant} {terms : PromotionTerms} {u : Unit}

/-! ## No order promotion -/

theorem Basket.otherDiscounts_of_orderPromotions_eq_nil (h : basket.orderPromotions = []) :
    basket.otherDiscounts = basket.discounts := by
  rw [orderPromotions, List.filter_eq_nil_iff] at h
  exact List.filter_eq_self.2 fun record hrecord => by simpa using h record hrecord

/-- Clearing always succeeds, and writes nothing where there is nothing to remove. -/
theorem runOn_clearOrderPromotion (basket : Basket) (ledger : Ledger) :
    clearOrderPromotion.runOn (basket, ledger) =
      (.ok (), (basket.cleared, ledger.without (basket.orderPromotions.map (·.key)))) := by
  simp only [clearOrderPromotion, SyncStep.runOn_basket_bind, Ledger.without]
  by_cases hnone : basket.orderPromotions = []
  · simp only [hnone, List.map_nil, List.isEmpty_nil, Bool.not_true, Bool.false_eq_true, if_false,
      if_true, SyncStep.runOn_changeBasket, Basket.cleared,
      Basket.otherDiscounts_of_orderPromotions_eq_nil hnone]
    split <;> rfl
  · have hkeys : (basket.orderPromotions.map (·.key)).isEmpty = false := by simpa using hnone
    simp only [hkeys, Bool.not_false, if_true, List.map_eq_nil_iff, if_neg hnone,
      SyncStep.runOn_discard_delete_bind, SyncStep.runOn_changeBasket_bind,
      SyncStep.runOn_changeBasket, Basket.cleared]
    split <;> rfl

theorem Basket.orderPromotions_cleared (basket : Basket) : basket.cleared.orderPromotions = [] := by
  rw [orderPromotions, List.filter_eq_nil_iff]
  intro record hrecord
  simpa using (List.mem_filter.1 hrecord).2

theorem Basket.otherDiscounts_cleared (basket : Basket) :
    basket.cleared.otherDiscounts = basket.otherDiscounts := by
  rw [otherDiscounts, cleared, otherDiscounts, List.filter_filter]
  simp

theorem Basket.discount_cleared (basket : Basket) :
    if basket.voucherCode.isSome then basket.cleared.discount = basket.discount
      else basket.cleared.discount.isNone := by
  rw [cleared]
  cases basket.voucherCode with
  | some code => rfl
  | none =>
    cases hshown : basket.discount.isNone with
    | true => simp [hshown]
    | false => rfl

/-- A discount that is not shown any more stays so. -/
theorem Basket.discount_cleared_cleared (basket : Basket) :
    basket.cleared.cleared.discount = basket.cleared.discount := by
  rw [cleared]
  by_cases hshown : (basket.cleared.voucherCode.isNone && !basket.cleared.discount.isNone) = true
  · -- Nothing is shown after the first time, so nothing can be taken back.
    have hnone : basket.cleared.discount.isNone = true := by
      have hcode : basket.voucherCode.isNone = true := (Bool.and_eq_true_iff.1 hshown).1
      have hcleared := basket.discount_cleared
      rw [if_neg (by simpa using hcode)] at hcleared
      exact hcleared
    simp [hnone] at hshown
  · rw [if_neg hshown]

/-! ## One order promotion -/

theorem UpdatedFields.isEmpty_ofList {fields : List DiscountField} :
    (ofList fields).isEmpty = true ↔ fields = [] := by
  rw [isEmpty, List.isEmpty_iff, List.eq_nil_iff_forall_not_mem, List.eq_nil_iff_forall_not_mem]
  exact forall_congr' fun field => not_congr mem_ofList

/-- The ledger is written where a record is outdated. -/
def Ledger.Follows (record : DiscountRecord) (terms : PromotionTerms) (ledger ledger' : Ledger) :
    Prop :=
  if record.outdatedFields terms = [] then ledger' = ledger
    else ledger.update [record.sync terms] (.ofList (record.outdatedFields terms)) = .ok ledger'

theorem Ledger.Follows.toList_eq {record : DiscountRecord}
    (h : ledger.Follows record terms ledger') :
    ledger'.toList = ledger.toList.map
      (·.updatedBy (.ofList (record.outdatedFields terms)) (record.sync terms)) := by
  rw [Follows] at h
  split at h
  · rename_i hnone
    have hempty := UpdatedFields.isEmpty_ofList.2 hnone
    rw [h]
    refine ((List.map_congr_left fun other _ => ?_).trans (List.map_id _)).symm
    rw [← DiscountRecord.updatedByAll_singleton, DiscountRecord.updatedByAll_of_isEmpty hempty, id]
  · exact Ledger.toList_update h

/-- The record under the key is brought in line with the terms. -/
theorem updateOrderPromotion_eq_ok {key : RecordKey}
    (hnodup : (basket.discounts.map (·.key)).Nodup) :
    (updateOrderPromotion key terms).runOn (basket, ledger) = (.ok u, (basket', ledger')) ↔
      ∃ record, (record ∈ basket.discounts ∧ record.key = key) ∧
        basket' = { basket with
          discounts := basket.discounts.map
            (·.updatedBy (.ofList (record.outdatedFields terms)) (record.sync terms)) } ∧
        ledger.Follows record terms ledger' := by
  simp only [updateOrderPromotion, SyncStep.runOn_basket_bind, ← find?_key_eq_some hnodup]
  cases hfind : basket.discounts.find? fun record => record.key == key with
  | none => simp
  | some record =>
    have hchange := @changeFirst?_sync _ _ _ terms (.ofList (record.outdatedFields terms)) hnodup
      hfind fun _ => UpdatedFields.mem_ofList.2
    simp only [hchange, SyncStep.runOn_changeBasket_bind, Option.some.injEq, exists_eq_left',
      Ledger.Follows]
    by_cases hnone : record.outdatedFields terms = []
    · simp only [UpdatedFields.isEmpty_ofList.2 hnone, Bool.not_true, Bool.false_eq_true, if_false,
        if_pos hnone, Step.runOn_pure, Prod.mk.injEq, true_and]
      exact and_congr eq_comm eq_comm
    · have hempty : (UpdatedFields.ofList (record.outdatedFields terms)).isEmpty = false := by
        rw [Bool.eq_false_iff, ne_eq, UpdatedFields.isEmpty_ofList]
        exact hnone
      simp only [hempty, Bool.not_false, if_true, if_neg hnone, SyncStep.runOn_update_eq_ok,
        Prod.mk.injEq]
      constructor
      · rintro ⟨_, hupdate, rfl, rfl⟩
        exact ⟨rfl, hupdate⟩
      · rintro ⟨rfl, hupdate⟩
        exact ⟨ledger', hupdate, rfl, rfl⟩

/-- The basket, showing what a promotion gives. -/
def Basket.showing (terms : PromotionTerms) (basket : Basket) : Basket :=
  { basket with discount := ⟨terms.amount, terms.name, terms.localizedName⟩ }

/-- A first record of the order promotion is created. -/
theorem keepOrderPromotion_eq_ok_of_nil (hops : basket.orderPromotions = []) :
    (keepOrderPromotion terms).runOn (basket, ledger) = (.ok u, (basket', ledger')) ↔
      ∃ records, ledger.create [.ofTerms .order .orderPromotion terms] = (ledger', records) ∧
        basket' = { basket with discounts := basket.discounts ++ records }.showing terms := by
  simp only [keepOrderPromotion, SyncStep.runOn_basket_bind, hops, List.map_nil,
    SyncStep.runOn_create_bind, SyncStep.runOn_changeBasket_bind, SyncStep.runOn_changeBasket,
    Prod.mk.injEq, true_and]
  constructor
  · rintro ⟨rfl, rfl⟩
    exact ⟨_, rfl, rfl⟩
  · rintro ⟨records, hcreate, rfl⟩
    rw [hcreate]
    exact ⟨rfl, rfl⟩

/-- Records beside the first one go, and the first one is brought in line. -/
theorem keepOrderPromotion_eq_ok_of_cons {first : DiscountRecord} {extras : List DiscountRecord}
    (hops : basket.orderPromotions = first :: extras) :
    (keepOrderPromotion terms).runOn (basket, ledger) = (.ok u, (basket', ledger')) ↔
      ∃ kept, (updateOrderPromotion first.key terms).runOn
          (basket.without (extras.map (·.key)), ledger.without (extras.map (·.key))) =
            (.ok (), (kept, ledger')) ∧
        basket' = kept.showing terms := by
  have hrest : ∀ start : Basket × Ledger,
      (do updateOrderPromotion first.key terms
          SyncStep.changeBasket (·.showing terms) : SyncStep Unit).runOn start =
            (.ok u, (basket', ledger')) ↔
        ∃ kept, (updateOrderPromotion first.key terms).runOn start = (.ok (), (kept, ledger')) ∧
          basket' = kept.showing terms := by
    intro start
    simp only [Step.runOn_bind_eq_ok, SyncStep.runOn_changeBasket, Prod.mk.injEq, true_and,
      Prod.exists]
    constructor
    · rintro ⟨_, kept, _, hupdate, rfl, rfl⟩
      exact ⟨kept, hupdate, rfl⟩
    · rintro ⟨kept, hupdate, rfl⟩
      exact ⟨(), kept, ledger', hupdate, rfl, rfl⟩
  rw [← hrest]
  cases extras with
  | nil =>
    simp only [keepOrderPromotion, SyncStep.runOn_basket_bind, hops, List.map_cons, List.map_nil,
      List.isEmpty_nil, Bool.not_true, Bool.false_eq_true, if_false, Basket.without_nil,
      Ledger.without, if_true]
    rfl
  | cons extra extras =>
    simp only [keepOrderPromotion, SyncStep.runOn_basket_bind, hops, List.map_cons,
      List.isEmpty_cons, Bool.not_false, if_true, SyncStep.runOn_discard_delete_bind,
      SyncStep.runOn_changeBasket_bind, Ledger.without, reduceCtorEq, if_false]
    rfl

/-! ## The rule that applies -/

/-- Gives a basket the order promotion that won, or none. -/
def settleOrderPromotion : Option PromotionTerms → SyncStep Unit
  | none => clearOrderPromotion
  | some terms => keepOrderPromotion terms

/-- The base prices are found first, and then the basket gets the order promotion that won. -/
theorem syncOrderPromotion_eq_ok {answer : Option RuleKey} :
    (syncOrderPromotion shipping book now).runOn (basket, ledger) =
        (.ok answer, (basket', ledger')) ↔
      ∃ prices winner, basket.winner shipping book now = .ok (prices, winner) ∧
        answer = winner.map (·.rule) ∧
        (settleOrderPromotion winner).runOn (basket.withBasePrices prices, ledger) =
          (.ok (), (basket', ledger')) := by
  have hsettled : ∀ (winner : Option PromotionTerms) (rule : Option RuleKey) (priced : Basket),
      (do settleOrderPromotion winner; pure rule : SyncStep (Option RuleKey)).runOn
          (priced, ledger) = (.ok answer, (basket', ledger')) ↔
        answer = rule ∧ (settleOrderPromotion winner).runOn (priced, ledger) =
          (.ok (), (basket', ledger')) := by
    intro winner rule priced
    rw [Step.runOn_bind_pure_eq_ok]
    constructor
    · rintro ⟨_, h, rfl⟩
      exact ⟨rfl, h⟩
    · rintro ⟨rfl, h⟩
      exact ⟨_, h, rfl⟩
  simp only [syncOrderPromotion, SyncStep.runOn_basket_bind, Step.runOn_answer_bind_eq_ok,
    SyncStep.runOn_changeBasket_bind, Basket.winner, bind_eq_ok, mapError_eq_ok]
  -- Both sides take the same turns: a voucher code, no rule, or a rule with its promotion.
  cases hprices : basket.basePricesWith shipping with
  | error e => simp
  | ok prices =>
    simp only [Except.ok.injEq, exists_eq_left']
    by_cases hcode : basket.voucherCode.isSome
    · simp only [if_pos hcode, pure_eq_ok, Prod.mk.injEq, and_assoc, exists_and_left,
        exists_eq_left']
      exact hsettled none none _
    · simp only [if_neg hcode, bind_eq_ok, Step.runOn_answer_bind_eq_ok, mapError_eq_ok]
      cases hbest : bestReward (book.rulesForPrices basket.channel prices now) prices.subtotal
          basket.currency with
      | error e => simp
      | ok best =>
        simp only [Except.ok.injEq, exists_eq_left']
        rcases best with _ | ⟨⟨key, rule⟩, amount⟩
        · simp only [pure_eq_ok, Prod.mk.injEq, and_assoc, exists_and_left, exists_eq_left']
          exact hsettled none none _
        · cases hpromotion : book.promotions.get? rule.promotion with
          | none => simp [hpromotion, throw_eq_ok]
          | some promotion =>
            simp only [hpromotion, pure_eq_ok, Prod.mk.injEq, and_assoc, exists_and_left,
              exists_eq_left']
            exact hsettled (some _) (some key) _

/-- The records of the lines come first, and then the order promotion. -/
theorem syncPromotions_eq_ok {report : SyncReport} {after : Basket × Ledger} :
    (syncPromotions shipping book now).runOn (basket, ledger) = (.ok report, after) ↔
      ∃ middle, (syncLines book).runOn (basket, ledger) = (.ok report.lines, middle) ∧
        (syncOrderPromotion shipping book now).runOn middle = (.ok report.orderRule, after) := by
  simp only [syncPromotions, Step.runOn_bind_eq_ok, Step.runOn_pure, Prod.mk.injEq,
    Except.ok.injEq]
  constructor
  · rintro ⟨changes, middle, hlines, rule, _, horder, rfl, rfl⟩
    exact ⟨middle, hlines, horder⟩
  · rintro ⟨middle, hlines, horder⟩
    exact ⟨_, middle, hlines, _, after, horder, rfl, rfl⟩

/-! ## The ledger

The order promotion concerns the records of the order only; those of the lines are among the rest
that the ledger holds. -/

/-- The records of the order changed, in the basket and in the ledger alike, and the lines did
not. -/
structure Basket.Rewritten (basket basket' : Basket) (ledger ledger' : Ledger) : Prop where
  lines : basket'.lines = basket.lines
  placed : (∀ record ∈ basket.discounts, record.scope = .order) →
    ∀ record ∈ basket'.discounts, record.scope = .order
  holds : ∀ rest, ledger.Holds (basket.discounts ++ rest) →
    ledger'.Holds (basket'.discounts ++ rest)

namespace Basket

variable {middle : Basket} {ledger₁ : Ledger}

theorem Rewritten.trans (h : basket.Rewritten middle ledger ledger₁)
    (h' : middle.Rewritten basket' ledger₁ ledger') : basket.Rewritten basket' ledger ledger' :=
  ⟨h'.lines.trans h.lines, fun hplaced => h'.placed (h.placed hplaced),
    fun rest hholds => h'.holds rest (h.holds rest hholds)⟩

/-- A change of neither records nor lines. -/
theorem rewritten_of_eq (hdiscounts : basket'.discounts = basket.discounts)
    (hlines : basket'.lines = basket.lines) : basket.Rewritten basket' ledger ledger :=
  ⟨hlines, fun hplaced => hdiscounts ▸ hplaced, fun _ hholds => hdiscounts ▸ hholds⟩

theorem rewritten_without {keys : List RecordKey}
    (hkeys : ∀ key ∈ keys, key ∈ basket.discounts.map (·.key)) :
    basket.Rewritten (basket.without keys) ledger (ledger.without keys) :=
  ⟨rfl, fun hplaced record hrecord => hplaced record (List.mem_filter.1 hrecord).1,
    fun _ hholds => hholds.filter hkeys (ledger.toList_without keys)⟩

theorem rewritten_append {new : List DiscountRecord}
    (hplaced : ∀ record ∈ new, record.scope = .order)
    (hlist : ledger'.toList = ledger.toList ++ new) :
    basket.Rewritten { basket with discounts := basket.discounts ++ new } ledger ledger' := by
  refine ⟨rfl, fun hbefore => List.forall_mem_append.2 ⟨hbefore, hplaced⟩, fun rest hholds => ?_⟩
  refine (hholds.append hlist).perm ?_
  rw [List.append_assoc, List.append_assoc]
  exact List.perm_append_comm.append_left _

theorem rewritten_clearOrderPromotion (hnodup : (basket.discounts.map (·.key)).Nodup)
    (h : clearOrderPromotion.runOn (basket, ledger) = (.ok u, (basket', ledger'))) :
    basket.Rewritten basket' ledger ledger' := by
  rw [runOn_clearOrderPromotion] at h
  obtain ⟨rfl, rfl⟩ := Prod.mk.inj (Prod.mk.inj h).2
  refine (rewritten_without fun _ => mem_keys_of_mem_filter).trans (rewritten_of_eq ?_ rfl)
  exact (filter_keys_filter hnodup).symm

theorem rewritten_updateOrderPromotion {key : RecordKey}
    (hnodup : (basket.discounts.map (·.key)).Nodup)
    (h : (updateOrderPromotion key terms).runOn (basket, ledger) = (.ok u, (basket', ledger'))) :
    basket.Rewritten basket' ledger ledger' := by
  obtain ⟨record, ⟨hrecord, -⟩, rfl, hfollows⟩ := (updateOrderPromotion_eq_ok hnodup).1 h
  have hkeys : ∀ update ∈ [record.sync terms], update.key ∈ basket.discounts.map (·.key) := by
    rw [List.forall_mem_singleton]
    exact List.mem_map.2 ⟨record, hrecord, rfl⟩
  refine ⟨rfl, fun hplaced => ?_, fun rest hholds => hholds.map hkeys hfollows.toList_eq⟩
  rw [List.forall_mem_map]
  intro other hother
  rw [← DiscountRecord.updatedByAll_singleton, DiscountRecord.sameOrigin_updatedByAll.scope]
  exact hplaced other hother

theorem mem_keys_of_orderPromotions {first : DiscountRecord} {extras : List DiscountRecord}
    (hops : basket.orderPromotions = first :: extras) :
    ∀ key ∈ extras.map (·.key), key ∈ basket.discounts.map (·.key) := by
  intro key hkey
  refine @mem_keys_of_mem_filter _ (·.kind == .orderPromotion) _ ?_
  show key ∈ basket.orderPromotions.map (·.key)
  rw [hops]
  exact List.mem_cons_of_mem _ hkey

theorem rewritten_keepOrderPromotion (hnodup : (basket.discounts.map (·.key)).Nodup)
    (h : (keepOrderPromotion terms).runOn (basket, ledger) = (.ok u, (basket', ledger'))) :
    basket.Rewritten basket' ledger ledger' := by
  cases hops : basket.orderPromotions with
  | nil =>
    obtain ⟨records, hcreate, rfl⟩ := (keepOrderPromotion_eq_ok_of_nil hops).1 h
    obtain ⟨hlist, hnew⟩ := @Ledger.toList_create ledger [.ofTerms .order .orderPromotion terms]
    rw [hcreate] at hlist hnew
    have hplaced : ∀ record ∈ records, record.scope = .order := by
      intro record hrecord
      have hmem : record.toDiscount ∈ records.map (·.toDiscount) := List.mem_map_of_mem hrecord
      rw [hnew, List.mem_singleton] at hmem
      rw [hmem]
      rfl
    exact (rewritten_append hplaced hlist).trans (rewritten_of_eq rfl rfl)
  | cons first extras =>
    obtain ⟨kept, hupdate, rfl⟩ := (keepOrderPromotion_eq_ok_of_cons hops).1 h
    have hnodup' : ((basket.without (extras.map (·.key))).discounts.map (·.key)).Nodup :=
      (List.filter_sublist.map _).nodup hnodup
    have hupdated := rewritten_updateOrderPromotion hnodup' hupdate
    exact ((rewritten_without (mem_keys_of_orderPromotions hops)).trans hupdated).trans
      (rewritten_of_eq rfl rfl)

theorem rewritten_settleOrderPromotion {winner : Option PromotionTerms}
    (hnodup : (basket.discounts.map (·.key)).Nodup)
    (h : (settleOrderPromotion winner).runOn (basket, ledger) = (.ok u, (basket', ledger'))) :
    basket.Rewritten basket' ledger ledger' := by
  cases winner with
  | none => exact rewritten_clearOrderPromotion hnodup h
  | some terms => exact rewritten_keepOrderPromotion hnodup h

theorem rewritten_syncOrderPromotion {rule : Option RuleKey}
    (hnodup : (basket.discounts.map (·.key)).Nodup)
    (h : (syncOrderPromotion shipping book now).runOn (basket, ledger) =
      (.ok rule, (basket', ledger'))) :
    basket.Rewritten basket' ledger ledger' := by
  obtain ⟨prices, winner, -, -, hsettle⟩ := syncOrderPromotion_eq_ok.1 h
  have hpriced : basket.Rewritten (basket.withBasePrices prices) ledger ledger :=
    rewritten_of_eq rfl rfl
  exact hpriced.trans (rewritten_settleOrderPromotion hnodup hsettle)

theorem HeldIn.rewritten (hheld : basket.HeldIn ledger rest)
    (h : basket.Rewritten basket' ledger ledger') : basket'.HeldIn ledger' rest := by
  refine ⟨⟨h.placed hheld.placed.order, h.lines ▸ hheld.placed.line⟩, ?_⟩
  have hholds := hheld.holds
  rw [records, List.append_assoc] at hholds ⊢
  rw [h.lines]
  exact h.holds _ hholds

/-- The ledger follows the records of the lines and of the order promotion. -/
theorem HeldIn.syncPromotions {report : SyncReport} (hheld : basket.HeldIn ledger rest)
    (h : (Retail.syncPromotions shipping book now).runOn (basket, ledger) =
      (.ok report, (basket', ledger'))) :
    basket'.HeldIn ledger' rest := by
  obtain ⟨⟨middle, ledger₁⟩, hlines, horder⟩ := syncPromotions_eq_ok.1 h
  have hmiddle := hheld.syncLines hlines
  exact hmiddle.rewritten (rewritten_syncOrderPromotion hmiddle.nodup_discounts horder)

/-! Once it is known which rule wins nothing fails, since the ledger has the records. -/

theorem HeldIn.exists_updateOrderPromotion {key : RecordKey} (hheld : basket.HeldIn ledger rest)
    (hkey : key ∈ basket.discounts.map (·.key)) (terms : PromotionTerms) :
    ∃ basket' ledger', (Retail.updateOrderPromotion key terms).runOn (basket, ledger) =
      (.ok (), (basket', ledger')) := by
  obtain ⟨record, hrecord, rfl⟩ := List.mem_map.1 hkey
  have hstored : record ∈ ledger.toList := hheld.mem_toList_of_mem_discounts hrecord
  have hfollows : ∃ ledger', ledger.Follows record terms ledger' := by
    by_cases hnone : record.outdatedFields terms = []
    · exact ⟨ledger, by rw [Ledger.Follows, if_pos hnone]⟩
    · have hkeys : ∀ update ∈ [record.sync terms], update.key ∈ ledger.toList.map (·.key) :=
        List.forall_mem_singleton.2 (List.mem_map.2 ⟨record, hstored, rfl⟩)
      obtain ⟨ledger', hupdate⟩ := Ledger.exists_update hkeys
      exact ⟨ledger', by rw [Ledger.Follows, if_neg hnone, hupdate]⟩
  obtain ⟨ledger', hfollows⟩ := hfollows
  exact ⟨_, ledger', (updateOrderPromotion_eq_ok hheld.nodup_discounts).2
    ⟨record, ⟨hrecord, rfl⟩, rfl, hfollows⟩⟩

theorem HeldIn.exists_keepOrderPromotion (hheld : basket.HeldIn ledger rest)
    (terms : PromotionTerms) :
    ∃ basket' ledger', (Retail.keepOrderPromotion terms).runOn (basket, ledger) =
      (.ok (), (basket', ledger')) := by
  cases hops : basket.orderPromotions with
  | nil => exact ⟨_, _, (keepOrderPromotion_eq_ok_of_nil hops).2 ⟨_, rfl, rfl⟩⟩
  | cons first extras =>
    have hkeys : (first.key :: extras.map (·.key)).Nodup := by
      have hsub : (basket.orderPromotions.map (·.key)).Sublist (basket.discounts.map (·.key)) :=
        List.filter_sublist.map _
      rw [hops] at hsub
      exact hheld.nodup_discounts.sublist hsub
    have hfirst : first ∈ basket.discounts := by
      have hmem : first ∈ basket.orderPromotions := hops ▸ List.mem_cons_self
      exact (List.mem_filter.1 hmem).1
    have hkept : first.key ∈ (basket.without (extras.map (·.key))).discounts.map (·.key) := by
      refine List.mem_map_of_mem (List.mem_filter.2 ⟨hfirst, ?_⟩)
      simpa using (List.nodup_cons.1 hkeys).1
    obtain ⟨basket', ledger', hupdate⟩ :=
      (hheld.rewritten (rewritten_without (mem_keys_of_orderPromotions hops))).exists_updateOrderPromotion
        hkept terms
    exact ⟨_, ledger', (keepOrderPromotion_eq_ok_of_cons hops).2 ⟨basket', hupdate, rfl⟩⟩

/-- The order promotion that won can be settled. -/
theorem HeldIn.exists_settleOrderPromotion (hheld : basket.HeldIn ledger rest)
    (winner : Option PromotionTerms) :
    ∃ basket' ledger', (settleOrderPromotion winner).runOn (basket, ledger) =
      (.ok (), (basket', ledger')) := by
  cases winner with
  | none => exact ⟨_, _, runOn_clearOrderPromotion basket ledger⟩
  | some terms => exact hheld.exists_keepOrderPromotion terms

end Basket

end Retail
