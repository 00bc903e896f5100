import Retail.Proofs.Discount.Alike
import Retail.Proofs.Promotion.Choice
import Retail.Proofs.Sync.OrderPromotion

/-!
# The order promotion of a basket

Which order rule applies to a basket depends on its base prices only. With a rule the basket has one
record of an order promotion, the first one that it had, and shows it; without one it has none.

## Main definitions

* `Basket.Wins`: the order rule that applies
* `Basket.Kept`: a basket before and after it was given one

## Main results

* `Basket.winner_eq_none`, `Basket.winner_eq_some`: which rule applies
* `Basket.exists_kept_of_keepOrderPromotion`: one order promotion
-/

namespace Retail

/-- The ledger loses some records and no others. -/
theorem Ledger.get?_without {ledger : Ledger} {keys : List RecordKey} {key : RecordKey} :
    (ledger.without keys).get? key = if key ∈ keys then none else ledger.get? key :=
  get?_of_toList_filter (ledger.toList_without keys)

/-! ## The rule that applies -/

section Winner

variable {basket basket' : Basket} {ledger ledger' : Ledger} {shipping : Money} {book : Promotions}
  {now : Instant} {prices : BasePrices} {winner : Option PromotionTerms} {terms : PromotionTerms}

/-- The rules that may win for some base prices. -/
def Basket.rulesFor (book : Promotions) (now : Instant) (basket : Basket) (prices : BasePrices) :
    List (RuleKey × Rule) :=
  book.rulesForPrices basket.channel prices now

/-- The terms of an order rule that applies and is the first of those that give most. -/
structure Basket.Wins (book : Promotions) (now : Instant) (basket : Basket) (prices : BasePrices)
    (key : RuleKey) (rule : Rule) (terms : PromotionTerms) : Prop where
  largest : FirstLargest Money.minorUnits
    (fun candidate => candidate.2.reward prices.subtotal basket.currency)
    (basket.rulesFor book now prices) (key, rule) terms.amount
  terms_eq : ∃ promotion, book.promotions.get? rule.promotion = some promotion ∧
    terms = rule.terms key promotion terms.amount basket.language

/-- On a subtotal of 64 bits that is not negative the order rule is exactly one of those that give
most. -/
theorem Basket.Wins.exact {key : RuleKey} {rule : Rule}
    (h : basket.Wins book now prices key rule terms)
    (hsubtotal : 0 ≤ prices.subtotal.minor) (hfits : fitsMinor prices.subtotal.minor) :
    FirstLargest Money.minor (fun candidate => candidate.2.reward prices.subtotal basket.currency)
      (basket.rulesFor book now prices) (key, rule) terms.amount :=
  h.largest.exact fun _ _ _ hreward => Rule.fitsMinor_reward hreward hsubtotal hfits

/-- No order promotion wins with a voucher code, or if no rule applies. -/
theorem Basket.winner_eq_none (h : basket.winner shipping book now = .ok (prices, none)) :
    basket.basePricesWith shipping = .ok prices ∧
      (basket.voucherCode.isSome ∨ basket.rulesFor book now prices = []) := by
  simp only [winner, bind_eq_ok, mapError_eq_ok] at h
  obtain ⟨_, hprices, h⟩ := h
  by_cases hcode : basket.voucherCode.isSome
  · rw [if_pos hcode] at h
    obtain ⟨rfl, -⟩ := Prod.mk.inj (pure_eq_ok.1 h)
    exact ⟨hprices, .inl hcode⟩
  · rw [if_neg hcode, bind_eq_ok] at h
    obtain ⟨best, hbest, h⟩ := h
    rcases best with _ | ⟨⟨key, rule⟩, amount⟩
    · obtain ⟨rfl, -⟩ := Prod.mk.inj (pure_eq_ok.1 h)
      exact ⟨hprices, .inr (bestReward_eq_none (mapError_eq_ok.1 hbest))⟩
    · simp only at h
      split at h
      · exact (throw_eq_ok.1 h).elim
      · simp [pure_eq_ok] at h

/-- Otherwise the first of the rules wins that give most. -/
theorem Basket.winner_eq_some (h : basket.winner shipping book now = .ok (prices, some terms)) :
    basket.basePricesWith shipping = .ok prices ∧ basket.voucherCode = none ∧
      ∃ rule, basket.Wins book now prices terms.rule rule terms := by
  simp only [winner, bind_eq_ok, mapError_eq_ok] at h
  obtain ⟨_, hprices, h⟩ := h
  by_cases hcode : basket.voucherCode.isSome
  · rw [if_pos hcode] at h
    simp [pure_eq_ok] at h
  · rw [if_neg hcode, bind_eq_ok] at h
    obtain ⟨best, hbest, h⟩ := h
    rcases best with _ | ⟨⟨key, rule⟩, amount⟩
    · simp [pure_eq_ok] at h
    · simp only at h
      split at h
      · exact (throw_eq_ok.1 h).elim
      · rename_i promotion hpromotion
        simp only [pure_eq_ok, Prod.mk.injEq, Option.some.injEq] at h
        obtain ⟨rfl, rfl⟩ := h
        rw [Bool.not_eq_true, Option.isSome_eq_false_iff, Option.isNone_iff_eq_none] at hcode
        exact ⟨hprices, hcode, rule, bestReward_eq_some (mapError_eq_ok.1 hbest), promotion,
          hpromotion, rfl⟩

/-! ## One order promotion -/

/-- Records of order promotions stand behind the other ones. -/
def PromotionsLast (records : List DiscountRecord) : Prop :=
  records.Pairwise fun a b => a.kind = .orderPromotion → b.kind = .orderPromotion

theorem PromotionsLast.eq {records : List DiscountRecord} (h : PromotionsLast records) :
    records = records.filter (·.kind != .orderPromotion) ++
      records.filter (·.kind == .orderPromotion) := by
  induction records with
  | nil => rfl
  | cons record rest ih =>
    obtain ⟨hfirst, hrest⟩ := List.pairwise_cons.1 h
    by_cases hkind : record.kind = .orderPromotion
    · have hothers : rest.filter (·.kind != .orderPromotion) = [] := by
        rw [List.filter_eq_nil_iff]
        intro other hother
        simp [hfirst other hother hkind]
      have hall : rest.filter (·.kind == .orderPromotion) = rest :=
        List.filter_eq_self.2 fun other hother => by simp [hfirst other hother hkind]
      simp [hkind, hothers, hall]
    · rw [List.filter_cons_of_pos (by simpa using hkind),
        List.filter_cons_of_neg (by simpa using hkind), List.cons_append, ← ih hrest]

/-- The basket was given an order promotion: it has one record of it, the first one that it had
brought in line with the terms, and shows it. -/
structure Basket.Kept (terms : PromotionTerms) (basket basket' : Basket) (record : DiscountRecord) :
    Prop where
  eq : basket' = { basket with
    discounts := basket'.discounts
    discount := ⟨terms.amount, terms.name, terms.localizedName⟩ }
  orderPromotions : basket'.orderPromotions = [record]
  otherDiscounts : basket'.otherDiscounts = basket.otherDiscounts
  created : basket.orderPromotions = [] →
    record.toDiscount = .ofTerms .order .orderPromotion terms ∧
      basket'.discounts = basket.discounts ++ [record]
  synced : ∀ first ∈ basket.orderPromotions.head?, record = first.sync terms
  last : PromotionsLast basket.discounts → PromotionsLast basket'.discounts

theorem Basket.Kept.carries {record : DiscountRecord} (h : Kept terms basket basket' record) :
    record.Carries terms := by
  cases hfirst : basket.orderPromotions with
  | nil => exact (h.created hfirst).1 ▸ Discount.carries_ofTerms _ _ terms
  | cons first extras =>
    rw [h.synced first (hfirst ▸ rfl)]
    exact Discount.carries_sync _ terms

theorem DiscountRecord.kind_updatedBy {fields : UpdatedFields} {record update : DiscountRecord} :
    (record.updatedBy fields update).kind = record.kind := by
  have horigin := @sameOrigin_updatedByAll fields record [update]
  rw [updatedByAll_singleton] at horigin
  exact horigin.kind

theorem filter_map_updatedBy {fields : UpdatedFields} {update : DiscountRecord}
    {records : List DiscountRecord} (p : DiscountKind → Bool) :
    (records.map (·.updatedBy fields update)).filter (p ·.kind) =
      (records.filter (p ·.kind)).map (·.updatedBy fields update) := by
  rw [List.filter_map]
  congr 1
  refine List.filter_congr fun record _ => ?_
  rw [Function.comp_apply, DiscountRecord.kind_updatedBy]

/-- Updates of a record of an order promotion leave the other records alone. -/
theorem Basket.otherDiscounts_map_updatedBy {fields : UpdatedFields} {update first : DiscountRecord}
    (hnodup : (basket.discounts.map (·.key)).Nodup) (hfirst : first ∈ basket.orderPromotions)
    (hkey : update.key = first.key) :
    (basket.discounts.map (·.updatedBy fields update)).filter (·.kind != .orderPromotion) =
      basket.otherDiscounts := by
  obtain ⟨hmem, hkind⟩ := List.mem_filter.1 hfirst
  rw [filter_map_updatedBy (· != .orderPromotion)]
  refine (List.map_congr_left fun record hrecord => ?_).trans (List.map_id _)
  obtain ⟨hrecord, hother⟩ := List.mem_filter.1 hrecord
  refine DiscountRecord.updatedBy_of_ne fun heq => ?_
  rw [List.inj_on_of_nodup_map hnodup hrecord hmem (heq.trans hkey)] at hother
  simp only [bne_iff_ne, ne_eq] at hother
  exact hother (beq_iff_eq.1 hkind)

/-- The first of several order promotions is left when the others are removed. -/
theorem Basket.orderPromotions_without {first : DiscountRecord} {extras : List DiscountRecord}
    (hnodup : (basket.discounts.map (·.key)).Nodup)
    (hops : basket.orderPromotions = first :: extras) :
    (basket.without (extras.map (·.key))).orderPromotions = [first] ∧
      (basket.without (extras.map (·.key))).otherDiscounts = basket.otherDiscounts := by
  have hsub : (basket.orderPromotions.map (·.key)).Nodup := (List.filter_sublist.map _).nodup hnodup
  rw [hops, List.map_cons, List.nodup_cons] at hsub
  refine ⟨?_, ?_⟩
  · rw [orderPromotions, without, List.filter_comm, ← orderPromotions, hops,
      List.filter_cons_of_pos (by simpa using hsub.1)]
    congr 1
    rw [List.filter_eq_nil_iff]
    intro record hrecord
    simp only [Bool.not_eq_true', Bool.not_eq_false, List.contains_iff_mem]
    exact List.mem_map_of_mem hrecord
  · rw [otherDiscounts, without, List.filter_comm, ← otherDiscounts, List.filter_eq_self]
    intro record hrecord
    rw [Bool.not_eq_true', ← Bool.not_eq_true, List.contains_iff_mem]
    intro hmem
    obtain ⟨extra, hextra, hkey⟩ := List.mem_map.1 hmem
    obtain ⟨hrecord, hother⟩ := List.mem_filter.1 hrecord
    have hextra : extra ∈ basket.orderPromotions := hops ▸ List.mem_cons_of_mem _ hextra
    obtain ⟨hextra, hkind⟩ := List.mem_filter.1 hextra
    rw [← List.inj_on_of_nodup_map hnodup hextra hrecord hkey] at hother
    simp only [bne_iff_ne, ne_eq] at hother
    exact hother (beq_iff_eq.1 hkind)

/-- An order promotion that is kept: a new record, or the first one brought in line. -/
theorem Basket.exists_kept_of_keepOrderPromotion (hnodup : (basket.discounts.map (·.key)).Nodup)
    (h : (keepOrderPromotion terms).runOn (basket, ledger) = (.ok (), (basket', ledger'))) :
    ∃ record, Kept terms basket basket' record ∧
      (basket.orderPromotions = [] → ledger'.toList = ledger.toList ++ [record]) ∧
      ∀ first extras, basket.orderPromotions = first :: extras →
        (ledger.without (extras.map (·.key))).Follows first terms ledger' := by
  cases hops : basket.orderPromotions with
  | nil =>
    obtain ⟨records, hcreate, rfl⟩ := (keepOrderPromotion_eq_ok_of_nil hops).1 h
    obtain ⟨hlist, hnew⟩ := @Ledger.toList_create ledger [.ofTerms .order .orderPromotion terms]
    rw [hcreate] at hlist hnew
    obtain ⟨record, rfl, hrecord⟩ := List.map_eq_singleton_iff.1 hnew
    have hkind : record.kind = .orderPromotion := by rw [hrecord]; rfl
    refine ⟨record, ⟨rfl, ?_, ?_, fun _ => ⟨hrecord, rfl⟩, ?_, fun hlast => ?_⟩, fun _ => hlist, ?_⟩
    · have hown : [record].filter (·.kind == .orderPromotion) = [record] := by simp [hkind]
      rw [orderPromotions, showing, List.filter_append, hown, ← orderPromotions, hops,
        List.nil_append]
    · have hown : [record].filter (·.kind != .orderPromotion) = [] := by simp [hkind]
      rw [otherDiscounts, showing, List.filter_append, hown, List.append_nil, otherDiscounts]
    · simp [hops]
    · refine List.pairwise_append.2
        ⟨hlast, List.pairwise_singleton _ _, fun _ _ other hother _ => ?_⟩
      rw [List.mem_singleton.1 hother]
      exact hkind
    · simp
  | cons first extras =>
    obtain ⟨hfirst, hothers⟩ := orderPromotions_without hnodup hops
    obtain ⟨kept, hupdate, rfl⟩ := (keepOrderPromotion_eq_ok_of_cons hops).1 h
    have hnodup₁ : ((basket.without (extras.map (·.key))).discounts.map (·.key)).Nodup :=
      (List.filter_sublist.map _).nodup hnodup
    obtain ⟨record, ⟨hrecord, hkey⟩, rfl, hfollows⟩ :=
      (updateOrderPromotion_eq_ok hnodup₁).1 hupdate
    have hmem : first ∈ basket.discounts :=
      (List.mem_filter.1 (hops ▸ List.mem_cons_self : first ∈ basket.orderPromotions)).1
    obtain rfl := List.inj_on_of_nodup_map hnodup (List.mem_filter.1 hrecord).1 hmem hkey
    refine ⟨record.sync terms, ⟨rfl, ?_, ?_, ?_, ?_, fun hlast => ?_⟩, ?_, ?_⟩
    · rw [orderPromotions, showing, filter_map_updatedBy (· == .orderPromotion), ← orderPromotions,
        hfirst, List.map_singleton,
        DiscountRecord.updatedBy_sync fun _ => UpdatedFields.mem_ofList.2]
    · have hleft : record ∈ (basket.without (extras.map (·.key))).orderPromotions := by
        rw [hfirst]
        exact List.mem_singleton_self record
      have hkey' : (record.sync terms).key = record.key := rfl
      exact (otherDiscounts_map_updatedBy hnodup₁ hleft hkey').trans hothers
    · simp [hops]
    · simp [hops]
    · refine List.pairwise_map.2 ((List.Pairwise.filter _ hlast).imp fun hab => ?_)
      rw [DiscountRecord.kind_updatedBy, DiscountRecord.kind_updatedBy]
      exact hab
    · simp
    · intro first' extras' heq
      obtain ⟨rfl, rfl⟩ := List.cons.inj heq
      exact hfollows

end Winner

end Retail
