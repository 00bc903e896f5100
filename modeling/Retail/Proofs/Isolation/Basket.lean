import Retail.Proofs.History.Basket
import Retail.Proofs.Isolation.Lines

/-!
# Baskets under other keys

Where the promotions of a basket can be brought in step, so can those of a basket that is the same
but for the keys of its records, in a ledger of its own. Both come out the same again but for the
keys.

## Main definitions

* `Basket.Rekeyed`: baskets that are the same but for the keys of their records

## Main results

* `Basket.Rekeyed.exists_syncLines`: the records of the lines
* `Basket.Rekeyed.settles`: the order promotion
* `Basket.Rekeyed.exists_syncPromotions`: both
-/

namespace Retail

/-- What all records say that say the same. -/
theorem forall_toDiscount_of_map_eq {P : Discount → Prop} {records others : List DiscountRecord}
    (h : others.map (·.toDiscount) = records.map (·.toDiscount))
    (hrecords : ∀ record ∈ records, P record.toDiscount) :
    ∀ other ∈ others, P other.toDiscount := by
  intro other hother
  have hmem : other.toDiscount ∈ others.map (·.toDiscount) := List.mem_map_of_mem hother
  rw [h] at hmem
  obtain ⟨record, hrecord, hsame⟩ := List.mem_map.1 hmem
  exact hsame ▸ hrecords record hrecord

theorem Line.Rekeyed.tidy {line other : Line} (h : line.Rekeyed other) (htidy : line.Tidy) :
    other.Tidy := by
  have hplain := forall_toDiscount_of_map_eq h.discounts
    (P := fun discount => discount.voucher = none ∧ discount.voucherCode = none)
    fun record hrecord => DiscountRecord.plain_iff.1 (htidy.plain record hrecord)
  refine ⟨?_, fun other hother => DiscountRecord.plain_iff.2 (hplain other hother), ?_⟩
  · exact forall_toDiscount_of_map_eq (P := fun discount => discount.kind = .promotion) h.discounts
      htidy.promotion
  · have hlength := congrArg List.length h.discounts
    rw [List.length_map, List.length_map] at hlength
    exact hlength ▸ htidy.one

namespace Basket

variable {basket other basket' other' : Basket} {ledger ledger' ledger₂ : Ledger}
  {rest rest₂ : List DiscountRecord} {book : Promotions} {shipping : Money} {now : Instant}
  {winner : Option PromotionTerms}

/-- The baskets are the same, and their records say the same under keys of their own. -/
structure Rekeyed (basket other : Basket) : Prop where
  eq : other = { basket with lines := other.lines, discounts := other.discounts }
  lines : List.Forall₂ Line.Rekeyed basket.lines other.lines
  discounts : other.discounts.map (·.toDiscount) = basket.discounts.map (·.toDiscount)

theorem Rekeyed.otherDiscounts (h : basket.Rekeyed other) :
    other.otherDiscounts.map (·.toDiscount) = basket.otherDiscounts.map (·.toDiscount) :=
  map_filter_toDiscount (·.kind != .orderPromotion) h.discounts

theorem Rekeyed.orderPromotions (h : basket.Rekeyed other) :
    other.orderPromotions.map (·.toDiscount) = basket.orderPromotions.map (·.toDiscount) :=
  map_filter_toDiscount (·.kind == .orderPromotion) h.discounts

theorem Rekeyed.promotionsLast (h : basket.Rekeyed other)
    (hlast : PromotionsLast basket.discounts) : PromotionsLast other.discounts := by
  have hkinds := congrArg (List.map Discount.kind) h.discounts
  rw [List.map_map, List.map_map] at hkinds
  exact hlast.of_map_kind hkinds

theorem Rekeyed.regular (h : basket.Rekeyed other) (hregular : basket.Regular) :
    other.Regular := by
  have hplain := forall_toDiscount_of_map_eq h.orderPromotions
    (P := fun discount => discount.voucher = none ∧ discount.voucherCode = none)
    fun record hrecord => DiscountRecord.plain_iff.1 (hregular.plain record hrecord)
  refine ⟨fun line hline => ?_, ?_, h.promotionsLast hregular.last, ?_,
    fun record hrecord => DiscountRecord.plain_iff.2 (hplain record hrecord)⟩
  · obtain ⟨source, hsource, hsame⟩ := exists_left_of_forall₂ h.lines hline
    exact hsame.tidy (hregular.lines source hsource)
  · exact forall_toDiscount_of_map_eq (P := fun discount => discount.kind ≠ .promotion) h.discounts
      hregular.kinds
  · have hlength := congrArg List.length h.orderPromotions
    rw [List.length_map, List.length_map] at hlength
    exact hlength ▸ hregular.one

/-! ## Lines -/

/-- The lines of both baskets are brought in step. -/
theorem Rekeyed.exists_syncLines {changes : LineChanges} (h : basket.Rekeyed other)
    (hheld : basket.HeldIn ledger rest) (hheld₂ : other.HeldIn ledger₂ rest₂)
    (hsync : (Retail.syncLines book).runOn (basket, ledger) = (.ok changes, (basket', ledger'))) :
    ∃ changes₂ other' ledger₂', (Retail.syncLines book).runOn (other, ledger₂) =
      (.ok changes₂, (other', ledger₂')) ∧ basket'.Rekeyed other' := by
  obtain ⟨planned, records, hplanned, hnew, rfl, -, -, -, -⟩ := exists_of_syncLines_eq_ok hsync
  have hlanguage : other.language = basket.language := by rw [h.eq]
  obtain ⟨planned₂, hplanned₂, hrelated⟩ :=
    Line.exists_planned_of_rekeyed h.lines hheld.nodup_lines hheld₂.nodup_lines hplanned
  rw [← hlanguage] at hplanned₂
  obtain ⟨changes₂, other', ledger₂', hsync₂⟩ := exists_syncLines_of_planned hplanned₂
    fun _ hline _ hrecord => hheld₂.mem_toList_of_mem_lines hline hrecord
  refine ⟨changes₂, other', ledger₂', hsync₂, ?_⟩
  obtain ⟨again, records₂, hagain, hnew₂, rfl, -, -, -, -⟩ := exists_of_syncLines_eq_ok hsync₂
  obtain rfl : again = planned₂ := Line.planned_unique hagain hplanned₂
  have hsame : records₂.map (·.toDiscount) = records.map (·.toDiscount) := by
    rw [hnew, hnew₂, LinePlan.creates_joined_congr (hrelated.imp fun _ _ hplans => hplans.1)]
  refine ⟨?_, Line.rekeyed_attachRecords hrelated hsame, h.discounts⟩
  rw [h.eq]

/-! ## The order promotion -/

/-- Both baskets get the order promotion that won, or neither of them. -/
theorem Rekeyed.settles (h : basket.Rekeyed other) (hlast : PromotionsLast basket.discounts)
    (hsettles : basket.Settles basket' winner) (hsettles₂ : other.Settles other' winner) :
    basket'.Rekeyed other' := by
  cases winner with
  | none =>
    obtain rfl : basket' = basket.cleared := hsettles
    obtain rfl : other' = other.cleared := hsettles₂
    refine ⟨?_, h.lines, h.otherDiscounts⟩
    rw [h.eq]
    rfl
  | some terms =>
    obtain ⟨record, hkept⟩ := hsettles
    obtain ⟨record₂, hkept₂⟩ := hsettles₂
    have hops := h.orderPromotions
    have hrecord : record₂.toDiscount = record.toDiscount := by
      cases hfirst : basket.orderPromotions with
      | nil =>
        rw [hfirst, List.map_nil, List.map_eq_nil_iff] at hops
        rw [(hkept.created hfirst).1, (hkept₂.created hops).1]
      | cons first extras =>
        rw [hfirst, List.map_cons, List.map_eq_cons_iff] at hops
        obtain ⟨first₂, extras₂, hfirst₂, hsame, -⟩ := hops
        rw [hkept.synced first (hfirst ▸ rfl), hkept₂.synced first₂ (hfirst₂ ▸ rfl)]
        exact congrArg (·.sync terms) hsame
    have hdiscounts : basket'.discounts = basket.otherDiscounts ++ [record] := by
      rw [(hkept.last hlast).eq]
      exact congrArg₂ _ hkept.otherDiscounts hkept.orderPromotions
    have hdiscounts₂ : other'.discounts = other.otherDiscounts ++ [record₂] := by
      rw [(hkept₂.last (h.promotionsLast hlast)).eq]
      exact congrArg₂ _ hkept₂.otherDiscounts hkept₂.orderPromotions
    refine ⟨?_, ?_, ?_⟩
    · rw [hkept₂.eq, hkept.eq, h.eq]
    · rw [hkept₂.eq, hkept.eq]
      exact h.lines
    · rw [hdiscounts, hdiscounts₂, List.map_append, List.map_append, h.otherDiscounts,
        List.map_singleton, List.map_singleton, hrecord]

theorem Rekeyed.winner_eq (h : basket.Rekeyed other) :
    other.winner shipping book now = basket.winner shipping book now := by
  refine winner_congr ?_ (h.lines.imp fun _ _ hline => hline.same)
  rw [SameFrame, h.eq]

/-- The promotions of both baskets are brought in step. -/
theorem Rekeyed.exists_syncPromotions {report : SyncReport} (h : basket.Rekeyed other)
    (hlast : PromotionsLast basket.discounts) (hheld : basket.HeldIn ledger rest)
    (hheld₂ : other.HeldIn ledger₂ rest₂)
    (hsync : (Retail.syncPromotions shipping book now).runOn (basket, ledger) =
      (.ok report, (basket', ledger'))) :
    ∃ report₂ other' ledger₂', (Retail.syncPromotions shipping book now).runOn (other, ledger₂) =
      (.ok report₂, (other', ledger₂')) ∧ basket'.Rekeyed other' := by
  obtain ⟨⟨middle, ledger₁⟩, hlines, horder⟩ := syncPromotions_eq_ok.1 hsync
  obtain ⟨prices, winner, hwinner, -, hsettle⟩ := syncOrderPromotion_eq_ok.1 horder
  obtain ⟨changes₂, middle₂, ledger₁₂, hlines₂, hmiddle⟩ := h.exists_syncLines hheld hheld₂ hlines
  have hpriced : (middle.withBasePrices prices).Rekeyed (middle₂.withBasePrices prices) := by
    refine ⟨?_, hmiddle.lines, hmiddle.discounts⟩
    rw [hmiddle.eq]
    rfl
  have hheld₁ : (middle.withBasePrices prices).HeldIn ledger₁ rest :=
    (hheld.syncLines hlines).sameRecords (.of_lines_eq rfl rfl)
  have hheld₁₂ : (middle₂.withBasePrices prices).HeldIn ledger₁₂ rest₂ :=
    (hheld₂.syncLines hlines₂).sameRecords (.of_lines_eq rfl rfl)
  obtain ⟨other', ledger₂', hsettle₂⟩ := hheld₁₂.exists_settleOrderPromotion winner
  have hmiddleLast : PromotionsLast middle.discounts := by
    obtain ⟨_, _, -, -, rfl, -⟩ := exists_of_syncLines_eq_ok hlines
    exact hlast
  refine ⟨⟨changes₂, winner.map (·.rule)⟩, other', ledger₂', ?_, ?_⟩
  · exact syncPromotions_eq_ok.2 ⟨(middle₂, ledger₁₂), hlines₂,
      syncOrderPromotion_eq_ok.2 ⟨prices, winner, hmiddle.winner_eq.trans hwinner, rfl, hsettle₂⟩⟩
  · exact hpriced.settles hmiddleLast
      (settles_of_settleOrderPromotion hheld₁.nodup_discounts hsettle)
      (settles_of_settleOrderPromotion hheld₁₂.nodup_discounts hsettle₂)

end Basket

end Retail
