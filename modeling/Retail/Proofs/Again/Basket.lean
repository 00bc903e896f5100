import Retail.Proofs.Again.Restored
import Retail.Proofs.Deal
import Retail.Proofs.Sync.Steady

/-!
# Baskets that are settled again

The prices of lines and the promotions of a basket are at any time what they were when they are
found again for the same time. If the order promotion has noted another amount since, that amount
is restored.

## Main results

* `Basket.Kept.again`, `Basket.Settles.again`: the order promotion
* `Basket.Settled.again`: the promotions of a basket
* `cataloguePrices_again`: the prices of the lines
* `baseSubtotalAfterVouchers_congr`, `Basket.quantity_congr`: what conditions of vouchers look at
-/

namespace Retail

/-! ## Promotions -/

namespace Basket

variable {basket settled later : Basket} {shipping : Money} {book : Promotions} {now : Instant}
  {ledger : Ledger} {rest : List DiscountRecord} {winner : Option PromotionTerms}
  {terms : PromotionTerms} {record : DiscountRecord}

/-- An order promotion that was kept is kept again. If it notes another amount, its amount is
restored. -/
theorem Kept.again (h : Kept terms basket settled record) (hregular : later.Regular)
    (hsame : later = { settled with discounts := later.discounts, discount := later.discount })
    (hamounts : List.Forall₂ DiscountRecord.SameButAmount settled.orderPromotions
      later.orderPromotions)
    (hheld : later.HeldIn ledger rest) :
    ∃ restored, (Retail.keepOrderPromotion terms).runOn (later, ledger) =
        (.ok (), ({ settled with
          discounts := later.otherDiscounts ++ settled.orderPromotions }, restored)) ∧
      if later.orderPromotions = settled.orderPromotions then restored = ledger
        else ledger.update settled.orderPromotions (.ofList [.amount]) = .ok restored := by
  rw [h.orderPromotions] at hamounts ⊢
  obtain ⟨other, _, hamount, hnil, hother⟩ := List.forall₂_cons_left_iff.1 hamounts
  obtain rfl : _ = [] := by simpa using hnil
  have hkeep : ∀ {after : Ledger}, ledger.Follows other terms after →
      (Retail.keepOrderPromotion terms).runOn (later, ledger) = (.ok (), ({ settled with
        discounts := later.otherDiscounts ++ [other.sync terms] }, after)) := by
    intro after hfollows
    refine (keepOrderPromotion_eq_ok_of_one hheld.nodup_discounts hregular.last hother).2
      ⟨?_, hfollows⟩
    rw [hsame, h.eq]
  by_cases hnoted : other.amount = record.amount
  · obtain rfl : other = record := by rw [hamount, hnoted]
    have hnone := Discount.outdatedFields_eq_nil_iff.2 h.carries
    have hnothing : other.sync terms = other := by
      rw [DiscountRecord.sync, Discount.sync_of_carries h.carries, DiscountRecord.withKey_key]
    simp only [Ledger.Follows, hnothing, hnone, if_true, forall_eq] at hkeep
    exact ⟨ledger, hkeep, by rw [if_pos hother]⟩
  · obtain ⟨houtdated, hrestored⟩ :=
      DiscountRecord.outdatedFields_of_sameButAmount h.carries hamount hnoted
    have hstored : (ledger.get? record.key).isSome := by
      have hmem : other ∈ later.discounts :=
        (List.mem_filter.1 (hother ▸ List.mem_cons_self : other ∈ later.orderPromotions)).1
      have hfound := hheld.holds.get? (List.mem_append_left _ (List.mem_append_left _ hmem))
      have hkey : record.key = other.key := by rw [hamount]
      rw [hkey, hfound]
      rfl
    simp only [Ledger.Follows, houtdated, reduceCtorEq, if_false, hrestored] at hkeep
    have hupdate := @Ledger.update_singleton _ _ (.ofList [.amount]) hstored
    refine ⟨_, hkeep hupdate, ?_⟩
    rw [if_neg, hupdate]
    intro heq
    rw [hother, List.cons.injEq] at heq
    exact hnoted (heq.1 ▸ rfl)

/-- What the order promotion was settled to is settled again to the same. -/
theorem Settles.again (h : basket.Settles settled winner) (hregular : later.Regular)
    (hsame : later = { settled with discounts := later.discounts, discount := later.discount })
    (hamounts : List.Forall₂ DiscountRecord.SameButAmount settled.orderPromotions
      later.orderPromotions)
    (hheld : later.HeldIn ledger rest) :
    ∃ restored shown, (settleOrderPromotion winner).runOn (later, ledger) =
        (.ok (), ({ settled with
          discounts := later.otherDiscounts ++ settled.orderPromotions
          discount := shown }, restored)) ∧
      (later.discount = settled.discount → shown = settled.discount) ∧
      if later.orderPromotions = settled.orderPromotions then restored = ledger
        else ledger.update settled.orderPromotions (.ofList [.amount]) = .ok restored := by
  cases winner with
  | none =>
    have hcleared : settled = basket.cleared := h
    have hnone : settled.orderPromotions = [] := by rw [hcleared, orderPromotions_cleared]
    rw [hnone, List.forall₂_nil_left_iff] at hamounts
    have hclear := runOn_clearOrderPromotion later ledger
    rw [hamounts, List.map_nil, Ledger.without_nil] at hclear
    refine ⟨ledger, later.cleared.discount, ?_, fun hshown => ?_, ?_⟩
    · rw [hnone, List.append_nil]
      refine hclear.trans ?_
      rw [hsame]
      rfl
    · have hidem := basket.discount_cleared_cleared
      rw [← hcleared] at hidem
      rw [hsame, hshown]
      exact hidem
    · rw [if_pos (hamounts.trans hnone.symm)]
  | some terms =>
    obtain ⟨record, hkept⟩ := h
    obtain ⟨restored, hkeep, hrestored⟩ := hkept.again hregular hsame hamounts hheld
    exact ⟨restored, settled.discount, hkeep, fun _ => rfl, hrestored⟩

/-- What was settled is settled again to the same, whatever its records note and whatever discount
it shows. An order promotion that notes another amount is restored. -/
theorem Settled.again (h : basket.Settled shipping book now settled) (hregular : later.Regular)
    (hsame : later = { settled with discounts := later.discounts, discount := later.discount })
    (hamounts : List.Forall₂ DiscountRecord.SameButAmount settled.discounts later.discounts)
    (hheld : later.HeldIn ledger rest) :
    ∃ rule restored shown,
      (Retail.syncPromotions shipping book now).runOn (later, ledger) =
        (.ok ⟨⟨0, 0, 0⟩, rule⟩, ({ settled with
          discounts := later.otherDiscounts ++ settled.orderPromotions
          discount := shown }, restored)) ∧
      (later.discount = settled.discount → shown = settled.discount) ∧
      if later.orderPromotions = settled.orderPromotions then restored = ledger
        else ledger.update settled.orderPromotions (.ofList [.amount]) = .ok restored := by
  have hsteady : ∀ line ∈ settled.lines, line.InStep book basket.language := by
    intro line hline
    obtain ⟨source, -, hsynced⟩ := exists_left_of_forall₂ h.lines hline
    exact hsynced.inStep
  obtain ⟨-, prices, winner, hwinner, hsettles⟩ := h
  obtain ⟨restored, shown, hsettle, hshown, hrestored⟩ := hsettles.again hregular hsame
    (forall₂_filter_kind (· == .orderPromotion) hamounts) hheld
  exact ⟨_, restored, shown, hsettles.runOn_syncPromotions hwinner hsteady hsame hsettle, hshown,
    hrestored⟩

end Basket

/-! ## Prices of lines -/

/-- Lines that were given their catalogue prices are given them again, whatever was charged for them
since. -/
theorem cataloguePrices_again {book : Promotions} {channel : ChannelKey} {now : Instant}
    {source lines settled charged : List Line}
    (h : (cataloguePrices book channel now).runOn source = (.ok (), lines))
    (hsettled : List.Forall₂ Line.SameButRecords lines settled)
    (hcharged : List.Forall₂ Line.Recharged settled charged) :
    (cataloguePrices book channel now).runOn charged = (.ok (), settled) := by
  have hgoods : List.Forall₂ Line.SameGoods source charged :=
    forall₂_trans (forall₂_trans (sameGoods_cataloguePrices h)
      (hsettled.imp fun _ _ => Line.SameButRecords.sameGoods) fun _ _ _ => Line.SameGoods.trans)
      (hcharged.imp fun _ _ => Line.Recharged.sameGoods) fun _ _ _ => Line.SameGoods.trans
  obtain ⟨others, hothers, hsame⟩ := cataloguePrices_congr hgoods h
  have heq : others = settled := by
    have hrecords := forall₂_trans (hcharged.imp fun _ _ => Line.Recharged.sameRecords)
      (sameRecords_cataloguePrices hothers)
      fun (line charged other : Line) (hcharge : line.SameRecords charged)
        (hprice : charged.SameRecords other) => hprice.discounts.trans hcharge.discounts
    clear hothers h hcharged hgoods
    induction hsettled generalizing others with
    | nil =>
      cases hsame
      rfl
    | cons hline _ ih =>
      cases hsame with
      | cons hother hothers =>
        cases hrecords with
        | cons hrecord hrecords => rw [ih _ hothers hrecords, hother, hrecord, ← hline]
  exact heq ▸ hothers

/-! ## Vouchers -/

/-- What vouchers take off the lines does not depend on their records, none of which is of a
voucher. -/
theorem baseSubtotalAfterVouchers_congr {lines others : List Line} {currency : Currency}
    (hsame : List.Forall₂ Line.SameButRecords lines others) (htidy : ∀ line ∈ lines, line.Tidy)
    (htidy' : ∀ line ∈ others, line.Tidy) :
    baseSubtotalAfterVouchers others currency = baseSubtotalAfterVouchers lines currency := by
  have hline : ∀ line other : Line, line.SameButRecords other → line.Tidy → other.Tidy →
      other.baseTotalAfterVouchers currency = line.baseTotalAfterVouchers currency := by
    intro line other hsame htidy htidy'
    rw [Line.baseTotalAfterVouchers, Line.baseTotalAfterVouchers, htidy.voucherRecords,
      htidy'.voucherRecords, hsame.baseTotal]
  rw [baseSubtotalAfterVouchers, baseSubtotalAfterVouchers]
  rw [mapM_congr (forall₂_imp_of_mem hsame fun line hmem other hmem' hsame =>
    hline line other hsame (htidy line hmem) (htidy' other hmem'))]

theorem Basket.quantity_congr {basket other : Basket}
    (h : List.Forall₂ Line.SameGoods basket.lines other.lines) :
    other.quantity = basket.quantity := by
  have htotal : ∀ {lines others : List Line}, List.Forall₂ Line.SameGoods lines others →
      others.foldr (fun line total => line.quantity + total) 0 =
        lines.foldr (fun line total => line.quantity + total) 0 := by
    intro lines others hgoods
    induction hgoods with
    | nil => rfl
    | cons hline _ ih => rw [List.foldr_cons, List.foldr_cons, hline.quantity, ih]
  rw [quantity, quantity, htotal h]

end Retail
