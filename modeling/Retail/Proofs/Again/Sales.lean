import Retail.Proofs.Again.Basket

/-!
# Checkouts and orders that are reconciled again

What was reconciled is reconciled at the same time to the same. Only where the order promotion of an
order notes another amount than it gives on the base subtotal is anything written: the amount is
restored, and overwritten again when the order is priced.

## Main definitions

* `Checkout.VoucherApplies`: a voucher that is not dropped
* `Order.rewrites`: what is written when an order is reconciled again

## Main results

* `Checkout.reconcile_again`, `Order.reconcile_again`: the second reconciliation
-/

namespace Retail

/-! ## Checkouts -/

namespace Checkout

variable {checkout checkout' kept later : Checkout} {ledger ledger' ledger₂ : Ledger}
  {rest rest₂ : List DiscountRecord} {channel : Channel} {promotions : Promotions}
  {vouchers : Vouchers} {now : Instant} {u : Unit}

/-- The checkout has no voucher code, or one that can be used and that applies. -/
def VoucherApplies (vouchers : Vouchers) (now : Instant) (checkout : Checkout) : Prop :=
  ∀ text ∈ checkout.voucherCode,
    (∃ code, vouchers.usableCode text checkout.channel now = .ok code) ∧
      checkout.validateVoucher vouchers = .ok ()

/-- A voucher that is not dropped applies. -/
theorem voucherApplies_of_dropInvalidVoucher
    (h : (dropInvalidVoucher vouchers now).runOn (checkout, ledger) = (.ok u, (kept, ledger'))) :
    kept.VoucherApplies vouchers now := by
  simp only [dropInvalidVoucher, Step.runOn_get_bind] at h
  -- Only a code that passed both checks is left where it was.
  split at h
  · rename_i hnone
    simp only [Step.runOn_pure, Prod.mk.injEq] at h
    obtain ⟨-, rfl, rfl⟩ := h
    intro text htext
    simp [hnone] at htext
  · rename_i text htext
    split at h
    · rename_i hchecked
      simp only [Step.runOn_pure, Prod.mk.injEq] at h
      obtain ⟨-, rfl, rfl⟩ := h
      simp only [bind_eq_ok, discard_eq_ok] at hchecked
      obtain ⟨_, husable, hvalid⟩ := hchecked
      intro other hother
      obtain rfl : text = other := Option.some.inj (htext.symm.trans hother)
      exact ⟨husable, hvalid⟩
    · simp only [Step.runOn_set, Prod.mk.injEq] at h
      obtain ⟨-, rfl, rfl⟩ := h
      intro text htext
      simp at htext
    · simp only [Step.runOn_set, Prod.mk.injEq] at h
      obtain ⟨-, rfl, rfl⟩ := h
      intro text htext
      simp at htext
    · simp at h

theorem runOn_dropInvalidVoucher (h : checkout.VoucherApplies vouchers now) :
    (dropInvalidVoucher vouchers now).runOn (checkout, ledger) = (.ok (), (checkout, ledger)) := by
  simp only [dropInvalidVoucher, Step.runOn_get_bind]
  cases hcode : checkout.voucherCode with
  | none => rfl
  | some text =>
    obtain ⟨⟨code, husable⟩, hvalid⟩ := h text hcode
    simp only [husable, hvalid]
    rfl

/-- Whether a voucher applies to a checkout does not depend on its promotions. -/
theorem VoucherApplies.congr (h : kept.VoucherApplies vouchers now)
    (hlines : List.Forall₂ Line.SameButRecords kept.lines later.lines)
    (htidy : ∀ line ∈ kept.lines, line.Tidy) (htidy' : ∀ line ∈ later.lines, line.Tidy)
    (hsame : later = { kept with
      lines := later.lines
      baseSubtotal := later.baseSubtotal
      baseTotal := later.baseTotal
      discounts := later.discounts
      discount := later.discount }) : later.VoucherApplies vouchers now := by
  have hquantity : later.quantity = kept.quantity :=
    Basket.quantity_congr (hlines.imp fun _ _ => Line.SameButRecords.sameGoods)
  have hvalid : later.validateVoucher vouchers = kept.validateVoucher vouchers := by
    rw [validateVoucher, validateVoucher, hquantity,
      baseSubtotalAfterVouchers_congr hlines htidy htidy']
    rw [hsame]
    rfl
  intro text htext
  have htext' : text ∈ kept.voucherCode := by
    rw [hsame] at htext
    exact htext
  obtain ⟨husable, happlies⟩ := h text htext'
  refine ⟨?_, hvalid.trans happlies⟩
  rw [hsame]
  exact husable

/-- A voucher shows what it takes off, whatever was shown before; without a voucher the discount
that was shown stays. -/
theorem showVoucher_again
    (h : (showVoucher channel vouchers).runOn (checkout, ledger) = (.ok u, (checkout', ledger')))
    {shown : DiscountSummary} (hshown : checkout'.discount = checkout.discount →
      shown = checkout.discount) :
    (showVoucher channel vouchers).runOn ({ checkout with discount := shown }, ledger₂) =
      (.ok (), (checkout', ledger₂)) := by
  obtain ⟨-, ⟨hnone, rfl⟩ | ⟨key, voucher, amount, hvoucher, hfound, hamount, rfl⟩⟩ :=
    showVoucher_eq_ok.1 h
  · rw [hshown rfl]
    exact showVoucher_eq_ok.2 ⟨rfl, .inl ⟨hnone, rfl⟩⟩
  · exact showVoucher_eq_ok.2
      ⟨rfl, .inr ⟨key, voucher, amount, hvoucher, hfound, hamount, rfl⟩⟩

/-- A checkout is reconciled again without any change. -/
theorem reconcile_again {report : SyncReport} (hheld : checkout.toBasket.HeldIn ledger rest)
    (hregular : checkout.toBasket.Regular)
    (h : (reconcile channel promotions vouchers now).runOn (checkout, ledger) =
      (.ok report, (checkout', ledger')))
    (hheld₂ : checkout'.toBasket.HeldIn ledger₂ rest₂) :
    ∃ report', (reconcile channel promotions vouchers now).runOn (checkout', ledger₂) =
      (.ok report', (checkout', ledger₂)) := by
  obtain ⟨lines, kept, settled, hlines, hdrop, hsettled, hregular', -, hshow⟩ :=
    exists_settled hheld hregular h
  obtain ⟨hkept, -⟩ := eq_of_dropInvalidVoucher_eq_ok hdrop
  obtain ⟨discount, rfl⟩ : ∃ discount,
      checkout' = { kept with toBasket := { settled with discount } } :=
    ⟨_, (eq_of_showVoucher_eq_ok hshow).1⟩
  have hkeptLines : kept.lines = lines := by rw [hkept]
  have hsame : List.Forall₂ Line.SameButRecords kept.lines settled.lines :=
    hsettled.lines.imp fun _ _ hsynced => hsynced.same
  have hprices : (cataloguePrices promotions settled.channel now).runOn settled.lines =
      (.ok (), settled.lines) := by
    have hchannel : settled.channel = checkout.channel := by
      rw [hsettled.eq, hkept]
    rw [hchannel]
    exact cataloguePrices_again hlines (hkeptLines ▸ hsame) (List.forall₂_same.2 fun _ _ => rfl)
  have htidy : ∀ line ∈ kept.lines, line.Tidy := by
    rw [hkeptLines]
    exact Basket.forall_tidy (sameRecords_cataloguePrices hlines) hregular.lines
  have happlies : ({ kept with toBasket := { settled with discount } } : Checkout).VoucherApplies
      vouchers now := by
    refine (voucherApplies_of_dropInvalidVoucher hdrop).congr hsame htidy hregular'.lines ?_
    rw [hsettled.eq]
  obtain ⟨rule, restored, shown, hsync, hshown, hrestored⟩ := hsettled.again
    (hregular'.of_eq hregular'.lines rfl : ({ settled with discount } : Basket).Regular) rfl
    (List.forall₂_same.2 fun _ _ => rfl) hheld₂
  rw [if_pos (by rfl)] at hrestored
  obtain rfl : restored = ledger₂ := hrestored
  have hdiscounts : ({ settled with discount } : Basket).otherDiscounts ++ settled.orderPromotions =
      settled.discounts := hregular'.discounts_eq.symm
  rw [hdiscounts] at hsync
  have hdelivery : checkout.deliveryPrice channel =
      ({ kept with toBasket := { settled with discount } } : Checkout).deliveryPrice channel := by
    rw [hsettled.eq, hkept]
    rfl
  rw [hdelivery] at hsync
  exact ⟨_, reconcile_eq_ok.2 ⟨settled.lines, _, _, hprices, runOn_dropInvalidVoucher happlies,
    hsync, showVoucher_again hshow hshown⟩⟩

end Checkout

/-! ## Orders -/

namespace Order

variable {order order' : Order} {ledger ledger' ledger₂ : Ledger} {rest rest₂ : List DiscountRecord}
  {promotions : Promotions} {vouchers : Vouchers} {now : Instant} {discount : DiscountSummary}

/-- Whether a voucher applies does not depend on the discount that is shown. -/
theorem checkVoucher_congr {u : Unit}
    (h : (checkVoucher vouchers).runOn (order, ledger) = (.ok u, (order, ledger))) :
    (checkVoucher vouchers).runOn ({ order with discount }, ledger₂) =
      (.ok (), ({ order with discount }, ledger₂)) := by
  have hvalid : ({ order with discount } : Order).validateVoucher vouchers =
      order.validateVoucher vouchers := rfl
  simp only [checkVoucher, Step.runOn_get_bind, hvalid] at h ⊢
  split at h
  · simp
  · simp
  · simp at h

/-- The discount of a voucher is shown whatever was shown before; without a voucher the discount
that was shown stays. -/
theorem shown_again (h : (order.shown vouchers).discount = order.discount →
    discount = order.discount) :
    ({ order with discount } : Order).shown vouchers = order.shown vouchers := by
  cases hfound : order.discounts.find? (·.kind == .voucher) with
  | some record => simp only [shown, hfound]
  | none =>
    have hsame : order.shown vouchers = order := by simp only [shown, hfound]
    simp only [hsame, forall_const] at h
    rw [hsame, h]
    exact hsame

/-- What is written when the order is reconciled again: an order promotion that does not note what
is shown for it is restored and overwritten. -/
def rewrites (order : Order) : List LedgerWrite :=
  order.orderPromotions.flatMap fun record =>
    if record.amount = order.discount.amount then [] else [.amountUpdate, .amountUpdate]

/-- An order promotion is written twice when it was restored to an amount that it does not keep. -/
theorem rewrites_eq {ops : List DiscountRecord}
    (hops : List.Forall₂ DiscountRecord.SameButAmount ops order.orderPromotions)
    (hshown : ops = [] ∨ ∃ record, ops = [record] ∧ record.amount = order.discount.amount) :
    order.rewrites =
      if order.orderPromotions = ops then [] else [.amountUpdate, .amountUpdate] := by
  rcases hshown with rfl | ⟨record, rfl, hamount⟩
  · rw [List.forall₂_nil_left_iff] at hops
    simp [rewrites, hops]
  · obtain ⟨other, _, hsame, hnil, hother⟩ := List.forall₂_cons_left_iff.1 hops
    obtain rfl : _ = [] := by simpa using hnil
    have hiff : other = record ↔ other.amount = order.discount.amount := by
      rw [← hamount]
      refine ⟨fun heq => heq ▸ rfl, fun heq => ?_⟩
      rw [hsame, heq]
    simp [rewrites, hother, hiff]

/-- When an order is reconciled again, its order promotion is written if it notes another amount
than it was settled to. -/
theorem rewrites_shown {basket settled : Basket} {charged : Order} {shipping : Money}
    (hsettled : basket.Settled shipping promotions now settled)
    (hcharged : ({ order with toBasket := settled } : Order).Charged charged)
    (hnoted : charged.toBasket.VoucherNoted) :
    (charged.shown vouchers).rewrites =
      if charged.orderPromotions = settled.orderPromotions then []
        else [.amountUpdate, .amountUpdate] := by
  have hops : (charged.shown vouchers).orderPromotions = charged.orderPromotions := by
    rw [shown_eq]
    rfl
  rw [← hops]
  refine rewrites_eq (hops ▸ hcharged.orderPromotions) (hsettled.orderPromotions_cases.imp_right ?_)
  rintro ⟨hcode, record, hrecord, hamount⟩
  have hself : charged.shown vouchers = charged :=
    shown_eq_self hnoted (by rw [hcharged.eq]; exact hcode)
  refine ⟨record, hrecord, hamount.trans ?_⟩
  rw [hself, hcharged.eq]

/-- The records of an order whose order promotion was restored are priced to what they were. -/
theorem priceRecords_restored {currency : Currency} {prices prices' : OrderPrices}
    {updates : List DiscountRecord} {settled later : Basket} (hregular : settled.Regular)
    (hregular' : later.Regular)
    (hamounts : List.Forall₂ DiscountRecord.SameButAmount settled.discounts later.discounts)
    (h : priceRecords vouchers currency prices settled.discounts =
      (.ok (prices', updates), later.discounts)) :
    priceRecords vouchers currency prices (later.otherDiscounts ++ settled.orderPromotions) =
      (.ok (prices', changed settled.orderPromotions later.orderPromotions), later.discounts) := by
  have hsame : List.Forall₂ DiscountRecord.SameButAmount settled.discounts
      (later.otherDiscounts ++ settled.orderPromotions) := by
    rw [hregular.discounts_eq]
    exact List.rel_append (forall₂_filter_kind (· != .orderPromotion) hamounts)
      (List.forall₂_same.2 fun _ _ => rfl)
  have hterms : List.Forall₂ (fun a b : DiscountRecord => a.SameTerms b.toDiscount)
      settled.discounts (later.otherDiscounts ++ settled.orderPromotions) :=
    hsame.imp fun a b hsame => hsame ▸ Discount.sameTerms_amount a.toDiscount b.amount
  have hagain := priceRecords_congr hregular.kinds hterms h
  have hnoted : noted (later.otherDiscounts ++ settled.orderPromotions)
      (later.discounts.map (·.amount)) = later.discounts :=
    (noted_congr hsame).trans (priceRecords_eq hregular.kinds h).1.symm
  have hchanged : changed (later.otherDiscounts ++ settled.orderPromotions) later.discounts =
      changed settled.orderPromotions later.orderPromotions := by
    conv_lhs => rw [hregular'.discounts_eq]
    exact changed_append_left
  rw [hnoted, hchanged] at hagain
  exact hagain

/-- The discounts of an order whose order promotion was restored are taken off again as they were,
and the ledger notes the amount that was restored and overwritten. -/
theorem applyDiscounts_again {settled : Basket} {charged : Order} {restored : Ledger}
    {prices : OrderPrices} (hregular : settled.Regular)
    (h : (applyDiscounts vouchers true).runOn ({ order with toBasket := settled }, ledger) =
      (.ok prices, (charged, ledger')))
    (hstored : ∀ record ∈ charged.orderPromotions, ledger₂.get? record.key = some record)
    (hrestored : if charged.orderPromotions = settled.orderPromotions then restored = ledger₂
      else ledger₂.update settled.orderPromotions (.ofList [.amount]) = .ok restored) :
    (applyDiscounts vouchers true).runOn ({ charged with toBasket := { settled with
        discounts := charged.otherDiscounts ++ settled.orderPromotions, discount } }, restored) =
      (.ok prices, ({ charged with discount },
        ledger₂.noting (if charged.orderPromotions = settled.orderPromotions then []
          else [.amountUpdate, .amountUpdate]))) := by
  have hcharged := charged_applyDiscounts h
  have hregular' : charged.toBasket.Regular := hregular.recharged hcharged.lines hcharged.discounts
  obtain ⟨undiscounted, _, records, hundiscounted, hrecords, -, hcharge⟩ := applyDiscounts_eq_ok.1 h
  obtain ⟨total, off, shares, lines, htotal, hoff, hspread, rfl⟩ := charge_eq_ok.1 hcharge
  exact applyDiscounts_eq_ok.2 ⟨undiscounted, _, records, hundiscounted,
    priceRecords_restored hregular hregular' hcharged.discounts hrecords,
    Ledger.update_changed hcharged.orderPromotions hregular.one hstored hrestored,
    charge_eq_ok.2 ⟨total, off, shares, lines, htotal, hoff, hspread, rfl⟩⟩

/-- An order is reconciled again without any change, but what is written may be noted. -/
theorem reconcile_again {report : SyncReport} (hheld : order.toBasket.HeldIn ledger rest)
    (hregular : order.toBasket.Regular) (hnoted : order.toBasket.VoucherNoted)
    (h : (reconcile promotions vouchers now).runOn (order, ledger) =
      (.ok report, (order', ledger')))
    (hheld₂ : order'.toBasket.HeldIn ledger₂ rest₂) :
    ∃ report', (reconcile promotions vouchers now).runOn (order', ledger₂) =
      (.ok report', (order', ledger₂.noting order'.rewrites)) := by
  have hnoted' := (sameDeal_reconcile hheld hregular h).voucherNoted hnoted
  obtain ⟨lines, settled, ledger₁, prices, charged, hlines, hsettled, hregular', -, hdiscounts,
    hcheck, rfl⟩ := exists_settled hheld hregular h
  have hcharged := charged_applyDiscounts hdiscounts
  obtain ⟨discount, hdiscount⟩ : ∃ discount, charged.shown vouchers = { charged with discount } :=
    ⟨_, shown_eq vouchers charged⟩
  rw [hdiscount] at hnoted' hheld₂ ⊢
  have hprices : (cataloguePrices promotions charged.channel now).runOn charged.lines =
      (.ok (), settled.lines) := by
    have hchannel : charged.channel = order.channel := by rw [hcharged.eq, hsettled.eq]
    rw [hchannel]
    exact cataloguePrices_again hlines (hsettled.lines.imp fun _ _ hsynced => hsynced.same)
      hcharged.lines
  let later : Basket := { settled with discounts := charged.discounts, discount }
  have hlater : ({ charged.toBasket with lines := settled.lines, discount } : Basket) = later := by
    rw [hcharged.eq]
  have hregular₂ : later.Regular :=
    hregular'.recharged (List.forall₂_same.2 fun _ _ => rfl) hcharged.discounts
  have hheld' : later.HeldIn ledger₂ rest₂ :=
    hlater ▸ hheld₂.sameRecords ⟨rfl, sameRecords_cataloguePrices hprices⟩
  obtain ⟨rule, restored, shown, hsync, hshown, hrestored⟩ :=
    hsettled.again hregular₂ rfl hcharged.discounts hheld'
  have hstored : ∀ record ∈ charged.orderPromotions, ledger₂.get? record.key = some record := by
    intro record hrecord
    refine hheld₂.holds.get? (List.mem_append_left _ (List.mem_append_left _ ?_))
    exact (List.mem_filter.1 hrecord).1
  have hagain := @applyDiscounts_again _ _ _ _ _ shown _ _ _ _ hregular' hdiscounts hstored
    hrestored
  have hfinal : ({ charged with discount := shown } : Order).shown vouchers =
      { charged with discount } := by
    rw [← hdiscount]
    refine shown_again fun hsame => ?_
    rw [hdiscount, hcharged.eq] at hsame
    rw [hcharged.eq]
    exact hshown hsame
  have hrewrites := @rewrites_shown _ _ vouchers _ _ _ _ _ hsettled hcharged hnoted'
  rw [hdiscount] at hrewrites
  have hshipping : charged.baseShippingPrice = order.baseShippingPrice := by rw [hcharged.eq]
  rw [hrewrites]
  refine ⟨⟨⟨0, 0, 0⟩, rule⟩, reconcile_eq_ok.2 ⟨settled.lines, _, restored, prices,
    { charged with discount := shown }, hprices, ?_, hagain, checkVoucher_congr hcheck,
    hfinal.symm⟩⟩
  rw [← hlater, ← hshipping] at hsync
  exact hsync

end Order

end Retail
