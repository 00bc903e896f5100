import Retail.Proofs.History.Basket

/-!
# Checkouts and orders with another history

Checkouts without voucher codes, and orders, that sell the same are alike once they were reconciled
at the same time, whatever promotions made of them before.

## Main definitions

* `Basket.Alike`, `Checkout.Alike`, `Order.Alike`: they are the same up to keys and forms

## Main results

* `Checkout.alike_reconcile`, `Order.alike_reconcile`: what does not depend on the history
-/

namespace Retail

variable {promotions : Promotions} {vouchers : Vouchers} {now : Instant}

/-- The baskets are the same, and their records say the same. -/
structure Basket.Alike (basket other : Basket) : Prop where
  eq : other = { basket with
    lines := other.lines, discounts := other.discounts, discount := other.discount }
  lines : List.Forall₂ Line.Alike basket.lines other.lines
  discounts : List.Forall₂ (fun a b : DiscountRecord => a.Alike b.toDiscount) basket.discounts
    other.discounts
  discount : basket.discount.Alike other.discount

/-! ## Checkouts -/

namespace Checkout

variable {checkout other third checkout' other' : Checkout}
  {ledger ledger' ledger₂ ledger₂' : Ledger} {rest rest₂ : List DiscountRecord}
  {channel : Channel} {report report₂ : SyncReport}

/-- The checkouts are the same, and their records say the same. -/
structure Alike (checkout other : Checkout) : Prop
    extends Basket.Alike checkout.toBasket other.toBasket where
  shippingMethod : other.shippingMethod = checkout.shippingMethod
  isShippingRequired : other.isShippingRequired = checkout.isShippingRequired

/-- What a voucher takes off does not depend on the records. -/
theorem voucherAmount_congr {settled settled' : Basket} {voucher : Voucher}
    (hsame : settled.SamePromotions settled')
    (hshipping : other.shippingMethod = checkout.shippingMethod)
    (hrequired : other.isShippingRequired = checkout.isShippingRequired) :
    ({ other with toBasket := settled' } : Checkout).voucherAmount channel voucher =
      ({ checkout with toBasket := settled } : Checkout).voucherAmount channel voucher := by
  have hlines : settled.lines.map (fun line => (line.quantity, line.baseUnitPrice)) =
      settled'.lines.map fun line => (line.quantity, line.baseUnitPrice) :=
    map_eq_of_forall₂ hsame.lines fun line other hline => by rw [hline.same]
  simp only [voucherAmount, deliveryPriceAfter, deliveryPrice, hshipping, hrequired, ← hlines]
  rw [hsame.eq]

/-- Whatever promotions the checkouts had before, they are alike once they are reconciled. -/
theorem alike_reconcile (hdeal : checkout.SameDeal other) (hcode : checkout.voucherCode = none)
    (hheld : checkout.toBasket.HeldIn ledger rest) (hheld₂ : other.toBasket.HeldIn ledger₂ rest₂)
    (hregular : checkout.toBasket.Regular) (hregular₂ : other.toBasket.Regular)
    (h : (reconcile channel promotions vouchers now).runOn (checkout, ledger) =
      (.ok report, (checkout', ledger')))
    (h₂ : (reconcile channel promotions vouchers now).runOn (other, ledger₂) =
      (.ok report₂, (other', ledger₂'))) : checkout'.Alike other' := by
  obtain ⟨lines, settled, hlines, hsettled, hregular', hplaced, hshow⟩ :=
    exists_settled_of_none hcode hheld hregular h
  obtain ⟨lines₂, settled₂, hlines₂, hsettled₂, hregular₂', hplaced₂, hshow₂⟩ :=
    exists_settled_of_none (hdeal.voucherCode.trans hcode) hheld₂ hregular₂ h₂
  have hdelivery : other.deliveryPrice channel = checkout.deliveryPrice channel := by
    simp only [deliveryPrice, hdeal.shippingMethod, hdeal.isShippingRequired, hdeal.currency]
  rw [hdelivery] at hsettled₂
  have hsame := hdeal.samePromotions hregular hregular₂ hlines hlines₂ hsettled hsettled₂ hplaced
    hplaced₂
  have hdiscounts := hsame.forall₂_discounts hregular' hregular₂' (by
    rw [hsettled₂.otherDiscounts_eq, hsettled.otherDiscounts_eq]
    have hothers : other.otherDiscounts = checkout.otherDiscounts := hdeal.discounts
    exact hothers ▸ List.forall₂_same.2 fun record _ => Discount.Alike.refl record.toDiscount)
    fun _ _ => id
  have hshown : settled.discount.Alike settled₂.discount := by
    refine hsame.discount ?_
    rw [hsettled.eq]
    exact hcode
  have hvoucher : settled₂.voucher = settled.voucher := by rw [hsame.eq]
  obtain ⟨-, ⟨hnone, rfl⟩ | ⟨key, voucher, amount, hkey, hfound, hamount, rfl⟩⟩ :=
    showVoucher_eq_ok.1 hshow
  · obtain ⟨-, ⟨-, rfl⟩ | ⟨_, _, _, hkey₂, -⟩⟩ := showVoucher_eq_ok.1 hshow₂
    · exact ⟨⟨hsame.eq, hsame.lines, hdiscounts, hshown⟩, hdeal.shippingMethod,
        hdeal.isShippingRequired⟩
    · exact absurd (hkey₂.symm.trans (hvoucher.trans hnone)) nofun
  · obtain ⟨-, ⟨hnone₂, -⟩ | ⟨key₂, voucher₂, amount₂, hkey₂, hfound₂, hamount₂, rfl⟩⟩ :=
      showVoucher_eq_ok.1 hshow₂
    · exact absurd (hnone₂.symm.trans (hvoucher.trans hkey)) nofun
    · obtain rfl : key₂ = key := Option.some.inj (hkey₂.symm.trans (hvoucher.trans hkey))
      obtain rfl : voucher₂ = voucher := Option.some.inj (hfound₂.symm.trans hfound)
      rw [voucherAmount_congr hsame hdeal.shippingMethod hdeal.isShippingRequired,
        hamount] at hamount₂
      obtain rfl : amount = amount₂ := Except.ok.inj hamount₂
      refine ⟨⟨?_, hsame.lines, hdiscounts, .inl rfl⟩, hdeal.shippingMethod,
        hdeal.isShippingRequired⟩
      rw [hsame.eq]

end Checkout

/-! ## Orders -/

/-- Lines that are alike stay so when the same is taken off them. -/
theorem alike_redistribute {subtotal discount : Money} {lines others lines' others' : List Line}
    {shares shares' : List Money} (halike : List.Forall₂ Line.Alike lines others)
    (h : (redistribute subtotal discount).runOn lines = (.ok shares, lines'))
    (h' : (redistribute subtotal discount).runOn others = (.ok shares', others')) :
    List.Forall₂ Line.Alike lines' others' := by
  obtain ⟨others₁, hothers, hsame⟩ := redistribute_congr (halike.imp fun _ _ => Line.Alike.same) h
  obtain rfl : others₁ = others' := (Prod.mk.inj (hothers.symm.trans h')).2
  have hleft : List.Forall₂ (fun line other : Line =>
      List.Forall₂ (fun a b : DiscountRecord => a.Alike b.toDiscount) line.discounts
        other.discounts) lines' others := by
    refine forall₂_trans (sameRecords_redistribute h).flip halike
      fun line' line other hsame halike => ?_
    rw [show line'.discounts = line.discounts from hsame.discounts]
    exact halike.discounts
  have hrecords : List.Forall₂ (fun line other : Line =>
      List.Forall₂ (fun a b : DiscountRecord => a.Alike b.toDiscount) line.discounts
        other.discounts) lines' others₁ := by
    refine forall₂_trans hleft (sameRecords_redistribute h')
      fun line' other other' halike hsame => ?_
    rw [hsame.discounts]
    exact halike
  exact hsame.mp (fun _ _ hsame hrecords => ⟨hsame, hrecords⟩) hrecords

namespace Order

variable {order other order' other' : Order} {ledger ledger' ledger₂ ledger₂' : Ledger}
  {rest rest₂ : List DiscountRecord} {report report₂ : SyncReport}

/-- The orders are the same, and their records say the same. -/
structure Alike (order other : Order) : Prop
    extends Basket.Alike order.toBasket other.toBasket where
  baseShippingPrice : other.baseShippingPrice = order.baseShippingPrice
  shippingPrice : other.shippingPrice = order.shippingPrice
  subtotal : other.subtotal = order.subtotal
  total : other.total = order.total

/-- Among records that say the same, the first one of a kind says the same. -/
theorem find?_kind_alike {kind : DiscountKind} {records others : List DiscountRecord}
    (h : List.Forall₂ (fun a b : DiscountRecord => a.Alike b.toDiscount) records others) :
    Option.Rel (fun a b : DiscountRecord => a.Alike b.toDiscount)
      (records.find? (·.kind == kind)) (others.find? (·.kind == kind)) := by
  induction h with
  | nil => exact .none
  | @cons record other rest others hfirst _ ih =>
    have hkind : other.kind = record.kind := hfirst.origin.kind.symm
    by_cases hfound : record.kind = kind
    · rw [List.find?_cons_of_pos (by simpa using hfound),
        List.find?_cons_of_pos (by simpa [hkind] using hfound)]
      exact .some hfirst
    · rw [List.find?_cons_of_neg (by simpa using hfound),
        List.find?_cons_of_neg (by simpa [hkind] using hfound)]
      exact ih

/-- Orders whose records say the same show the same discount, if they do so without a voucher. -/
theorem discount_alike_shown
    (hrecords : List.Forall₂ (fun a b : DiscountRecord => a.Alike b.toDiscount) order.discounts
      other.discounts)
    (hnoted : order.toBasket.VoucherNoted)
    (hdiscount : order.voucherCode = none → order.discount.Alike other.discount) :
    (order.shown vouchers).discount.Alike (other.shown vouchers).discount := by
  have hfound := @find?_kind_alike .voucher _ _ hrecords
  rw [shown, shown]
  cases hrecord : order.discounts.find? (·.kind == .voucher) with
  | none =>
    rw [hrecord] at hfound
    cases hother : other.discounts.find? (·.kind == .voucher) with
    | some record' => rw [hother] at hfound; cases hfound
    | none =>
      refine hdiscount (Option.not_isSome_iff_eq_none.1 fun hcode => ?_)
      obtain ⟨record, hmem, hkind⟩ := hnoted.1 hcode
      exact List.find?_eq_none.1 hrecord record hmem (beq_iff_eq.2 hkind)
  | some record =>
    rw [hrecord] at hfound
    cases hother : other.discounts.find? (·.kind == .voucher) with
    | none => rw [hother] at hfound; cases hfound
    | some record' =>
      rw [hother] at hfound
      cases hfound with
      | some halike =>
        have hamount : record.amount = record'.amount := halike.amount
        have hvoucher : record.voucher = record'.voucher := halike.origin.voucher
        refine .inl ?_
        simp only [voucherSummary, hamount, hvoucher]

/-- Records of the same terms are priced alike. -/
theorem alike_priceRecords {currency : Currency} {prices prices₁ prices₂ : OrderPrices}
    {records others records' others' updates updates' : List DiscountRecord}
    (hkinds : ∀ record ∈ records, record.kind ≠ .promotion)
    (hterms : List.Forall₂ (fun a b : DiscountRecord => a.SameTerms b.toDiscount) records others)
    (h : priceRecords vouchers currency prices records = (.ok (prices₁, updates), records'))
    (h' : priceRecords vouchers currency prices others = (.ok (prices₂, updates'), others')) :
    prices₂ = prices₁ ∧
      List.Forall₂ (fun a b : DiscountRecord => a.Alike b.toDiscount) records' others' := by
  have hothers := h'.symm.trans (priceRecords_congr hkinds hterms h)
  simp only [Prod.mk.injEq, Except.ok.injEq] at hothers
  obtain ⟨⟨rfl, -⟩, rfl⟩ := hothers
  have halike := @alike_noted _ _ (records'.map (·.amount)) hterms
  rw [← (priceRecords_eq hkinds h).1] at halike
  exact ⟨rfl, halike⟩

/-- Orders whose records have the same terms are alike once their discounts are taken off, but for
the discount that is shown. -/
theorem alike_applyDiscounts {settled settled₂ : Basket} {charged charged₂ : Order}
    {prices prices₂ : OrderPrices} {shown shown₂ : DiscountSummary}
    (hsame : settled.SamePromotions settled₂) (hregular : settled.Regular)
    (hterms : List.Forall₂ (fun a b : DiscountRecord => a.SameTerms b.toDiscount) settled.discounts
      settled₂.discounts)
    (hshipping : other.baseShippingPrice = order.baseShippingPrice)
    (h : (applyDiscounts vouchers true).runOn ({ order with toBasket := settled }, ledger) =
      (.ok prices, (charged, ledger')))
    (h₂ : (applyDiscounts vouchers true).runOn ({ other with toBasket := settled₂ }, ledger₂) =
      (.ok prices₂, (charged₂, ledger₂')))
    (hshown : shown.Alike shown₂) :
    ({ charged with discount := shown } : Order).Alike { charged₂ with discount := shown₂ } := by
  obtain ⟨undiscounted, _, records, hundiscounted, hrecords, -, hcharge⟩ := applyDiscounts_eq_ok.1 h
  obtain ⟨undiscounted₂, updates₂, records₂, hundiscounted₂, hrecords₂, -, hcharge₂⟩ :=
    applyDiscounts_eq_ok.1 h₂
  have hcurrency : settled₂.currency = settled.currency := by rw [hsame.eq]
  have hsubtotal : settled₂.subtotal = settled.subtotal := by
    rw [Basket.subtotal, Basket.subtotal, hcurrency,
      baseSubtotal_congr (hsame.lines.imp fun _ _ hline => hline.same.baseTotal)]
  obtain rfl : undiscounted = undiscounted₂ :=
    Except.ok.inj (hundiscounted.symm.trans (hsubtotal.symm.trans hundiscounted₂))
  have hprices₂ : priceRecords vouchers settled.currency ⟨undiscounted, order.baseShippingPrice⟩
      settled₂.discounts = (.ok (prices₂, updates₂), records₂) := by
    rw [← hcurrency, ← hshipping]
    exact hrecords₂
  obtain ⟨rfl, halike⟩ := alike_priceRecords hregular.kinds hterms hrecords hprices₂
  obtain ⟨total, off, _, lines, htotal, hoff, hspread, rfl⟩ := charge_eq_ok.1 hcharge
  obtain ⟨total₂, off₂, _, lines₂, htotal₂, hoff₂, hspread₂, rfl⟩ := charge_eq_ok.1 hcharge₂
  obtain rfl : total = total₂ := Except.ok.inj (htotal.symm.trans htotal₂)
  obtain rfl : off = off₂ := Except.ok.inj (hoff.symm.trans hoff₂)
  refine ⟨⟨?_, alike_redistribute hsame.lines hspread hspread₂, halike, hshown⟩, hshipping, rfl,
    rfl, rfl⟩
  rw [hsame.eq]

/-- Whatever promotions the orders had before, they are alike once they are reconciled. -/
theorem alike_reconcile (hdeal : order.SameDeal other) (hnoted : order.toBasket.VoucherNoted)
    (hheld : order.toBasket.HeldIn ledger rest) (hheld₂ : other.toBasket.HeldIn ledger₂ rest₂)
    (hregular : order.toBasket.Regular) (hregular₂ : other.toBasket.Regular)
    (h : (reconcile promotions vouchers now).runOn (order, ledger) =
      (.ok report, (order', ledger')))
    (h₂ : (reconcile promotions vouchers now).runOn (other, ledger₂) =
      (.ok report₂, (other', ledger₂'))) : order'.Alike other' := by
  have hnoted' := (sameDeal_reconcile hheld hregular h).voucherNoted hnoted
  obtain ⟨lines, settled, _, prices, charged, hlines, hsettled, hregular', hplaced, hdiscounts, -,
    rfl⟩ := exists_settled hheld hregular h
  obtain ⟨lines₂, settled₂, _, prices₂, charged₂, hlines₂, hsettled₂, hregular₂', hplaced₂,
    hdiscounts₂, -, rfl⟩ := exists_settled hheld₂ hregular₂ h₂
  rw [hdeal.baseShippingPrice] at hsettled₂
  have hsame := hdeal.samePromotions hregular hregular₂ hlines hlines₂ hsettled hsettled₂ hplaced
    hplaced₂
  have hterms := hsame.forall₂_discounts (R := fun a b => a.SameTerms b.toDiscount) hregular'
    hregular₂' (by
      rw [hsettled₂.otherDiscounts_eq, hsettled.otherDiscounts_eq]
      exact hdeal.others.imp fun a b hsame =>
        hsame ▸ Discount.sameTerms_amount a.toDiscount b.amount)
    fun _ _ => Discount.Alike.toSameTerms
  -- Which discount is shown depends on the records, which are alike in any case.
  have halike : ∀ {shown shown₂ : DiscountSummary}, shown.Alike shown₂ →
      ({ charged with discount := shown } : Order).Alike { charged₂ with discount := shown₂ } :=
    alike_applyDiscounts hsame hregular' hterms hdeal.baseShippingPrice hdiscounts hdiscounts₂
  rw [shown_eq] at hnoted'
  rw [shown_eq, shown_eq vouchers charged₂]
  refine halike (discount_alike_shown (halike (.inl rfl)).discounts hnoted' ?_)
  rw [(charged_applyDiscounts hdiscounts).eq, (charged_applyDiscounts hdiscounts₂).eq]
  exact hsame.discount

end Order

end Retail
