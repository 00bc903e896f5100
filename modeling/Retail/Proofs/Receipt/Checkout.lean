import Retail.Proofs.Announced
import Retail.Proofs.Receipt.Balance
import Retail.Proofs.Voucher.Amount

/-!
# Receipts of checkouts

What a reconciled checkout shows is what its voucher takes off, what its order promotion gives, or
nothing. Each is an amount that is not below zero and not above the base total, so the receipt takes
it off the base total as it is.

## Main definitions

* `Checkout.Nonnegative`: prices that are not below zero

## Main results

* `Checkout.voucherAmount_bounds`: what a voucher takes off
* `Basket.Settled.shown_bounds`: what is shown without a voucher
* `Checkout.bounds_of_reconcile`: what a reconciled checkout shows
* `Checkout.receipt_of_reconcile`: the receipt takes off what is shown, and adds up
-/

namespace Retail

/-! ## What is shown -/

/-- What an order rule gives is in the currency of the subtotal and not more than the subtotal. -/
theorem Rule.reward_bounds {rule : Rule} {subtotal amount : Money} {currency : Currency}
    (hvalue : 0 ≤ rule.value.value.mantissa) (hcurrency : subtotal.currency = currency)
    (hsubtotal : 0 ≤ subtotal.minor)
    (h : rule.reward subtotal currency = .ok amount) :
    amount.currency = currency ∧ 0 ≤ amount.minor ∧ amount.minor ≤ subtotal.minor := by
  unfold reward at h
  split at h
  · exact ⟨(DiscountValue.currency_amountOff h).trans hcurrency,
      DiscountValue.amountOff_bounds hvalue hsubtotal h⟩
  · rw [DiscountValue.amountOff_zero hvalue h]
    exact ⟨rfl, le_rfl, hsubtotal⟩

/-- Where no discount is shown, its amount is zero. -/
theorem DiscountSummary.amount_eq_zero {summary : DiscountSummary} {currency : Currency}
    (h : summary.isNone) (hin : summary.amount.IsIn currency) :
    summary.amount = .zero currency := by
  simp only [isNone, Bool.and_eq_true, beq_iff_eq] at h
  obtain ⟨⟨hzero, -⟩, -⟩ := h
  rw [Money.minorUnits_of_fits hin.fits] at hzero
  obtain ⟨⟨minor, currency'⟩, name, localizedName⟩ := summary
  obtain rfl : currency' = currency := hin.currency_eq
  obtain rfl : minor = 0 := hzero
  rfl

namespace Basket

variable {basket settled : Basket} {shipping : Money} {book : Promotions} {now : Instant}
  {record : DiscountRecord}

/-- A basket with an order promotion shows at most its base subtotal. -/
theorem Settled.reward_bounds (h : basket.Settled shipping book now settled)
    (hrecord : record ∈ settled.orderPromotions) (hbook : book.Nonnegative)
    (hsubtotal : 0 ≤ settled.baseSubtotal.minor) :
    settled.discount.amount.currency = settled.currency ∧ 0 ≤ settled.discount.amount.minor ∧
      settled.discount.amount.minor ≤ settled.baseSubtotal.minor := by
  obtain ⟨rule, hrule⟩ := h.announces hrecord
  obtain ⟨key, -, hentered⟩ := Option.bind_eq_some_iff.1 hrule.entered
  exact rule.reward_bounds (hbook.get? hentered) (currency_subtotal h.basePrices.1) hsubtotal
    hrule.reward

/-- Without a voucher and without an order promotion a basket shows nothing. -/
theorem Settled.unshown (h : basket.Settled shipping book now settled)
    (hcode : basket.voucherCode = none) (hnone : settled.orderPromotions = [])
    (hshown : basket.discount.amount.IsIn basket.currency) :
    settled.discount.amount = .zero settled.currency := by
  have hcurrency : settled.currency = basket.currency := by rw [h.eq]
  obtain ⟨-, prices, winner, -, hsettles⟩ := h
  cases winner with
  | none =>
    rw [hcurrency, show settled = _ from hsettles, cleared]
    split
    · rfl
    · rename_i hkept
      exact DiscountSummary.amount_eq_zero (by simpa [withBasePrices, hcode] using hkept) hshown
  | some terms =>
    obtain ⟨kept, hkept⟩ := hsettles
    rw [hkept.orderPromotions] at hnone
    contradiction

/-- Without a voucher a basket shows what its order promotion gives, or nothing. -/
theorem Settled.shown_bounds (h : basket.Settled shipping book now settled)
    (hcode : basket.voucherCode = none) (hbook : book.Nonnegative)
    (hshown : basket.discount.amount.IsIn basket.currency)
    (hsubtotal : 0 ≤ settled.baseSubtotal.minor) :
    settled.discount.amount.currency = settled.currency ∧ 0 ≤ settled.discount.amount.minor ∧
      settled.discount.amount.minor ≤ settled.baseSubtotal.minor := by
  rcases hlist : settled.orderPromotions with _ | ⟨record, others⟩
  · rw [h.unshown hcode hlist hshown]
    exact ⟨rfl, le_rfl, hsubtotal⟩
  · exact h.reward_bounds (hlist ▸ List.mem_cons_self) hbook hsubtotal

end Basket

namespace Receipt

variable {title : String} {checkout : Checkout} {catalogue : Catalogue} {receipt : Receipt}

/-- What the receipt of a checkout says besides its rows. -/
theorem exists_of_ofCheckout_eq_ok (h : ofCheckout title checkout catalogue = .ok receipt) :
    ∃ total, checkout.baseTotal.sub checkout.baseSubtotal = .ok receipt.shipping ∧
      checkout.baseTotal.sub checkout.discount.amount = .ok total ∧
      receipt.total = total.floorAtZero ∧
      receipt.discounts = shownDiscounts checkout.discount ∧
      Money.total checkout.currency (checkout.lines.map (·.undiscountedTotalPrice)) =
        .ok receipt.subtotal := by
  simp only [ofCheckout, bind_eq_ok, mapError_eq_ok, fullSubtotal, pure_eq_ok] at h
  obtain ⟨lines, -, shipping, hshipping, total, htotal, subtotal, hsubtotal, rfl⟩ := h
  exact ⟨total, hshipping, htotal, rfl, rfl, hsubtotal⟩

/-- A discount is listed unless it takes nothing off. -/
theorem total_shownDiscounts {summary : DiscountSummary} {currency : Currency}
    (h : summary.amount.IsIn currency) :
    Money.total currency ((shownDiscounts summary).map (·.amount)) = .ok summary.amount := by
  rw [Money.total_eq_ok, shownDiscounts]
  split
  · rename_i hnone
    rw [summary.amount_eq_zero hnone h]
    exact ⟨List.forall_mem_nil _, rfl⟩
  · refine ⟨List.forall_mem_singleton.2 h.currency_eq, ?_⟩
    rw [← h.currency_eq]
    simp

end Receipt

namespace Checkout

variable {checkout checkout' : Checkout} {ledger ledger' : Ledger} {rest : List DiscountRecord}
  {channel : Channel} {channels : Registry .channel Channel} {promotions : Promotions}
  {vouchers : Vouchers} {now : Instant} {report : SyncReport} {voucher : Voucher} {amount : Money}

/-- The base prices of lines at their catalogue prices are what the lines cost. -/
theorem priced_of_valued (hvalued : checkout.Valued (checkout.deliveryPrice channel))
    (hbase : ∀ line ∈ checkout.lines, line.baseUnitPrice = line.discountedUnitPrice)
    (hshipping : 0 ≤ (checkout.deliveryPrice channel).minor) : checkout.Priced channel where
  currency_units := forall_mem_units.2 fun line hline => by
    rw [hbase line hline]
    exact (hvalued.lines line hline).currency_eq
  units_nonneg := forall_mem_units.2 fun line hline => by
    rw [hbase line hline]
    exact (hvalued.lines line hline).nonneg
  currency_delivery := by
    obtain ⟨hdelivery, -⟩ := Money.add_eq_ok.1 hvalued.baseTotal
    rw [← hdelivery, hvalued.baseSubtotal]
  delivery_nonneg := hshipping
  baseSubtotal := by
    rw [hvalued.baseSubtotal, Voucher.costMinor, units, List.map_map, Money.mk.injEq]
    refine ⟨congrArg List.sum (List.map_congr_left fun line hline => ?_), rfl⟩
    rw [Function.comp_apply, hbase line hline]
    rfl

/-- What a voucher takes off a checkout is not more than the base total. -/
theorem voucherAmount_bounds (h : voucher.Nonnegative)
    (hvalued : checkout.Valued (checkout.deliveryPrice channel))
    (hbase : ∀ line ∈ checkout.lines, line.baseUnitPrice = line.discountedUnitPrice)
    (hshipping : 0 ≤ (checkout.deliveryPrice channel).minor)
    (hamount : checkout.voucherAmount channel voucher = .ok amount) :
    amount.currency = checkout.currency ∧ 0 ≤ amount.minor ∧
      amount.minor ≤ checkout.baseTotal.minor := by
  have hpriced := priced_of_valued hvalued hbase hshipping
  obtain ⟨hcurrency, hnonneg, hle⟩ :=
    hpriced.bounds_of_voucherAmount (h.nonnegativeIn _) hamount
  refine ⟨hcurrency, hnonneg, hle.trans ?_⟩
  obtain ⟨hsubtotal, hsum, -⟩ := hvalued.bounds
  unfold amountLimit
  split <;> omega

/-- No price of the checkout is below zero. -/
structure Nonnegative (channel : Channel) (checkout : Checkout) : Prop where
  lines : ∀ line ∈ checkout.lines, 0 ≤ line.undiscountedUnitPrice.minor
  shipping : 0 ≤ (checkout.deliveryPrice channel).minor

theorem Nonnegative.keeps (h : checkout.Nonnegative channel) (hkeeps : checkout.Keeps checkout') :
    checkout'.Nonnegative channel := by
  refine ⟨fun line hline => ?_, ?_⟩
  · obtain ⟨source, hsource, hsame⟩ := exists_left_of_forall₂ hkeeps.lines hline
    rw [hsame.undiscountedUnitPrice]
    exact h.lines source hsource
  · rw [hkeeps.deliveryPrice]
    exact h.shipping

/-- A checkout shows what its voucher takes off, or what it showed before if it has none. -/
theorem bounds_of_showVoucher {u : Unit}
    (hvouchers : ∀ voucher ∈ vouchers.vouchers.values, voucher.Nonnegative)
    (hvalued : checkout.Valued (checkout.deliveryPrice channel))
    (hbase : ∀ line ∈ checkout.lines, line.baseUnitPrice = line.discountedUnitPrice)
    (hshipping : 0 ≤ (checkout.deliveryPrice channel).minor)
    (hshown : checkout.voucher = none → checkout.discount.amount.currency = checkout.currency ∧
      0 ≤ checkout.discount.amount.minor ∧
      checkout.discount.amount.minor ≤ checkout.baseTotal.minor)
    (h : (showVoucher channel vouchers).runOn (checkout, ledger) = (.ok u, (checkout', ledger'))) :
    checkout'.discount.amount.currency = checkout'.currency ∧
      0 ≤ checkout'.discount.amount.minor ∧
      checkout'.discount.amount.minor ≤ checkout'.baseTotal.minor := by
  obtain ⟨-, ⟨hnone, rfl⟩ | ⟨key, voucher, amount, -, hentered, hamount, rfl⟩⟩ :=
    showVoucher_eq_ok.1 h
  · exact hshown hnone
  · have hvoucher : voucher ∈ vouchers.vouchers.values :=
      List.mem_map_of_mem (Registry.get?_eq_some.1 hentered)
    have hbounds :=
      voucherAmount_bounds (hvouchers voucher hvoucher) hvalued hbase hshipping hamount
    exact hbounds

/-- What a reconciled checkout shows is neither below zero nor above the base total. -/
theorem bounds_of_reconcile (hheld : checkout.toBasket.HeldIn ledger rest)
    (hregular : checkout.toBasket.Regular) (hcoherent : checkout.Coherent channels vouchers)
    (hbook : promotions.Nonnegative)
    (hvouchers : ∀ voucher ∈ vouchers.vouchers.values, voucher.Nonnegative)
    (h : checkout.Nonnegative channel)
    (hfits : fitsMinor (checkout.fullMinor (checkout.deliveryPrice channel)))
    (hshown : checkout.discount.amount.IsIn checkout.currency)
    (hreconcile : (reconcile channel promotions vouchers now).runOn (checkout, ledger) =
      (.ok report, (checkout', ledger'))) :
    checkout'.Valued (checkout.deliveryPrice channel) ∧
      checkout'.discount.amount.IsIn checkout'.currency ∧
      0 ≤ checkout'.discount.amount.minor ∧
      checkout'.discount.amount.minor ≤ checkout'.baseTotal.minor := by
  have hreconciled := reconciled hheld hregular hreconcile
  have hvalued := hreconciled.valued hbook hcoherent.lines h.lines
  have hshipping := h.shipping
  suffices hbounds : checkout'.discount.amount.currency = checkout'.currency ∧
      0 ≤ checkout'.discount.amount.minor ∧
      checkout'.discount.amount.minor ≤ checkout'.baseTotal.minor by
    obtain ⟨hnonneg, hsum, hle⟩ := hvalued.bounds
    rw [hreconciled.sameSale.fullMinor] at hle
    refine ⟨hvalued, ⟨hbounds.1, ?_⟩, hbounds.2⟩
    rw [fitsMinor_iff] at hfits ⊢
    omega
  obtain ⟨lines, kept, settled, hlines, hdrop, hsettled, -, -, hshow⟩ :=
    exists_settled hheld hregular hreconcile
  obtain ⟨hkept, -⟩ := eq_of_dropInvalidVoucher_eq_ok hdrop
  have hcatalogued : ∀ line ∈ kept.lines, line.Catalogued kept.currency := by
    rw [hkept]
    exact Basket.forall_catalogued hbook hcoherent.lines h.lines hlines
  obtain ⟨hsettledValued, hbase⟩ := hsettled.valued hcatalogued
  have hdelivery : ({ kept with toBasket := settled } : Checkout).deliveryPrice channel =
      checkout.deliveryPrice channel := by
    rw [hsettled.eq, hkept]
    rfl
  obtain ⟨hnonneg, hsum, -⟩ := hsettledValued.bounds
  refine bounds_of_showVoucher hvouchers (hdelivery ▸ hsettledValued)
    (fun line hline => (hbase line hline).base) (hdelivery ▸ hshipping) (fun hnone => ?_) hshow
  have hcode : kept.voucherCode = none := by
    rw [Option.eq_none_iff_forall_ne_some]
    intro text htext
    have hlast := (eq_of_showVoucher_eq_ok hshow).1
    have htext' : checkout'.voucherCode = some text := by
      rw [hlast, ← htext, hsettled.eq]
    obtain ⟨_, _, -, hvoucher, -⟩ :=
      (hcoherent.reconcile hheld hregular hreconcile).named text htext'
    rw [hlast] at hvoucher
    exact absurd (hnone.symm.trans hvoucher) nofun
  obtain ⟨hcurrency, hamount, hless⟩ :=
    hsettled.shown_bounds hcode hbook (by rw [hkept]; exact hshown) hnonneg
  have htotal : settled.baseSubtotal.minor ≤ settled.baseTotal.minor := by omega
  exact ⟨hcurrency, hamount, hless.trans htotal⟩

/-- The receipt of a reconciled checkout takes off what the checkout shows, and adds up. -/
theorem receipt_of_reconcile {title : String} {catalogue : Catalogue} {receipt : Receipt}
    (hheld : checkout.toBasket.HeldIn ledger rest)
    (hregular : checkout.toBasket.Regular) (hcoherent : checkout.Coherent channels vouchers)
    (hbook : promotions.Nonnegative)
    (hvouchers : ∀ voucher ∈ vouchers.vouchers.values, voucher.Nonnegative)
    (h : checkout.Nonnegative channel)
    (hfits : fitsMinor (checkout.fullMinor (checkout.deliveryPrice channel)))
    (hshown : checkout.discount.amount.IsIn checkout.currency)
    (hreconcile : (reconcile channel promotions vouchers now).runOn (checkout, ledger) =
      (.ok report, (checkout', ledger')))
    (hreceipt : Receipt.ofCheckout title checkout' catalogue = .ok receipt) :
    checkout'.baseTotal.sub checkout'.discount.amount = .ok receipt.total ∧
      receipt.Balanced checkout'.toBasket := by
  obtain ⟨hvalued, hin, hnonneg, hle⟩ := bounds_of_reconcile hheld hregular hcoherent hbook
    hvouchers h hfits hshown hreconcile
  obtain ⟨total, hshipping, htotal, hfloored, hrows, hsubtotal⟩ :=
    Receipt.exists_of_ofCheckout_eq_ok hreceipt
  have hpaid : receipt.total = total := by
    rw [hfloored]
    refine Money.floorAtZero_of_nonneg ?_
    rw [(Money.sub_eq_ok.1 htotal).2]
    simp only
    omega
  rw [← hpaid] at htotal
  have hdelivery : receipt.shipping = checkout.deliveryPrice channel := by
    obtain ⟨hsame, hsum⟩ := Money.add_eq_ok.1 hvalued.baseTotal
    rw [(Money.sub_eq_ok.1 hshipping).2, hsum, hsame]
    simp only [add_sub_cancel_left]
  refine ⟨htotal, (hdelivery ▸ hvalued).balanced ?_ htotal hnonneg hle hsubtotal⟩
  rw [hrows]
  exact Receipt.total_shownDiscounts hin

end Checkout

end Retail
