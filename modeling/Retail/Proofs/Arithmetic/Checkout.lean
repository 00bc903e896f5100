import Retail.Proofs.Again.Sales
import Retail.Proofs.Arithmetic.Order
import Retail.Proofs.Purchase.Sales

/-!
# Failures of arithmetic: checkouts

A voucher that cannot be used or does not apply is taken off a checkout. One that stays is that of
its code, so it is in the book and lists a discount in the channel of the checkout. So reconciling a
checkout fails on arithmetic or not at all.

## Main definitions

* `Checkout.Redeemable`: the voucher of a checkout lists a discount in its channel

## Main results

* `Checkout.redeemable_of_dropInvalidVoucher`: the voucher that stays
* `Checkout.failsOnly_voucherAmount`: what it takes off
* `Checkout.failsOnly_reconcile`: one checkout
-/

namespace Retail

/-! ## Vouchers -/

namespace Voucher

variable {voucher : Voucher} {channel : ChannelKey} {price off : Money} {currency : Currency}

theorem failsOnly_discountAmount (h : (voucher.listing? channel).isSome) :
    FailsOnly VoucherError.IsArithmetic (voucher.discountAmount price channel) := by
  obtain ⟨listing, hlisting⟩ := Option.isSome_iff_exists.1 h
  have hdiscount : FailsOnly VoucherError.IsArithmetic
      ((voucher.discountIn channel).mapError .notApplicable) := by
    rw [discountIn, hlisting]
    exact failsOnly_ok
  exact hdiscount.bind fun discount _ =>
    (discount.failsOnly_amountOff price).mapError fun _ he => he

theorem currency_discountAmount (h : voucher.discountAmount price channel = .ok off) :
    off.currency = price.currency := by
  obtain ⟨_, -, hoff⟩ := discountAmount_eq_ok.1 h
  exact DiscountValue.currency_amountOff hoff

theorem failsOnly_productsDiscount {units : List (Nat × Money)}
    (h : (voucher.listing? channel).isSome) (hunits : ∀ unit ∈ units, unit.2.currency = currency) :
    FailsOnly VoucherError.IsArithmetic
      (voucher.productsDiscount units channel currency) := by
  unfold productsDiscount
  dsimp only
  split
  · split
    · exact failsOnly_discountAmount h
    · exact failsOnly_ok
  · refine FailsOnly.bind (failsOnly_mapM fun unit _ => ?_) fun discounts hdiscounts => ?_
    · exact (failsOnly_discountAmount h).map
    · refine FailsOnly.mapError (Money.failsOnly_total fun amount hamount => ?_) fun _ he => he
      obtain ⟨unit, hunit, hoff⟩ := exists_left_of_forall₂ (mapM_eq_ok.1 hdiscounts) hamount
      simp only [bind_eq_ok, pure_eq_ok] at hoff
      obtain ⟨discount, hdiscount, rfl⟩ := hoff
      exact (currency_discountAmount hdiscount).trans (hunits unit (List.mem_filter.1 hunit).1)

end Voucher

/-! ## Checkouts -/

namespace Checkout

variable {checkout kept : Checkout} {ledger ledger' : Ledger} {rest : List DiscountRecord}
  {channel : Channel} {promotions : Promotions} {vouchers : Vouchers} {now : Instant}

/-- The voucher of the checkout is in the book and lists a discount in its channel. -/
def Redeemable (vouchers : Vouchers) (checkout : Checkout) : Prop :=
  ∀ key, checkout.voucher = some key → ∃ voucher, vouchers.vouchers.get? key = some voucher ∧
    (voucher.listing? checkout.channel).isSome

theorem redeemable_of_dropInvalidVoucher {channels : Registry .channel Channel} {u : Unit}
    (hcoherent : checkout.Coherent channels vouchers)
    (h : (dropInvalidVoucher vouchers now).runOn (checkout, ledger) = (.ok u, (kept, ledger'))) :
    kept.Redeemable vouchers := by
  intro key hkey
  have happlies := voucherApplies_of_dropInvalidVoucher h
  obtain ⟨rfl | rfl, -⟩ := eq_or_eq_of_dropInvalidVoucher_eq_ok h
  · cases htext : kept.voucherCode with
    | none => rw [hcoherent.unnamed htext] at hkey; contradiction
    | some text =>
      obtain ⟨husable, -⟩ := happlies text htext
      obtain ⟨code, voucher, hcode, -, hvoucher, hactive⟩ := Vouchers.exists_usableCode_iff.1 husable
      obtain ⟨found, _, hfound, hnamed, -⟩ := hcoherent.named text htext
      obtain rfl : code = found := Option.some.inj (hcode.symm.trans hfound)
      obtain rfl : code.voucher = key := Option.some.inj (hnamed.symm.trans hkey)
      exact ⟨voucher, hvoucher, (Voucher.isActiveIn_iff.1 hactive).2⟩
  · contradiction

theorem failsOnly_baseSubtotalAfterVouchers {lines : List Line} {currency : Currency}
    (htidy : ∀ line ∈ lines, line.Tidy)
    (h : ∀ line ∈ lines, line.baseUnitPrice.currency = currency) :
    FailsOnly PricingError.IsArithmetic (baseSubtotalAfterVouchers lines currency) := by
  have hcurrency {line : Line} {total : Money} (hline : line ∈ lines)
      (htotal : line.baseTotal = .ok total) : total.currency = currency := by
    rw [(Money.times_eq_ok.1 htotal).2]
    exact h line hline
  refine FailsOnly.bind (failsOnly_mapM fun line hline => ?_) fun totals htotals => ?_
  · refine line.failsOnly_baseTotal.bind fun total htotal => ?_
    rw [(htidy line hline).voucherRecords]
    refine FailsOnly.bind failsOnly_ok fun off hoff => ?_
    obtain rfl : off = .zero currency := (Except.ok.inj hoff).symm
    exact (Money.failsOnly_sub (hcurrency hline htotal)).map
  · refine Money.failsOnly_total fun amount hamount => ?_
    obtain ⟨line, hline, hafter⟩ := exists_left_of_forall₂ (mapM_eq_ok.1 htotals) hamount
    simp only [Line.baseTotalAfterVouchers, bind_eq_ok, pure_eq_ok, Money.sub_eq_ok] at hafter
    obtain ⟨total, htotal, _, -, _, ⟨-, rfl⟩, rfl⟩ := hafter
    rw [Money.currency_floorAtZero]
    exact (hcurrency hline htotal :)

/-- A voucher is refused for a reason of its own, if it is not a matter of arithmetic. -/
theorem failsOnly_validateVoucher (htidy : ∀ line ∈ checkout.lines, line.Tidy)
    (hlines : ∀ line ∈ checkout.lines, line.baseUnitPrice.currency = checkout.currency)
    (h : ∀ key, checkout.voucher = some key →
      ∃ voucher, vouchers.vouchers.get? key = some voucher) :
    FailsOnly (fun e => e.IsArithmetic ∨ ∃ reason, e = .notApplicable reason)
      (checkout.validateVoucher vouchers) := by
  unfold validateVoucher
  split
  · exact failsOnly_ok
  · rename_i key hkey
    obtain ⟨voucher, hvoucher⟩ := h key hkey
    refine FailsOnly.bind ((failsOnly_baseSubtotalAfterVouchers htidy hlines).mapError
      fun _ he => .inl he) fun subtotal _ => ?_
    exact fun e he => .inr (Vouchers.failsOnly_validate hvoucher e he)

theorem failsOnly_dropInvalidVoucher (htidy : ∀ line ∈ checkout.lines, line.Tidy)
    (hlines : ∀ line ∈ checkout.lines, line.baseUnitPrice.currency = checkout.currency)
    (h : ∀ key, checkout.voucher = some key →
      ∃ voucher, vouchers.vouchers.get? key = some voucher) :
    Step.FailsOnly ReconcileError.IsArithmetic (dropInvalidVoucher vouchers now)
      (checkout, ledger) := by
  refine Step.failsOnly_get_bind ?_
  dsimp only
  split
  · exact Step.failsOnly_pure
  · rename_i text _
    have husable : FailsOnly (fun e : VoucherError => e.IsArithmetic ∨ e = .invalidPromoCode ∨
        ∃ reason, e = .notApplicable reason)
        (discard (vouchers.usableCode text checkout.channel now)) :=
      (failsOnly_elim (.inr (.inl rfl)) fun _ _ => failsOnly_ok).map
    have hchecked : FailsOnly (fun e : VoucherError => e.IsArithmetic ∨ e = .invalidPromoCode ∨
        ∃ reason, e = .notApplicable reason)
        (do discard (vouchers.usableCode text checkout.channel now)
            checkout.validateVoucher vouchers) :=
      husable.bind fun _ _ e he =>
        (failsOnly_validateVoucher htidy hlines h e he).imp_right .inr
    split
    · exact Step.failsOnly_pure
    · exact Step.failsOnly_of_runOn rfl
    · exact Step.failsOnly_of_runOn rfl
    · rename_i e hcode hreason he
      rcases hchecked e he with harithmetic | rfl | ⟨reason, rfl⟩
      · intro e' _ hthrow
        obtain rfl := Except.error.inj (Prod.mk.inj hthrow).1
        exact harithmetic
      · exact absurd rfl hcode
      · exact absurd rfl (hreason reason)

theorem failsOnly_voucherAmount {voucher : Voucher}
    (hlisted : (voucher.listing? checkout.channel).isSome)
    (hlines : ∀ line ∈ checkout.lines, line.baseUnitPrice.currency = checkout.currency) :
    FailsOnly VoucherError.IsArithmetic (checkout.voucherAmount channel voucher) := by
  unfold voucherAmount
  cases voucher.voucherType with
  | entireOrder => exact Voucher.failsOnly_discountAmount hlisted
  | shipping =>
    have hafter : FailsOnly VoucherError.IsArithmetic
        (checkout.deliveryPriceAfter channel voucher) := by
      unfold deliveryPriceAfter
      dsimp only
      split
      · refine (Voucher.failsOnly_discountAmount hlisted).bind fun off hoff => ?_
        exact (Money.failsOnly_sub (Voucher.currency_discountAmount hoff).symm).mapError
          fun _ he => he
      · exact failsOnly_ok
    refine hafter.bind fun left hleft => ?_
    have hcurrency : (checkout.deliveryPrice channel).currency = left.currency := by
      unfold deliveryPriceAfter at hleft
      dsimp only at hleft
      split at hleft
      · simp only [bind_eq_ok, mapError_eq_ok, Money.sub_eq_ok] at hleft
        obtain ⟨_, -, -, rfl⟩ := hleft
        rfl
      · rw [Except.ok.inj hleft]
    exact (Money.failsOnly_sub hcurrency).mapError fun _ he => he
  | specificProduct =>
    refine Voucher.failsOnly_productsDiscount hlisted fun unit hunit => ?_
    obtain ⟨line, hline, rfl⟩ := List.mem_map.1 hunit
    exact hlines line hline

theorem failsOnly_showVoucher (h : checkout.Redeemable vouchers)
    (hlines : ∀ line ∈ checkout.lines, line.baseUnitPrice.currency = checkout.currency) :
    Step.FailsOnly ReconcileError.IsArithmetic (showVoucher channel vouchers)
      (checkout, ledger) := by
  refine Step.failsOnly_get_bind ?_
  dsimp only
  split
  · exact Step.failsOnly_pure
  · rename_i key hkey
    obtain ⟨voucher, hvoucher, hlisted⟩ := h key hkey
    simp only [hvoucher]
    refine Step.failsOnly_answer_bind ((failsOnly_voucherAmount hlisted hlines).mapError
      fun _ he => he) fun amount _ => ?_
    exact Step.failsOnly_of_runOn rfl

theorem failsOnly_onBasket {α : Type} {step : SyncStep α}
    (h : Step.FailsOnly SyncError.IsArithmetic step (checkout.toBasket, ledger)) :
    Step.FailsOnly ReconcileError.IsArithmetic (onBasket step) (checkout, ledger) :=
  Step.failsOnly_on (h.mapError fun _ => ReconcileError.isArithmetic_ofSync)

theorem currency_deliveryPrice (hchannel : channel.Coherent)
    (hcurrency : channel.currency = checkout.currency) :
    (checkout.deliveryPrice channel).currency = checkout.currency := by
  unfold deliveryPrice
  dsimp only
  split
  · cases hprice : checkout.shippingMethod.bind channel.shippingPrice with
    | none => rfl
    | some price =>
      obtain ⟨method, -, hlisted⟩ := Option.bind_eq_some_iff.1 hprice
      exact (hchannel.shippingPrice hlisted).currency_eq.trans hcurrency
  · rfl

theorem Coherent.exists_voucher {channels : Registry .channel Channel} {key : VoucherKey}
    (h : checkout.Coherent channels vouchers) (hkey : checkout.voucher = some key) :
    ∃ voucher, vouchers.vouchers.get? key = some voucher := by
  cases htext : checkout.voucherCode with
  | none => rw [h.unnamed htext] at hkey; contradiction
  | some text =>
    obtain ⟨code, voucher, -, hnamed, hvoucher⟩ := h.named text htext
    obtain rfl : code.voucher = key := Option.some.inj (hnamed.symm.trans hkey)
    exact ⟨voucher, hvoucher⟩

/-- Reconciling a checkout fails on arithmetic at most. -/
theorem failsOnly_reconcile {channels : Registry .channel Channel}
    (hcoherent : checkout.Coherent channels vouchers)
    (hfound : channels.get? checkout.channel = some channel)
    (hheld : checkout.toBasket.HeldIn ledger rest) (hregular : checkout.toBasket.Regular) :
    Step.FailsOnly ReconcileError.IsArithmetic (reconcile channel promotions vouchers now)
      (checkout, ledger) := by
  have hprices : Step.FailsOnly ReconcileError.IsArithmetic (setCataloguePrices promotions now)
      (checkout, ledger) :=
    Step.failsOnly_get_bind (Step.failsOnly_on
      ((failsOnly_cataloguePrices checkout.lines).mapError fun _ he => he))
  refine hprices.bind fun _ priced hstage => ?_
  obtain ⟨priced, ledger₁⟩ := priced
  obtain ⟨lines, hlines, rfl, rfl⟩ := setCataloguePrices_eq_ok.1 hstage
  have hready : ({ checkout with lines } : Checkout).toBasket.Ready promotions ledger₁ rest :=
    Basket.ready_cataloguePrices hheld hregular
      (fun line hline => (hcoherent.lines line hline).price.currency_eq) hlines
  have hcoherent' : ({ checkout with lines } : Checkout).Coherent channels vouchers :=
    ⟨hcoherent.toCoherent.sameSale ⟨sameGoods_cataloguePrices hlines, rfl, rfl, rfl, rfl, rfl⟩,
      hcoherent.unnamed, hcoherent.named⟩
  refine (failsOnly_dropInvalidVoucher hready.regular.lines
    (fun line hline => (hready.priced line hline).base)
    fun key => hcoherent'.exists_voucher).bind fun _ kept hdrop => ?_
  obtain ⟨kept, ledger₂⟩ := kept
  have hredeemable := redeemable_of_dropInvalidVoucher hcoherent' hdrop
  obtain ⟨hkept, rfl⟩ := eq_of_dropInvalidVoucher_eq_ok hdrop
  have hready' : kept.toBasket.Ready promotions ledger₂ rest := by
    rw [hkept]
    exact hready.of_eq rfl rfl rfl
  obtain ⟨found, hfound', hchannel, hsold⟩ := hcoherent.channel
  obtain rfl : channel = found := Option.some.inj (hfound.symm.trans hfound')
  have hcurrency : channel.currency = kept.currency := by rw [hkept]; exact hsold
  refine Step.failsOnly_get_bind ?_
  refine (failsOnly_onBasket (hready'.failsOnly_syncPromotions
    (currency_deliveryPrice hchannel hcurrency))).bind fun report settled hstage => ?_
  obtain ⟨settled, ledger₃⟩ := settled
  obtain ⟨basket, hsync, rfl⟩ := onBasket_eq_ok.1 hstage
  have hsettled := hready'.held.settled hready'.regular hready'.rules hsync
  have hsame : basket.channel = kept.channel ∧ basket.voucher = kept.voucher := by
    rw [hsettled.eq]
    exact ⟨rfl, rfl⟩
  refine Step.FailsOnly.bind (failsOnly_showVoucher ?_ ?_) fun _ _ _ => Step.failsOnly_pure
  · intro key hkey
    obtain ⟨voucher, hvoucher, hlisted⟩ := hredeemable key (hsame.2.symm.trans hkey)
    exact ⟨voucher, hvoucher, hsame.1 ▸ hlisted⟩
  · exact fun line hline => (hsettled.priced hready'.priced line hline).base

end Checkout

end Retail
