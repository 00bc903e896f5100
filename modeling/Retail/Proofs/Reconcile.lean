import Retail.Proofs.Order.Pricing
import Retail.Proofs.Promotion.Offer
import Retail.Proofs.Sync.OrderPromotion
import Retail.Scenario

/-!
# Reconciled checkouts and orders

Reconciling a checkout or an order succeeds exactly when each of its stages does. Only two of them
change records: bringing them in step with the rules, and pricing the records of orders. The ledger
follows both, so a checkout or an order that the ledger held before is held afterwards, whatever
else is in the ledger.

## Main definitions

* `Order.shown`: an order that shows the discount of its voucher

## Main results

* `Checkout.reconcile_eq_ok`, `Order.reconcile_eq_ok`: the stages
* `Checkout.heldIn_reconcile`, `Order.heldIn_reconcile`: the ledger
-/

namespace Retail

/-! ## Checkouts -/

namespace Checkout

variable {checkout checkout' : Checkout} {ledger ledger' : Ledger} {rest : List DiscountRecord}
  {promotions : Promotions} {vouchers : Vouchers} {channel : Channel} {now : Instant}

theorem onBasket_eq_ok {α : Type} {step : SyncStep α} {a : α} :
    (onBasket step).runOn (checkout, ledger) = (.ok a, (checkout', ledger')) ↔
      ∃ basket, step.runOn (checkout.toBasket, ledger) = (.ok a, (basket, ledger')) ∧
        checkout' = { checkout with toBasket := basket } := by
  simp only [onBasket, Step.runOn_on_eq_ok, Step.runOn_mapError_eq_ok, Prod.exists, Prod.mk.injEq]
  constructor
  · rintro ⟨basket, _, hstep, rfl, rfl⟩
    exact ⟨basket, hstep, rfl⟩
  · rintro ⟨basket, hstep, rfl⟩
    exact ⟨basket, _, hstep, rfl, rfl⟩

theorem setCataloguePrices_eq_ok {u : Unit} :
    (setCataloguePrices promotions now).runOn (checkout, ledger) = (.ok u, (checkout', ledger')) ↔
      ∃ lines, (cataloguePrices promotions checkout.channel now).runOn checkout.lines =
          (.ok u, lines) ∧
        checkout' = { checkout with lines } ∧ ledger' = ledger := by
  simp only [setCataloguePrices, Step.runOn_get_bind, Step.runOn_on_eq_ok,
    Step.runOn_mapError_eq_ok, Prod.mk.injEq]
  exact exists_congr fun lines => and_congr_right fun _ => and_congr eq_comm eq_comm

/-- Either a checkout keeps its voucher or it loses voucher and code. -/
theorem eq_or_eq_of_dropInvalidVoucher_eq_ok {u : Unit}
    (h : (dropInvalidVoucher vouchers now).runOn (checkout, ledger) =
      (.ok u, (checkout', ledger'))) :
    (checkout' = checkout ∨ checkout' = { checkout with voucher := none, voucherCode := none }) ∧
      ledger' = ledger := by
  simp only [dropInvalidVoucher, Step.runOn_get_bind] at h
  split at h
  · simp only [Step.runOn_pure, Prod.mk.injEq] at h
    obtain ⟨-, rfl, rfl⟩ := h
    exact ⟨.inl rfl, rfl⟩
  · split at h
    · simp only [Step.runOn_pure, Prod.mk.injEq] at h
      obtain ⟨-, rfl, rfl⟩ := h
      exact ⟨.inl rfl, rfl⟩
    · simp only [Step.runOn_set, Prod.mk.injEq] at h
      obtain ⟨-, rfl, rfl⟩ := h
      exact ⟨.inr rfl, rfl⟩
    · simp only [Step.runOn_set, Prod.mk.injEq] at h
      obtain ⟨-, rfl, rfl⟩ := h
      exact ⟨.inr rfl, rfl⟩
    · simp at h

/-- Only the voucher is dropped. -/
theorem eq_of_dropInvalidVoucher_eq_ok {u : Unit}
    (h : (dropInvalidVoucher vouchers now).runOn (checkout, ledger) =
      (.ok u, (checkout', ledger'))) :
    checkout' = { checkout with
      voucher := checkout'.voucher, voucherCode := checkout'.voucherCode } ∧ ledger' = ledger := by
  obtain ⟨rfl | rfl, rfl⟩ := eq_or_eq_of_dropInvalidVoucher_eq_ok h
  · exact ⟨rfl, rfl⟩
  · exact ⟨rfl, rfl⟩

/-- Dropping a voucher changes no records. -/
theorem sameRecords_dropInvalidVoucher {u : Unit}
    (h : (dropInvalidVoucher vouchers now).runOn (checkout, ledger) =
      (.ok u, (checkout', ledger'))) :
    checkout.toBasket.SameRecords checkout'.toBasket ∧ ledger' = ledger := by
  obtain ⟨heq, rfl⟩ := eq_of_dropInvalidVoucher_eq_ok h
  rw [heq]
  exact ⟨.of_lines_eq rfl rfl, rfl⟩

/-- A voucher shows what it takes off; without one the discount that was shown stays. -/
theorem showVoucher_eq_ok {u : Unit} :
    (showVoucher channel vouchers).runOn (checkout, ledger) = (.ok u, (checkout', ledger')) ↔
      ledger' = ledger ∧
        ((checkout.voucher = none ∧ checkout' = checkout) ∨
          ∃ key voucher amount, checkout.voucher = some key ∧
            vouchers.vouchers.get? key = some voucher ∧
            checkout.voucherAmount channel voucher = .ok amount ∧
            checkout' = { checkout with discount := ⟨amount, voucher.name, none⟩ }) := by
  simp only [showVoucher, Step.runOn_get_bind]
  rcases Option.eq_none_or_eq_some checkout.voucher with hvoucher | ⟨key, hvoucher⟩
  · simp only [hvoucher, Step.runOn_pure, Prod.mk.injEq, true_and, reduceCtorEq, false_and,
      exists_false, or_false]
    exact ⟨fun ⟨hcheckout, hledger⟩ => ⟨hledger.symm, hcheckout.symm⟩,
      fun ⟨hledger, hcheckout⟩ => ⟨hcheckout.symm, hledger.symm⟩⟩
  · cases hfound : vouchers.vouchers.get? key with
    | none => simp [hvoucher, hfound]
    | some voucher =>
      simp only [hvoucher, hfound, Step.runOn_answer_bind_eq_ok, mapError_eq_ok, Step.runOn_set,
        Prod.mk.injEq, true_and, reduceCtorEq, false_and, false_or, Option.some.injEq]
      constructor
      · rintro ⟨amount, hamount, rfl, rfl⟩
        exact ⟨rfl, key, voucher, amount, rfl, hfound, hamount, rfl⟩
      · rintro ⟨rfl, _, _, amount, rfl, hfound', hamount, rfl⟩
        obtain rfl := Option.some.inj (hfound.symm.trans hfound')
        exact ⟨amount, hamount, rfl, rfl⟩

/-- Only the discount that is shown changes with a voucher. -/
theorem eq_of_showVoucher_eq_ok {u : Unit}
    (h : (showVoucher channel vouchers).runOn (checkout, ledger) =
      (.ok u, (checkout', ledger'))) :
    checkout' = { checkout with discount := checkout'.discount } ∧ ledger' = ledger := by
  obtain ⟨rfl, ⟨-, rfl⟩ | ⟨_, _, _, -, -, -, rfl⟩⟩ := showVoucher_eq_ok.1 h
  · exact ⟨rfl, rfl⟩
  · exact ⟨rfl, rfl⟩

/-- Showing a voucher changes no records. -/
theorem sameRecords_showVoucher {u : Unit}
    (h : (showVoucher channel vouchers).runOn (checkout, ledger) =
      (.ok u, (checkout', ledger'))) :
    checkout.toBasket.SameRecords checkout'.toBasket ∧ ledger' = ledger := by
  obtain ⟨heq, rfl⟩ := eq_of_showVoucher_eq_ok h
  rw [heq]
  exact ⟨.of_lines_eq rfl rfl, rfl⟩

/-- A checkout is reconciled in four stages. -/
theorem reconcile_eq_ok {report : SyncReport} :
    (reconcile channel promotions vouchers now).runOn (checkout, ledger) =
        (.ok report, (checkout', ledger')) ↔
      ∃ lines kept basket,
        (cataloguePrices promotions checkout.channel now).runOn checkout.lines = (.ok (), lines) ∧
        (dropInvalidVoucher vouchers now).runOn ({ checkout with lines }, ledger) =
          (.ok (), (kept, ledger)) ∧
        (syncPromotions (kept.deliveryPrice channel) promotions now).runOn
          (kept.toBasket, ledger) = (.ok report, (basket, ledger')) ∧
        (showVoucher channel vouchers).runOn ({ kept with toBasket := basket }, ledger') =
          (.ok (), (checkout', ledger')) := by
  unfold reconcile
  constructor
  · intro h
    obtain ⟨_, ⟨checkout₁, ledger₁⟩, hprices, h⟩ := Step.runOn_bind_eq_ok.1 h
    obtain ⟨_, ⟨kept, ledger₂⟩, hdrop, h⟩ := Step.runOn_bind_eq_ok.1 h
    rw [Step.runOn_get_bind] at h
    obtain ⟨_, ⟨checkout₃, ledger₃⟩, hsync, h⟩ := Step.runOn_bind_eq_ok.1 h
    obtain ⟨_, hshow, rfl⟩ := Step.runOn_bind_pure_eq_ok.1 h
    obtain ⟨lines, hlines, rfl, rfl⟩ := setCataloguePrices_eq_ok.1 hprices
    obtain ⟨-, rfl⟩ := sameRecords_dropInvalidVoucher hdrop
    obtain ⟨basket, hbasket, rfl⟩ := onBasket_eq_ok.1 hsync
    obtain ⟨-, rfl⟩ := sameRecords_showVoucher hshow
    exact ⟨lines, kept, basket, hlines, hdrop, hbasket, hshow⟩
  · rintro ⟨lines, kept, basket, hlines, hdrop, hbasket, hshow⟩
    refine Step.runOn_bind_eq_ok.2
      ⟨(), _, setCataloguePrices_eq_ok.2 ⟨lines, hlines, rfl, rfl⟩, ?_⟩
    refine Step.runOn_bind_eq_ok.2 ⟨(), _, hdrop, ?_⟩
    rw [Step.runOn_get_bind]
    refine Step.runOn_bind_eq_ok.2 ⟨report, _, onBasket_eq_ok.2 ⟨basket, hbasket, rfl⟩, ?_⟩
    exact Step.runOn_bind_pure_eq_ok.2 ⟨(), hshow, rfl⟩

/-- The ledger follows a checkout that is reconciled. -/
theorem heldIn_reconcile {report : SyncReport} (hheld : checkout.toBasket.HeldIn ledger rest)
    (h : (reconcile channel promotions vouchers now).runOn (checkout, ledger) =
      (.ok report, (checkout', ledger'))) :
    checkout'.toBasket.HeldIn ledger' rest := by
  obtain ⟨lines, kept, basket, hlines, hdrop, hbasket, hshow⟩ := reconcile_eq_ok.1 h
  have hpriced : checkout.toBasket.SameRecords { checkout.toBasket with lines } :=
    ⟨rfl, sameRecords_cataloguePrices hlines⟩
  have hsynced := ((hheld.sameRecords hpriced).sameRecords
    (sameRecords_dropInvalidVoucher hdrop).1).syncPromotions hbasket
  exact hsynced.sameRecords (sameRecords_showVoucher hshow).1

end Checkout

/-! ## Orders -/

namespace Order

variable {order order' : Order} {ledger ledger' : Ledger} {rest : List DiscountRecord}
  {promotions : Promotions} {vouchers : Vouchers} {now : Instant}

theorem onBasket_eq_ok {α : Type} {step : SyncStep α} {a : α} :
    (onBasket step).runOn (order, ledger) = (.ok a, (order', ledger')) ↔
      ∃ basket, step.runOn (order.toBasket, ledger) = (.ok a, (basket, ledger')) ∧
        order' = { order with toBasket := basket } := by
  simp only [onBasket, Step.runOn_on_eq_ok, Step.runOn_mapError_eq_ok, Prod.exists, Prod.mk.injEq]
  constructor
  · rintro ⟨basket, _, hstep, rfl, rfl⟩
    exact ⟨basket, hstep, rfl⟩
  · rintro ⟨basket, hstep, rfl⟩
    exact ⟨basket, _, hstep, rfl, rfl⟩

theorem setCataloguePrices_eq_ok {u : Unit} :
    (setCataloguePrices promotions now).runOn (order, ledger) = (.ok u, (order', ledger')) ↔
      ∃ lines, (cataloguePrices promotions order.channel now).runOn order.lines = (.ok u, lines) ∧
        order' = { order with lines } ∧ ledger' = ledger := by
  simp only [setCataloguePrices, Step.runOn_get_bind, Step.runOn_on_eq_ok,
    Step.runOn_mapError_eq_ok, Prod.mk.injEq]
  exact exists_congr fun lines => and_congr_right fun _ => and_congr eq_comm eq_comm

/-- A voucher is checked without any change. -/
theorem eq_of_checkVoucher_eq_ok {u : Unit}
    (h : (checkVoucher vouchers).runOn (order, ledger) = (.ok u, (order', ledger'))) :
    order' = order ∧ ledger' = ledger := by
  simp only [checkVoucher, Step.runOn_get_bind] at h
  split at h
  · simp only [Step.runOn_pure, Prod.mk.injEq] at h
    exact ⟨h.2.1.symm, h.2.2.symm⟩
  · simp only [Step.runOn_pure, Prod.mk.injEq] at h
    exact ⟨h.2.1.symm, h.2.2.symm⟩
  · simp at h

/-- The order, showing the discount of the first record of a voucher if it has one. -/
def shown (vouchers : Vouchers) (order : Order) : Order :=
  match order.discounts.find? (·.kind == .voucher) with
  | some record => { order with discount := voucherSummary vouchers record }
  | none => order

theorem shown_eq (vouchers : Vouchers) (order : Order) :
    order.shown vouchers = { order with discount := (order.shown vouchers).discount } := by
  rw [shown]
  split <;> rfl

theorem runOn_showVoucher :
    (showVoucher vouchers).runOn (order, ledger) = (.ok (), (order.shown vouchers, ledger)) := by
  rw [showVoucher, Step.runOn_modify, shown]
  cases h : order.discounts.find? (·.kind == .voucher) <;> simp only [h]

/-- An order is reconciled in five stages. -/
theorem reconcile_eq_ok {report : SyncReport} :
    (reconcile promotions vouchers now).runOn (order, ledger) =
        (.ok report, (order', ledger')) ↔
      ∃ lines basket ledger₁ prices charged,
        (cataloguePrices promotions order.channel now).runOn order.lines = (.ok (), lines) ∧
        (syncPromotions order.baseShippingPrice promotions now).runOn
          (({ order with lines } : Order).toBasket, ledger) = (.ok report, (basket, ledger₁)) ∧
        (applyDiscounts vouchers true).runOn ({ order with toBasket := basket }, ledger₁) =
          (.ok prices, (charged, ledger')) ∧
        (checkVoucher vouchers).runOn (charged, ledger') = (.ok (), (charged, ledger')) ∧
        order' = charged.shown vouchers := by
  unfold reconcile
  constructor
  · intro h
    obtain ⟨_, ⟨order₁, ledger₁⟩, hprices, h⟩ := Step.runOn_bind_eq_ok.1 h
    rw [Step.runOn_get_bind] at h
    obtain ⟨_, ⟨order₂, ledger₂⟩, hsync, h⟩ := Step.runOn_bind_eq_ok.1 h
    obtain ⟨_, ⟨order₃, ledger₃⟩, hdiscounts, h⟩ := Step.runOn_bind_eq_ok.1 h
    obtain ⟨_, ⟨order₄, ledger₄⟩, hcheck, h⟩ := Step.runOn_bind_eq_ok.1 h
    obtain ⟨_, hshow, rfl⟩ := Step.runOn_bind_pure_eq_ok.1 h
    obtain ⟨lines, hlines, rfl, rfl⟩ := setCataloguePrices_eq_ok.1 hprices
    obtain ⟨basket, hbasket, rfl⟩ := onBasket_eq_ok.1 hsync
    obtain ⟨prices, hdiscounts⟩ := Step.runOn_discard_eq_ok.1 hdiscounts
    rw [Step.runOn_mapError_eq_ok] at hdiscounts
    obtain ⟨rfl, rfl⟩ := eq_of_checkVoucher_eq_ok hcheck
    rw [runOn_showVoucher] at hshow
    simp only [Prod.mk.injEq] at hshow
    obtain ⟨-, rfl, rfl⟩ := hshow
    exact ⟨lines, basket, ledger₂, prices, order₄, hlines, hbasket, hdiscounts, hcheck, rfl⟩
  · rintro ⟨lines, basket, ledger₁, prices, charged, hlines, hbasket, hdiscounts, hcheck, rfl⟩
    refine Step.runOn_bind_eq_ok.2
      ⟨(), _, setCataloguePrices_eq_ok.2 ⟨lines, hlines, rfl, rfl⟩, ?_⟩
    rw [Step.runOn_get_bind]
    refine Step.runOn_bind_eq_ok.2 ⟨report, _, onBasket_eq_ok.2 ⟨basket, hbasket, rfl⟩, ?_⟩
    refine Step.runOn_bind_eq_ok.2 ⟨(), (charged, ledger'),
      Step.runOn_discard_eq_ok.2 ⟨prices, Step.runOn_mapError_eq_ok.2 hdiscounts⟩, ?_⟩
    refine Step.runOn_bind_eq_ok.2 ⟨(), _, hcheck, ?_⟩
    exact Step.runOn_bind_pure_eq_ok.2 ⟨(), runOn_showVoucher, rfl⟩

/-- Showing a voucher changes no records. -/
theorem sameRecords_shown (vouchers : Vouchers) (order : Order) :
    order.toBasket.SameRecords (order.shown vouchers).toBasket := by
  rw [shown_eq]
  exact .of_lines_eq rfl rfl

/-- The ledger follows an order that is reconciled. -/
theorem heldIn_reconcile {report : SyncReport} (hheld : order.toBasket.HeldIn ledger rest)
    (h : (reconcile promotions vouchers now).runOn (order, ledger) =
      (.ok report, (order', ledger'))) :
    order'.toBasket.HeldIn ledger' rest := by
  obtain ⟨lines, basket, ledger₁, prices, charged, hlines, hbasket, hdiscounts, -, rfl⟩ :=
    reconcile_eq_ok.1 h
  have hpriced : order.toBasket.SameRecords { order.toBasket with lines } :=
    ⟨rfl, sameRecords_cataloguePrices hlines⟩
  have hsynced : ({ order with toBasket := basket } : Order).toBasket.HeldIn ledger₁ rest :=
    (hheld.sameRecords hpriced).syncPromotions hbasket
  exact (heldIn_applyDiscounts hsynced hdiscounts).sameRecords (sameRecords_shown vouchers charged)

end Order

end Retail
