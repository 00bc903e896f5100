import Retail.Proofs.Arithmetic.Promotions
import Retail.Proofs.Coherent.Sales
import Retail.Proofs.Order.Failure

/-!
# Failures of arithmetic: orders

Discounts are taken off prices in the currency of the order, and leave prices in that currency. The
voucher of an order is in the book, and one that does not apply any more stays on the order. So
reconciling an order fails on arithmetic or not at all.

## Main definitions

* `OrderPrices.AreIn`: prices in a currency
* `OrderError.IsArithmetic`, `ReconcileError.IsArithmetic`: a number is too large or a percentage
  has no value

## Main results

* `OrderPrices.failsOnly_after`, `Order.failsOnly_priceRecords`: discounts taken off
* `Order.failsOnly_applyDiscounts`: prices charged
* `Order.failsOnly_reconcile`: one order
-/

namespace Retail

/-! ## Prices after discounts -/

namespace OrderPrices

variable {prices later : OrderPrices} {discount : Discount} {vouchers : Vouchers}
  {currency : Currency}

/-- Both prices are in a currency. -/
structure AreIn (currency : Currency) (prices : OrderPrices) : Prop where
  subtotal : prices.subtotal.currency = currency
  shipping : prices.shipping.currency = currency

theorem failsOnly_onSubtotal (h : prices.AreIn currency) :
    FailsOnly PricingError.IsArithmetic (prices.onSubtotal discount currency) :=
  (failsOnly_discountedPrice h.subtotal).map

theorem failsOnly_onShipping (h : prices.AreIn currency) :
    FailsOnly PricingError.IsArithmetic (prices.onShipping discount currency) :=
  (failsOnly_discountedPrice h.shipping).map

theorem AreIn.onSubtotal (h : prices.AreIn currency)
    (hlater : prices.onSubtotal discount currency = .ok later) : later.AreIn currency := by
  obtain ⟨hsubtotal, hshipping⟩ := onSubtotal_eq_ok.1 hlater
  exact ⟨(discountedPrice_floored hsubtotal).2.trans h.subtotal, hshipping ▸ h.shipping⟩

theorem AreIn.onShipping (h : prices.AreIn currency)
    (hlater : prices.onShipping discount currency = .ok later) : later.AreIn currency := by
  obtain ⟨hshipping, hsubtotal⟩ := onShipping_eq_ok.1 hlater
  exact ⟨hsubtotal ▸ h.subtotal, (discountedPrice_floored hshipping).2.trans h.shipping⟩

theorem failsOnly_onBoth (h : prices.AreIn currency) :
    FailsOnly PricingError.IsArithmetic (prices.onBoth discount currency) := by
  have hsame := h.subtotal.trans h.shipping.symm
  refine (Money.failsOnly_add hsame).bind fun combined hcombined => ?_
  have hcurrency : combined.currency = prices.subtotal.currency := by
    rw [(Money.add_eq_ok.1 hcombined).2]
  split
  · exact failsOnly_pure
  · refine (failsOnly_discountedPrice (hcurrency.trans h.subtotal)).bind fun discounted hlater => ?_
    have hdiscounted := (discountedPrice_floored hlater).2
    refine (Money.failsOnly_sub hdiscounted.symm).bind fun off hoff => ?_
    have hoff : off.currency = prices.subtotal.currency := by
      rw [(Money.sub_eq_ok.1 hoff).2]
      exact hcurrency
    refine (Money.failsOnly_share hoff (hoff.trans hcurrency.symm)).bind fun share hshare => ?_
    obtain ⟨-, -, hcurrency', -⟩ := Money.share_eq_ok hshare
    refine (Money.failsOnly_sub hcurrency'.symm).bind fun rest hrest => ?_
    have hrest : rest.currency = prices.shipping.currency := by
      rw [(Money.sub_eq_ok.1 hrest).2]
      exact hoff.trans hsame
    refine (Money.failsOnly_sub (hoff.symm.trans hcurrency'.symm)).bind fun _ _ => ?_
    exact (Money.failsOnly_sub hrest.symm).map

theorem AreIn.onBoth (h : prices.AreIn currency)
    (hlater : prices.onBoth discount currency = .ok later) : later.AreIn currency := by
  obtain ⟨combined, -, hlater⟩ := bind_eq_ok.1 hlater
  split at hlater
  · exact pure_eq_ok.1 hlater ▸ h
  · simp only [bind_eq_ok, pure_eq_ok, Money.sub_eq_ok] at hlater
    obtain ⟨_, -, _, -, _, -, _, -, _, ⟨-, rfl⟩, _, ⟨-, rfl⟩, rfl⟩ := hlater
    exact ⟨h.subtotal, h.shipping⟩

theorem failsOnly_after (h : prices.AreIn currency) :
    FailsOnly PricingError.IsArithmetic (prices.after discount vouchers currency) := by
  unfold after
  cases discount.kind with
  | promotion => exact failsOnly_ok
  | orderPromotion => exact failsOnly_onSubtotal h
  | voucher =>
    rcases discount.voucher.bind vouchers.typeOf? with _ | _ | _ | _
    · exact failsOnly_ok
    · exact failsOnly_onSubtotal h
    · exact failsOnly_onShipping h
    · exact failsOnly_ok
  | manual =>
    cases discount.valueType with
    | percentage =>
      exact (failsOnly_onSubtotal h).bind fun _ hsubtotal =>
        failsOnly_onShipping (h.onSubtotal hsubtotal)
    | fixed => exact failsOnly_onBoth h

theorem AreIn.after (h : prices.AreIn currency)
    (hlater : prices.after discount vouchers currency = .ok later) : later.AreIn currency := by
  unfold OrderPrices.after at hlater
  cases hkind : discount.kind with
  | promotion =>
    simp only [hkind] at hlater
    exact Except.ok.inj hlater ▸ h
  | orderPromotion =>
    simp only [hkind] at hlater
    exact h.onSubtotal hlater
  | voucher =>
    simp only [hkind] at hlater
    split at hlater
    · exact h.onSubtotal hlater
    · exact h.onShipping hlater
    · exact Except.ok.inj hlater ▸ h
    · exact Except.ok.inj hlater ▸ h
  | manual =>
    simp only [hkind] at hlater
    split at hlater
    · obtain ⟨middle, hmiddle, hlater⟩ := bind_eq_ok.1 hlater
      exact (h.onSubtotal hmiddle).onShipping hlater
    · exact h.onBoth hlater

theorem failsOnly_lostTo (h : prices.AreIn currency) (h' : later.AreIn currency) :
    FailsOnly PricingError.IsArithmetic (prices.lostTo later) :=
  failsOnly_of_eq_ok (lostTo_eq_ok.2 ⟨h.shipping.trans h'.shipping.symm,
    h.subtotal.trans h'.subtotal.symm, h.shipping.trans h.subtotal.symm, rfl⟩)

end OrderPrices

/-! ## Orders -/

/-- A number is too large, or a percentage has no value. -/
def OrderError.IsArithmetic : OrderError → Prop
  | .pricing e => e.IsArithmetic
  | .ledger _ => False

namespace Order

variable {vouchers : Vouchers} {currency : Currency} {prices prices' : OrderPrices}
  {records records' updates : List DiscountRecord} {order : Order} {undiscounted : Money}

theorem failsOnly_priceRecords (h : prices.AreIn currency) :
    FailsOnly PricingError.IsArithmetic (priceRecords vouchers currency prices records).1 := by
  intro e he
  rcases hrun : priceRecords vouchers currency prices records with ⟨result, records'⟩
  rw [hrun] at he
  obtain rfl : result = .error e := he
  induction records generalizing prices records' with
  | nil => exact nomatch hrun
  | cons record rest ih =>
    by_cases hkind : record.kind = .promotion
    · obtain ⟨_, hrest, -⟩ := (priceRecords_promotion_eq_error hkind).1 hrun
      exact ih h _ hrest
    · rcases (priceRecords_cons_eq_error hkind).1 hrun with
        ⟨hfails, -⟩ | ⟨later, _, _, hlater, -, hrest, -⟩
      · exact (OrderPrices.failsOnly_after h).bind
          (fun later hlater => OrderPrices.failsOnly_lostTo h (h.after hlater)) e hfails
      · exact ih (h.after hlater) _ hrest

theorem areIn_priceRecords (h : prices.AreIn currency)
    (hrun : priceRecords vouchers currency prices records = (.ok (prices', updates), records')) :
    prices'.AreIn currency := by
  obtain ⟨hsubtotal, hshipping⟩ := currencies_priceRecords hrun
  exact ⟨hsubtotal.trans h.subtotal, hshipping.trans h.shipping⟩

theorem failsOnly_charge (h : prices.AreIn currency)
    (hundiscounted : undiscounted.currency = currency)
    (hlines : ∀ line ∈ order.lines, line.totalPrice.currency = currency) :
    Step.FailsOnly PricingError.IsArithmetic (charge undiscounted prices) order := by
  refine Step.failsOnly_modify_bind ?_
  refine Step.failsOnly_answer_bind (Money.failsOnly_add (h.subtotal.trans h.shipping.symm)) ?_
  intro total _
  refine Step.failsOnly_modify_bind ?_
  have hsame := hundiscounted.trans h.subtotal.symm
  refine Step.failsOnly_answer_bind (Money.failsOnly_sub hsame) fun off hoff => ?_
  have hoff : off.currency = undiscounted.currency := by rw [(Money.sub_eq_ok.1 hoff).2]
  refine Step.FailsOnly.discard (Step.failsOnly_on (failsOnly_redistribute hoff ?_))
  exact fun line hline => (hlines line hline).trans (hoff.trans hundiscounted).symm

theorem failsOnly_alone {P : PricingError → Prop} {Q : OrderError → Prop} {α : Type}
    {rename : PricingError → OrderError} {step : Step Order PricingError α} {ledger : Ledger}
    (hstep : Step.FailsOnly P step order) (h : ∀ e, P e → Q (rename e)) :
    Step.FailsOnly Q (alone rename step) (order, ledger) :=
  Step.failsOnly_on (hstep.mapError h)

/-- The ledger has the records whose amounts are written. -/
theorem failsOnly_applyDiscounts {override : Bool} {ledger : Ledger} {rest : List DiscountRecord}
    (hheld : order.toBasket.HeldIn ledger rest)
    (hshipping : order.baseShippingPrice.currency = order.currency)
    (hbase : ∀ line ∈ order.lines, line.baseUnitPrice.currency = order.currency)
    (htotal : ∀ line ∈ order.lines, line.totalPrice.currency = order.currency) :
    Step.FailsOnly OrderError.IsArithmetic (applyDiscounts vouchers override) (order, ledger) := by
  refine Step.failsOnly_get_bind ?_
  have hsubtotal : FailsOnly OrderError.IsArithmetic (order.toBasket.subtotal.mapError .pricing) :=
    (failsOnly_baseSubtotal hbase).mapError fun _ he => he
  refine Step.failsOnly_answer_bind hsubtotal fun undiscounted hundiscounted => ?_
  have hcurrency := Basket.currency_subtotal (mapError_eq_ok.1 hundiscounted)
  have hprices : (OrderPrices.mk undiscounted order.baseShippingPrice).AreIn order.currency :=
    ⟨hcurrency, hshipping⟩
  refine (failsOnly_alone (Step.failsOnly_of (failsOnly_priceRecords hprices)) ?_).bind ?_
  · exact fun _ he => he
  · rintro ⟨prices, updates⟩ _ halone
    obtain ⟨_, hreprice, rfl⟩ := alone_eq_ok.1 halone
    obtain ⟨records', hrecords, rfl⟩ := repriceRecords_eq_ok.1 hreprice
    have hwritten (ledger : Ledger) : Step.FailsOnly OrderError.IsArithmetic
        (if override then do alone .pricing (charge undiscounted prices); pure prices
          else pure prices : Step (Order × Ledger) OrderError OrderPrices)
        ({ order with discounts := records' }, ledger) := by
      cases override with
      | false => exact Step.failsOnly_pure
      | true =>
        refine Step.FailsOnly.bind (failsOnly_alone (failsOnly_charge
          (areIn_priceRecords hprices hrecords) hcurrency htotal) ?_) ?_
        · exact fun _ he => he
        · exact fun _ _ _ => Step.failsOnly_pure
    dsimp only
    split
    · obtain ⟨ledger', hupdate⟩ := exists_written hheld hrecords
      refine Step.failsOnly_get_bind ?_
      refine Step.failsOnly_answer_bind (failsOnly_of_eq_ok (mapError_eq_ok.2 hupdate)) ?_
      intro written _
      refine Step.FailsOnly.bind (Step.failsOnly_of_runOn rfl) fun _ _ hset => ?_
      obtain rfl := (Prod.mk.inj hset).2
      exact hwritten written
    · exact hwritten ledger

end Order

/-! ## Reconciling -/

/-- A number is too large, or a percentage has no value. -/
def VoucherError.IsArithmetic : VoucherError → Prop
  | .pricing e => e.IsArithmetic
  | _ => False

/-- A number is too large, or a percentage has no value. -/
def ReconcileError.IsArithmetic : ReconcileError → Prop
  | .pricing e => e.IsArithmetic
  | .voucher e => e.IsArithmetic
  | _ => False

theorem ReconcileError.isArithmetic_ofSync {e : SyncError} (h : e.IsArithmetic) :
    (ofSync e).IsArithmetic := by
  cases e with
  | pricing => exact h
  | ledger => exact h
  | promotion => exact h

theorem ReconcileError.isArithmetic_ofOrder {e : OrderError} (h : e.IsArithmetic) :
    (ofOrder e).IsArithmetic := by
  cases e with
  | pricing => exact h
  | ledger => exact h

/-- A voucher of the book is refused for a reason of its own. -/
theorem Vouchers.failsOnly_validate {vouchers : Vouchers} {key : VoucherKey} {voucher : Voucher}
    {total : Money} {quantity : Nat} {email : Option String} {channel : ChannelKey}
    {customer : Option Customer} (hvoucher : vouchers.vouchers.get? key = some voucher) :
    FailsOnly (fun e => ∃ reason, e = .notApplicable reason)
      (vouchers.validate key total quantity email channel customer) := by
  have hreason {result : Except NotApplicable Unit} :
      FailsOnly (fun e => ∃ reason, e = VoucherError.notApplicable reason)
        (result.mapError .notApplicable) := by
    intro e he
    obtain ⟨reason, -, rfl⟩ := mapError_eq_error.1 he
    exact ⟨reason, rfl⟩
  simp only [validate, hvoucher]
  refine hreason.bind fun _ _ => hreason.bind fun _ _ => ?_
  have hstaff : FailsOnly (fun e => ∃ reason, e = VoucherError.notApplicable reason)
      (if voucher.onlyForStaff && !customer.any (·.isStaff) then
        .error (.notApplicable .onlyForStaff) else pure () : Except VoucherError Unit) := by
    split
    · exact failsOnly_error ⟨_, rfl⟩
    · exact failsOnly_pure
  split
  · exact FailsOnly.bind (failsOnly_error ⟨_, rfl⟩) fun _ _ => hstaff
  · exact hstaff

namespace Order

variable {promotions : Promotions} {vouchers : Vouchers} {now : Instant} {order : Order}
  {ledger : Ledger} {rest : List DiscountRecord}

theorem failsOnly_checkVoucher
    (h : ∀ key, order.voucher = some key →
      ∃ voucher, vouchers.vouchers.get? key = some voucher) :
    Step.FailsOnly ReconcileError.IsArithmetic (checkVoucher vouchers) (order, ledger) := by
  have hvalid : FailsOnly (fun e => ∃ reason, e = .notApplicable reason)
      (order.validateVoucher vouchers) := by
    unfold validateVoucher
    split
    · exact failsOnly_ok
    · rename_i key hkey
      obtain ⟨voucher, hvoucher⟩ := h key hkey
      exact Vouchers.failsOnly_validate hvoucher
  refine Step.failsOnly_get_bind ?_
  split
  · exact Step.failsOnly_pure
  · exact Step.failsOnly_pure
  · rename_i e hne he
    obtain ⟨reason, rfl⟩ := hvalid e he
    exact absurd rfl (hne reason)

theorem failsOnly_onBasket {α : Type} {step : SyncStep α}
    (h : Step.FailsOnly SyncError.IsArithmetic step (order.toBasket, ledger)) :
    Step.FailsOnly ReconcileError.IsArithmetic (onBasket step) (order, ledger) :=
  Step.failsOnly_on (h.mapError fun _ => ReconcileError.isArithmetic_ofSync)

/-- Reconciling an order fails on arithmetic at most. -/
theorem failsOnly_reconcile {channels : Registry .channel Channel}
    (hcoherent : order.Coherent channels vouchers) (hheld : order.toBasket.HeldIn ledger rest)
    (hregular : order.toBasket.Regular) :
    Step.FailsOnly ReconcileError.IsArithmetic (reconcile promotions vouchers now)
      (order, ledger) := by
  have hprices : Step.FailsOnly ReconcileError.IsArithmetic (setCataloguePrices promotions now)
      (order, ledger) :=
    Step.failsOnly_get_bind (Step.failsOnly_on
      ((failsOnly_cataloguePrices order.lines).mapError fun _ he => he))
  refine hprices.bind fun _ priced hstage => ?_
  obtain ⟨priced, ledger₁⟩ := priced
  obtain ⟨lines, hlines, rfl, rfl⟩ := setCataloguePrices_eq_ok.1 hstage
  have hready : ({ order with lines } : Order).toBasket.Ready promotions ledger₁ rest :=
    Basket.ready_cataloguePrices hheld hregular
      (fun line hline => (hcoherent.lines line hline).price.currency_eq) hlines
  have hshipping := hcoherent.shipping.currency_eq
  refine Step.failsOnly_get_bind ?_
  refine (failsOnly_onBasket (hready.failsOnly_syncPromotions hshipping)).bind
    fun report settled hstage => ?_
  obtain ⟨settled, ledger₂⟩ := settled
  obtain ⟨basket, hsync, rfl⟩ := onBasket_eq_ok.1 hstage
  have hsettled := hready.held.settled hready.regular hready.rules hsync
  have hsame : basket.currency = order.currency ∧ basket.voucher = order.voucher := by
    rw [hsettled.eq]
    exact ⟨rfl, rfl⟩
  have hpriced := hsettled.priced hready.priced
  have happly : Step.FailsOnly OrderError.IsArithmetic (applyDiscounts vouchers true)
      ({ order with toBasket := basket }, ledger₂) :=
    failsOnly_applyDiscounts (hready.held.syncPromotions hsync) (hshipping.trans hsame.1.symm)
      (fun line hline => (hpriced line hline).base) fun line hline => (hpriced line hline).total
  refine (happly.mapError fun _ => ReconcileError.isArithmetic_ofOrder).discard.bind ?_
  intro _ charged hstage
  obtain ⟨charged, ledger₃⟩ := charged
  obtain ⟨_, hcharge⟩ := Step.runOn_discard_eq_ok.1 hstage
  have hcharged := (charged_applyDiscounts (Step.runOn_mapError_eq_ok.1 hcharge)).eq
  refine Step.FailsOnly.bind (failsOnly_checkVoucher ?_) fun _ _ _ => ?_
  · rw [hcharged]
    exact fun key hkey => hcoherent.voucher key (hsame.2.symm.trans hkey)
  · exact Step.failsOnly_modify_bind Step.failsOnly_pure

end Order

end Retail
