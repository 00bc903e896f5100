import Retail.Proofs.Discount.Alike
import Retail.Proofs.Discount.Value
import Retail.Proofs.Order.Pricing

/-!
# Pricing records again

What the records of an order take off depends on their terms and on their order, not on what they
noted before. So records are priced again to the same amounts, and only those are written whose
amount is another one.

## Main definitions

* `Order.noted`: records with the amounts that they took off
* `Order.changed`: the records whose amount is new

## Main results

* `OrderPrices.after_congr`: discounts of the same terms
* `Order.priceRecords_congr`: records of the same terms
* `Order.applyDiscounts_eq_ok`: what succeeds where the prices are charged
* `Order.exists_after_of_applyDiscounts_eq_ok`: what an order with one record is charged
-/

namespace Retail

/-- What a discount takes off does not depend on what it took off before. -/
theorem OrderPrices.after_congr {a b : Discount} (h : a.SameTerms b) (prices : OrderPrices)
    (vouchers : Vouchers) (currency : Currency) :
    prices.after a vouchers currency = prices.after b vouchers currency := by
  -- What a discount takes off depends on its kind, its voucher, its type and its value.
  have hkind : a.kind = b.kind := h.origin.kind
  have hvoucher : a.voucher = b.voucher := h.origin.voucher
  have htype : a.valueType = b.valueType := beq_iff_eq.1 (h.agrees .valueType nofun)
  have hvalue : a.value.sameValue b.value := h.agrees .value nofun
  have hprice : ∀ price, discountedPrice a.value a.valueType currency price =
      discountedPrice b.value b.valueType currency price := by
    intro price
    rw [htype]
    exact discountedPrice_congr hvalue _ _ _
  have hsubtotal : ∀ prices : OrderPrices, prices.onSubtotal a currency =
      prices.onSubtotal b currency := by
    intro prices
    rw [onSubtotal, onSubtotal, hprice]
  have hshipping : ∀ prices : OrderPrices, prices.onShipping a currency =
      prices.onShipping b currency := by
    intro prices
    rw [onShipping, onShipping, hprice]
  have hboth : prices.onBoth a currency = prices.onBoth b currency := by
    simp only [onBoth, hprice]
  simp only [after, hkind, hvoucher, htype, hsubtotal, hshipping, hboth]

namespace Order

variable {vouchers : Vouchers} {currency : Currency} {prices prices' : OrderPrices}
  {records records' others updates : List DiscountRecord}

/-- The records with the amounts that they took off. -/
def noted (records : List DiscountRecord) (amounts : List Money) : List DiscountRecord :=
  List.zipWith (fun record amount => { record with amount }) records amounts

/-- The records that note another amount than before. -/
def changed (records records' : List DiscountRecord) : List DiscountRecord :=
  ((records.zip records').filter fun pair => pair.1.amount ≠ pair.2.amount).map Prod.snd

/-- Records of the same terms take the same amounts off. -/
theorem priceRecords_congr (hkinds : ∀ record ∈ records, record.kind ≠ .promotion)
    (hsame : List.Forall₂ (fun a b : DiscountRecord => a.SameTerms b.toDiscount) records others)
    (h : priceRecords vouchers currency prices records = (.ok (prices', updates), records')) :
    priceRecords vouchers currency prices others =
      (.ok (prices', changed others (noted others (records'.map (·.amount)))),
        noted others (records'.map (·.amount))) := by
  induction hsame generalizing prices updates records' with
  | nil =>
    obtain ⟨rfl, -, rfl⟩ := priceRecords_nil_eq_ok.1 h
    rfl
  | @cons record other rest others hsame _ ih =>
    rw [List.forall_mem_cons] at hkinds
    obtain ⟨later, amount, updates', rest', hlater, hlost, hrest, -, rfl⟩ :=
      (priceRecords_cons_eq_ok hkinds.1).1 h
    have hkind : other.kind ≠ .promotion := hsame.origin.kind ▸ hkinds.1
    rw [OrderPrices.after_congr hsame] at hlater
    refine (priceRecords_cons_eq_ok hkind).2
      ⟨later, amount, _, _, hlater, hlost, ih hkinds.2 hrest, ?_, rfl⟩
    by_cases hamount : other.amount = amount
    · simp [changed, noted, hamount]
    · simp [changed, noted, hamount]

/-- What pricing records leaves: each has its amount, and those are updated for which it is new. -/
theorem priceRecords_eq (hkinds : ∀ record ∈ records, record.kind ≠ .promotion)
    (h : priceRecords vouchers currency prices records = (.ok (prices', updates), records')) :
    records' = noted records (records'.map (·.amount)) ∧ updates = changed records records' := by
  have hagain :=
    (priceRecords_congr hkinds (List.forall₂_same.2 fun record _ => .refl _) h).symm.trans h
  simp only [Prod.mk.injEq, Except.ok.injEq, true_and] at hagain
  obtain ⟨hupdates, hrecords⟩ := hagain
  rw [← hupdates, hrecords]
  exact ⟨rfl, rfl⟩

theorem alike_noted {amounts : List Money}
    (hsame : List.Forall₂ (fun a b : DiscountRecord => a.SameTerms b.toDiscount) records others) :
    List.Forall₂ (fun a b : DiscountRecord => a.Alike b.toDiscount) (noted records amounts)
      (noted others amounts) := by
  induction hsame generalizing amounts with
  | nil => exact .nil
  | @cons record other rest others hsame _ ih =>
    cases amounts with
    | nil => exact .nil
    | cons amount amounts =>
      have hnoted : ∀ record : DiscountRecord,
          record.SameTerms ({ record with amount } : DiscountRecord).toDiscount := fun record =>
        Discount.sameTerms_amount record.toDiscount amount
      exact .cons ⟨((hnoted record).symm.trans hsame).trans (hnoted other), rfl⟩ ih

/-- Records that differ in their amounts only note the same. -/
theorem noted_congr {amounts : List Money}
    (h : List.Forall₂ (fun a b : DiscountRecord => b = { a with amount := b.amount }) records
      others) :
    noted others amounts = noted records amounts := by
  induction h generalizing amounts with
  | nil => rfl
  | cons hsame _ ih =>
    cases amounts with
    | nil => rfl
    | cons amount amounts =>
      rw [noted, noted, List.zipWith_cons_cons, List.zipWith_cons_cons, ← noted, ← noted, ih, hsame]

/-- Records that are the same are not written. -/
theorem changed_append_left {same : List DiscountRecord} :
    changed (same ++ records) (same ++ records') = changed records records' := by
  have hnone : (same.zip same).filter (fun pair => pair.1.amount ≠ pair.2.amount) = [] := by
    induction same with
    | nil => rfl
    | cons record rest ih => simpa using ih
  rw [changed, List.zip_append rfl, List.filter_append, hnone, List.nil_append, changed]

/-! ## The order -/

section Order

variable {order order' : Order} {ledger ledger' : Ledger}

/-- All discounts are taken off: the records are priced, the ledger follows those that changed, and
the prices are charged. -/
theorem applyDiscounts_eq_ok :
    (applyDiscounts vouchers true).runOn (order, ledger) = (.ok prices, (order', ledger')) ↔
      ∃ undiscounted updates records', order.toBasket.subtotal = .ok undiscounted ∧
        priceRecords vouchers order.currency ⟨undiscounted, order.baseShippingPrice⟩
          order.discounts = (.ok (prices, updates), records') ∧
        (if updates = [] then ledger' = ledger
          else ledger.update updates (.ofList [.amount]) = .ok ledger') ∧
        (charge undiscounted prices).runOn { order with discounts := records' } =
          (.ok (), order') := by
  constructor
  · intro h
    obtain ⟨undiscounted, updates, records', hundiscounted, hrecords, hledger, hcharge⟩ :=
      exists_of_applyDiscounts_eq_ok h
    exact ⟨undiscounted, updates, records', hundiscounted, hrecords, hledger,
      by simpa using hcharge⟩
  · rintro ⟨undiscounted, updates, records', hundiscounted, hrecords, hledger, hcharge⟩
    simp only [applyDiscounts, Step.runOn_get_bind, Step.runOn_answer_bind_eq_ok, mapError_eq_ok]
    refine ⟨undiscounted, hundiscounted, Step.runOn_bind_eq_ok.2 ⟨(prices, updates), _,
      alone_eq_ok.2 ⟨_, repriceRecords_eq_ok.2 ⟨records', hrecords, rfl⟩, rfl⟩, ?_⟩⟩
    have hcharged : (do alone .pricing (charge undiscounted prices); pure prices :
        Step (Order × Ledger) OrderError OrderPrices).runOn
          ({ order with discounts := records' }, ledger') = (.ok prices, (order', ledger')) :=
      Step.runOn_bind_eq_ok.2 ⟨(), _, alone_eq_ok.2 ⟨_, hcharge, rfl⟩, rfl⟩
    by_cases hnone : updates = []
    · rw [if_pos hnone] at hledger
      subst hnone
      subst hledger
      exact hcharged
    · rw [if_neg hnone] at hledger
      have hwrite : (!updates.isEmpty) = true := by simpa using hnone
      simp only [hwrite, if_true, Step.runOn_get_bind, Step.runOn_answer_bind_eq_ok,
        Step.runOn_set_bind, mapError_eq_ok]
      exact ⟨ledger', hledger, hcharged⟩

/-- What an order is charged are the prices after its records. -/
theorem priceRecords_of_applyDiscounts_eq_ok
    (h : (applyDiscounts vouchers true).runOn (order, ledger) = (.ok prices, (order', ledger'))) :
    ∃ undiscounted updates, order.toBasket.subtotal = .ok undiscounted ∧
      priceRecords vouchers order.currency ⟨undiscounted, order.baseShippingPrice⟩
        order.discounts =
          (.ok (⟨order'.subtotal, order'.shippingPrice⟩, updates), order'.discounts) ∧
      order'.subtotal.add order'.shippingPrice = .ok order'.total := by
  obtain ⟨undiscounted, updates, records', hundiscounted, hrecords, -, hcharge⟩ :=
    applyDiscounts_eq_ok.1 h
  obtain ⟨total, _, _, _, htotal, -, -, rfl⟩ := charge_eq_ok.1 hcharge
  exact ⟨undiscounted, updates, hundiscounted, hrecords, htotal⟩

/-- An order with a single record is charged the prices after it, and it notes what they lost. -/
theorem exists_after_of_applyDiscounts_eq_ok {record : DiscountRecord}
    (hdiscounts : order.discounts = [record]) (hkind : record.kind ≠ .promotion)
    (h : (applyDiscounts vouchers true).runOn (order, ledger) = (.ok prices, (order', ledger'))) :
    ∃ undiscounted amount, order.toBasket.subtotal = .ok undiscounted ∧
      OrderPrices.after ⟨undiscounted, order.baseShippingPrice⟩ record.toDiscount vouchers
        order.currency = .ok ⟨order'.subtotal, order'.shippingPrice⟩ ∧
      OrderPrices.lostTo ⟨undiscounted, order.baseShippingPrice⟩
        ⟨order'.subtotal, order'.shippingPrice⟩ = .ok amount ∧
      order'.discounts = [{ record with amount }] ∧
      order'.subtotal.add order'.shippingPrice = .ok order'.total := by
  obtain ⟨undiscounted, _, hundiscounted, hrecords, htotal⟩ :=
    priceRecords_of_applyDiscounts_eq_ok h
  rw [hdiscounts] at hrecords
  obtain ⟨later, amount, _, rest', hafter, hlost, hrest, -, hnoted⟩ :=
    (priceRecords_cons_eq_ok hkind).1 hrecords
  obtain ⟨rfl, -, rfl⟩ := priceRecords_nil_eq_ok.1 hrest
  exact ⟨undiscounted, amount, hundiscounted, hafter, hlost, hnoted, htotal⟩

end Order

end Order

end Retail
