import Retail.Order.Pricing
import Retail.Proofs.Line.Redistribution
import Retail.Proofs.Sync.Basic

/-!
# What the records of an order note

Each record notes what the prices lost to it, whatever it is and whatever it did to them, so the
amounts of all records together are what the prices lost.

## Main definitions

* `Repriced`: a record before and after it was priced

## Main results

* `Order.priceRecords_cons_eq_ok`: one record after the other
* `Order.exists_of_priceRecords_append_eq_ok`: some records after others
* `Order.exists_of_applyDiscounts_eq_ok`: what is changed where all discounts are taken off
* `Order.applyDiscounts_conserves`: the amounts are what the prices lost
* `Order.heldIn_applyDiscounts`: the ledger follows the amounts
-/

namespace Retail

theorem OrderPrices.lostTo_eq_ok {before later : OrderPrices} {amount : Money} :
    before.lostTo later = .ok amount ↔
      before.shipping.currency = later.shipping.currency ∧
        before.subtotal.currency = later.subtotal.currency ∧
        before.shipping.currency = before.subtotal.currency ∧
        amount = ⟨before.shipping.minor - later.shipping.minor +
          (before.subtotal.minor - later.subtotal.minor), before.shipping.currency⟩ := by
  simp only [lostTo, bind_eq_ok, Money.sub_eq_ok, Money.add_eq_ok]
  constructor
  · rintro ⟨_, ⟨hshipping, rfl⟩, _, ⟨hsubtotal, rfl⟩, hsame, rfl⟩
    exact ⟨hshipping, hsubtotal, hsame, rfl⟩
  · rintro ⟨hshipping, hsubtotal, hsame, rfl⟩
    exact ⟨_, ⟨hshipping, rfl⟩, _, ⟨hsubtotal, rfl⟩, hsame, rfl⟩

section Parts

variable {prices later : OrderPrices} {discount : Discount} {currency : Currency}

theorem OrderPrices.onSubtotal_eq_ok :
    prices.onSubtotal discount currency = .ok later ↔
      discountedPrice discount.value discount.valueType currency prices.subtotal =
          .ok later.subtotal ∧ later.shipping = prices.shipping := by
  simp only [onSubtotal, bind_eq_ok, pure_eq_ok]
  constructor
  · rintro ⟨subtotal, hsubtotal, rfl⟩
    exact ⟨hsubtotal, rfl⟩
  · rintro ⟨hsubtotal, hshipping⟩
    exact ⟨later.subtotal, hsubtotal, by rw [← hshipping]⟩

theorem OrderPrices.onShipping_eq_ok :
    prices.onShipping discount currency = .ok later ↔
      discountedPrice discount.value discount.valueType currency prices.shipping =
          .ok later.shipping ∧ later.subtotal = prices.subtotal := by
  simp only [onShipping, bind_eq_ok, pure_eq_ok]
  constructor
  · rintro ⟨shipping, hshipping, rfl⟩
    exact ⟨hshipping, rfl⟩
  · rintro ⟨hshipping, hsubtotal⟩
    exact ⟨later.shipping, hshipping, by rw [← hsubtotal]⟩

end Parts

/-- A subtotal is in the currency of its basket. -/
theorem Basket.currency_subtotal {basket : Basket} {subtotal : Money}
    (h : basket.subtotal = .ok subtotal) : subtotal.currency = basket.currency := by
  obtain ⟨totals, -, htotal⟩ := bind_eq_ok.1 h
  rw [(Money.total_eq_ok.1 htotal).2]

/-- A record before and after it was priced: at most its amount changes, and that of a catalogue
promotion does not. -/
structure Repriced (record record' : DiscountRecord) : Prop where
  eq : record' = { record with amount := record'.amount }
  promotion : record.kind = .promotion → record'.amount = record.amount

namespace Order

variable {vouchers : Vouchers} {currency : Currency} {prices prices' : OrderPrices}
  {record : DiscountRecord} {records records' updates : List DiscountRecord}

/-! ## Record by record -/

theorem priceRecords_nil_eq_ok :
    priceRecords vouchers currency prices [] = (.ok (prices', updates), records') ↔
      prices' = prices ∧ updates = [] ∧ records' = [] := by
  simp [priceRecords, eq_comm, and_assoc]

/-- A catalogue promotion is passed over. -/
theorem priceRecords_promotion_eq_ok (hkind : record.kind = .promotion) :
    priceRecords vouchers currency prices (record :: records) =
        (.ok (prices', updates), records') ↔
      ∃ rest', priceRecords vouchers currency prices records = (.ok (prices', updates), rest') ∧
        records' = record :: rest' := by
  rw [priceRecords, if_pos hkind]
  rcases priceRecords vouchers currency prices records with ⟨result, rest'⟩
  simp only [Prod.mk.injEq]
  constructor
  · rintro ⟨rfl, rfl⟩
    exact ⟨rest', ⟨rfl, rfl⟩, rfl⟩
  · rintro ⟨_, ⟨rfl, rfl⟩, rfl⟩
    exact ⟨rfl, rfl⟩

/-- Any other record notes what the prices lost to it, and is updated if that is new. -/
theorem priceRecords_cons_eq_ok (hkind : record.kind ≠ .promotion) :
    priceRecords vouchers currency prices (record :: records) =
        (.ok (prices', updates), records') ↔
      ∃ later amount updates' rest',
        prices.after record.toDiscount vouchers currency = .ok later ∧
        prices.lostTo later = .ok amount ∧
        priceRecords vouchers currency later records = (.ok (prices', updates'), rest') ∧
        updates = (if record.amount = amount then updates'
          else { record with amount } :: updates') ∧
        records' = { record with amount } :: rest' := by
  rw [priceRecords, if_neg hkind]
  cases hlater : prices.after record.toDiscount vouchers currency with
  | error e => simp [bind, Except.bind]
  | ok later =>
    cases hamount : prices.lostTo later with
    | error e => simp [bind, Except.bind, hamount]
    | ok amount =>
      rcases hrest : priceRecords vouchers currency later records with
        ⟨_ | ⟨prices', updates'⟩, rest'⟩
      · simp [bind, Except.bind, pure, Except.pure, hamount, hrest, Except.map]
      · simp [bind, Except.bind, pure, Except.pure, hamount, hrest, Except.map, eq_comm, and_assoc]

/-- Records behind others are priced from where those left the prices. -/
theorem exists_of_priceRecords_append_eq_ok {priced rest : List DiscountRecord}
    (h : priceRecords vouchers currency prices (priced ++ rest) =
      (.ok (prices', updates), records')) :
    ∃ middle updates₁ priced' updates₂ rest',
      priceRecords vouchers currency prices priced = (.ok (middle, updates₁), priced') ∧
      priceRecords vouchers currency middle rest = (.ok (prices', updates₂), rest') := by
  induction priced generalizing prices updates records' with
  | nil => exact ⟨prices, [], [], updates, records', rfl, h⟩
  | cons record priced ih =>
    rw [List.cons_append] at h
    by_cases hkind : record.kind = .promotion
    · obtain ⟨_, hbehind, -⟩ := (priceRecords_promotion_eq_ok hkind).1 h
      obtain ⟨middle, updates₁, priced', updates₂, rest', hpriced, hrest⟩ := ih hbehind
      exact ⟨middle, updates₁, _, updates₂, rest',
        (priceRecords_promotion_eq_ok hkind).2 ⟨priced', hpriced, rfl⟩, hrest⟩
    · obtain ⟨later, amount, _, _, hlater, hamount, hbehind, -, -⟩ :=
        (priceRecords_cons_eq_ok hkind).1 h
      obtain ⟨middle, updates₁, priced', updates₂, rest', hpriced, hrest⟩ := ih hbehind
      exact ⟨middle, _, _, updates₂, rest', (priceRecords_cons_eq_ok hkind).2
        ⟨later, amount, updates₁, priced', hlater, hamount, hpriced, rfl, rfl⟩, hrest⟩

/-- Prices stay in their currencies. -/
theorem currencies_priceRecords
    (h : priceRecords vouchers currency prices records = (.ok (prices', updates), records')) :
    prices'.subtotal.currency = prices.subtotal.currency ∧
      prices'.shipping.currency = prices.shipping.currency := by
  induction records generalizing prices updates records' with
  | nil =>
    obtain ⟨rfl, -, -⟩ := priceRecords_nil_eq_ok.1 h
    exact ⟨rfl, rfl⟩
  | cons record rest ih =>
    by_cases hkind : record.kind = .promotion
    · obtain ⟨_, hrest, -⟩ := (priceRecords_promotion_eq_ok hkind).1 h
      exact ih hrest
    · obtain ⟨later, _, _, _, -, hlost, hrest, -, -⟩ := (priceRecords_cons_eq_ok hkind).1 h
      obtain ⟨hshipping, hsubtotal, -, -⟩ := OrderPrices.lostTo_eq_ok.1 hlost
      obtain ⟨hsubtotal', hshipping'⟩ := ih hrest
      exact ⟨hsubtotal'.trans hsubtotal.symm, hshipping'.trans hshipping.symm⟩

/-- What the records other than those of catalogue promotions note is what the prices lost. -/
theorem priceRecords_conserves
    (h : priceRecords vouchers currency prices records = (.ok (prices', updates), records'))
    (hcurrency : prices.subtotal.currency = currency) :
    Money.total currency ((records'.filter (·.kind != .promotion)).map (·.amount)) =
      .ok ⟨prices.subtotal.minor + prices.shipping.minor -
        (prices'.subtotal.minor + prices'.shipping.minor), currency⟩ := by
  -- Induction on the records; the prices run from each to the next, so the losses add up.
  induction records generalizing prices updates records' with
  | nil =>
    obtain ⟨rfl, -, rfl⟩ := priceRecords_nil_eq_ok.1 h
    simp [Money.total_eq_ok]
  | cons record rest ih =>
    by_cases hkind : record.kind = .promotion
    · obtain ⟨rest', hrest, rfl⟩ := (priceRecords_promotion_eq_ok hkind).1 h
      simpa [hkind] using ih hrest hcurrency
    · obtain ⟨later, amount, updates', rest', -, hlost, hrest, -, rfl⟩ :=
        (priceRecords_cons_eq_ok hkind).1 h
      obtain ⟨-, hsubtotal, hsame, rfl⟩ := OrderPrices.lostTo_eq_ok.1 hlost
      obtain ⟨hamounts, hsum⟩ := Money.total_eq_ok.1 (ih hrest (hsubtotal ▸ hcurrency))
      rw [List.filter_cons_of_pos (by simpa using hkind), List.map_cons, Money.total_eq_ok,
        List.forall_mem_cons]
      refine ⟨⟨hsame.trans hcurrency, hamounts⟩, ?_⟩
      simp only [Money.mk.injEq, and_true] at hsum
      simp only [List.map_cons, List.sum_cons, ← hsum, Money.mk.injEq, and_true]
      omega

theorem priceRecords_repriced
    (h : priceRecords vouchers currency prices records = (.ok (prices', updates), records')) :
    List.Forall₂ Repriced records records' := by
  induction records generalizing prices updates records' with
  | nil =>
    obtain ⟨-, -, rfl⟩ := priceRecords_nil_eq_ok.1 h
    exact .nil
  | cons record rest ih =>
    by_cases hkind : record.kind = .promotion
    · obtain ⟨rest', hrest, rfl⟩ := (priceRecords_promotion_eq_ok hkind).1 h
      exact .cons ⟨rfl, fun _ => rfl⟩ (ih hrest)
    · obtain ⟨_, _, _, _, -, -, hrest, -, rfl⟩ := (priceRecords_cons_eq_ok hkind).1 h
      exact .cons ⟨rfl, fun hpromotion => absurd hpromotion hkind⟩ (ih hrest)

/-- The records that are to be updated are those whose amount is new. -/
theorem priceRecords_updates (hnodup : (records.map (·.key)).Nodup)
    (h : priceRecords vouchers currency prices records = (.ok (prices', updates), records')) :
    records' = records.map (·.updatedByAll (.ofList [.amount]) updates) ∧
      ∀ update ∈ updates, update.key ∈ records.map (·.key) := by
  induction records generalizing prices updates records' with
  | nil =>
    obtain ⟨-, rfl, rfl⟩ := priceRecords_nil_eq_ok.1 h
    exact ⟨rfl, List.forall_mem_nil _⟩
  | cons record rest ih =>
    have hrest := (List.nodup_cons.1 hnodup).2
    by_cases hkind : record.kind = .promotion
    · obtain ⟨rest', hpriced, rfl⟩ := (priceRecords_promotion_eq_ok hkind).1 h
      obtain ⟨rfl, hupdates⟩ := ih hrest hpriced
      rw [map_updatedByAll_cons hnodup hupdates]
      exact ⟨rfl, fun update hupdate => List.mem_cons_of_mem _ (hupdates update hupdate)⟩
    · obtain ⟨later, amount, updates', rest', -, -, hpriced, rfl, rfl⟩ :=
        (priceRecords_cons_eq_ok hkind).1 h
      obtain ⟨rfl, hupdates⟩ := ih hrest hpriced
      split
      · -- An amount that is not new is not written, and writing it would change nothing.
        rename_i hamount
        rw [map_updatedByAll_cons hnodup hupdates, ← hamount]
        exact ⟨rfl, fun update hupdate => List.mem_cons_of_mem _ (hupdates update hupdate)⟩
      · have hchanged : record.updatedBy (.ofList [.amount]) { record with amount } =
            { record with amount } := by
          rw [DiscountRecord.updatedBy, if_pos rfl, Discount.copyFields_amount]
          rfl
        have hkey : ({ record with amount } : DiscountRecord).key = record.key := rfl
        rw [map_updatedByAll_cons_cons hnodup hkey hupdates, hchanged, List.forall_mem_cons]
        exact ⟨rfl, List.mem_cons_self, fun update hupdate =>
          List.mem_cons_of_mem _ (hupdates update hupdate)⟩

/-! ## The order -/

section Order

variable {order order' : Order} {undiscounted : Money}

/-- Prices become those of the order, and the lines take what the subtotal lost. -/
theorem charge_eq_ok {u : Unit} :
    (charge undiscounted prices).runOn order = (.ok u, order') ↔
      ∃ total off shares lines, prices.subtotal.add prices.shipping = .ok total ∧
        undiscounted.sub prices.subtotal = .ok off ∧
        (redistribute undiscounted off).runOn order.lines = (.ok shares, lines) ∧
        order' = { order with
          shippingPrice := prices.shipping, subtotal := prices.subtotal, total, lines } := by
  simp only [charge, Step.runOn_modify_bind, Step.runOn_answer_bind_eq_ok,
    Step.runOn_discard_eq_ok, Step.runOn_on_eq_ok]
  constructor
  · rintro ⟨total, htotal, off, hoff, shares, lines, hlines, rfl⟩
    exact ⟨total, off, shares, lines, htotal, hoff, hlines, rfl⟩
  · rintro ⟨total, off, shares, lines, htotal, hoff, hlines, rfl⟩
    exact ⟨total, htotal, off, hoff, shares, lines, hlines, rfl⟩

theorem repriceRecords_eq_ok :
    (repriceRecords vouchers prices).runOn order = (.ok (prices', updates), order') ↔
      ∃ records', priceRecords vouchers order.currency prices order.discounts =
          (.ok (prices', updates), records') ∧
        order' = { order with discounts := records' } := by
  simp only [repriceRecords, Step.runOn_of]
  rcases priceRecords vouchers order.currency prices order.discounts with ⟨result, records'⟩
  simp only [Prod.mk.injEq]
  constructor
  · rintro ⟨rfl, rfl⟩
    exact ⟨records', ⟨rfl, rfl⟩, rfl⟩
  · rintro ⟨_, ⟨rfl, rfl⟩, rfl⟩
    exact ⟨rfl, rfl⟩

theorem alone_eq_ok {ε ε' α : Type} {rename : ε → ε'} {step : Step Order ε α} {a : α}
    {ledger : Ledger} {whole : Order × Ledger} :
    (alone rename step).runOn (order, ledger) = (.ok a, whole) ↔
      ∃ order', step.runOn order = (.ok a, order') ∧ whole = (order', ledger) := by
  simp only [alone, Step.runOn_on_eq_ok, Step.runOn_mapError_eq_ok]
  refine exists_congr fun order' => and_congr_right fun _ => eq_comm

/-- Where all discounts are taken off, the records are priced, the ledger follows those that
changed, and the prices are charged if that is asked for. -/
theorem exists_of_applyDiscounts_eq_ok {override : Bool} {ledger ledger' : Ledger}
    (h : (applyDiscounts vouchers override).runOn (order, ledger) =
      (.ok prices, (order', ledger'))) :
    ∃ undiscounted updates records', order.toBasket.subtotal = .ok undiscounted ∧
      priceRecords vouchers order.currency ⟨undiscounted, order.baseShippingPrice⟩
        order.discounts = (.ok (prices, updates), records') ∧
      (if updates = [] then ledger' = ledger
        else ledger.update updates (.ofList [.amount]) = .ok ledger') ∧
      (if override then (charge undiscounted prices).runOn
          { order with discounts := records' } = (.ok (), order')
        else order' = { order with discounts := records' }) := by
  simp only [applyDiscounts, Step.runOn_get_bind, Step.runOn_answer_bind_eq_ok, mapError_eq_ok] at h
  obtain ⟨undiscounted, hundiscounted, h⟩ := h
  obtain ⟨⟨prices', updates⟩, _, halone, h⟩ := Step.runOn_bind_eq_ok.1 h
  obtain ⟨_, hreprice, rfl⟩ := alone_eq_ok.1 halone
  obtain ⟨records', hrecords, rfl⟩ := repriceRecords_eq_ok.1 hreprice
  have hwrite : ∃ written, (if updates = [] then written = ledger
      else ledger.update updates (.ofList [.amount]) = .ok written) ∧
      (if override then do alone .pricing (charge undiscounted prices'); pure prices'
        else pure prices' : Step (Order × Ledger) OrderError OrderPrices).runOn
          ({ order with discounts := records' }, written) = (.ok prices, (order', ledger')) := by
    cases updates with
    | nil => exact ⟨ledger, rfl, h⟩
    | cons first rest =>
      simp only [List.isEmpty_cons, Bool.not_false, if_true, Step.runOn_get_bind,
        Step.runOn_answer_bind_eq_ok, Step.runOn_set_bind, mapError_eq_ok] at h
      exact h
  obtain ⟨written, hwritten, h⟩ := hwrite
  cases override with
  | false =>
    simp only [Bool.false_eq_true, if_false, Step.runOn_pure, Prod.mk.injEq, Except.ok.injEq] at h
    obtain ⟨rfl, rfl, rfl⟩ := h
    exact ⟨undiscounted, updates, records', hundiscounted, hrecords, hwritten, rfl⟩
  | true =>
    simp only [if_true, Step.runOn_bind_eq_ok, alone_eq_ok, Step.runOn_pure, Prod.mk.injEq,
      Except.ok.injEq] at h
    obtain ⟨_, _, ⟨_, hcharge, rfl⟩, rfl, rfl, rfl⟩ := h
    exact ⟨undiscounted, updates, records', hundiscounted, hrecords, hwritten, hcharge⟩

/-- Charging the prices leaves the records as they were priced. -/
theorem discounts_of_charged {override : Bool}
    (h : if override then (charge undiscounted prices).runOn
        { order with discounts := records' } = (.ok (), order')
      else order' = { order with discounts := records' }) : order'.discounts = records' := by
  split at h
  · obtain ⟨_, _, _, _, -, -, -, rfl⟩ := charge_eq_ok.1 h
    rfl
  · rw [h]

/-- What an order loses to its discounts is what the records note, but for those of catalogue
promotions, which keep their amounts; the prices at the end are charged if that is asked for. -/
theorem applyDiscounts_conserves {override : Bool} {ledger ledger' : Ledger}
    (h : (applyDiscounts vouchers override).runOn (order, ledger) =
      (.ok prices, (order', ledger'))) :
    ∃ undiscounted, order.toBasket.subtotal = .ok undiscounted ∧
      Money.total order.currency
          ((order'.discounts.filter (·.kind != .promotion)).map (·.amount)) =
        .ok ⟨undiscounted.minor + order.baseShippingPrice.minor -
          (prices.subtotal.minor + prices.shipping.minor), order.currency⟩ ∧
      List.Forall₂ Repriced order.discounts order'.discounts ∧
      (override → order'.subtotal = prices.subtotal ∧ order'.shippingPrice = prices.shipping ∧
        prices.subtotal.add prices.shipping = .ok order'.total) := by
  obtain ⟨undiscounted, updates, records', hundiscounted, hrecords, -, horder⟩ :=
    exists_of_applyDiscounts_eq_ok h
  rw [discounts_of_charged horder]
  refine ⟨undiscounted, hundiscounted, priceRecords_conserves hrecords
    (Basket.currency_subtotal hundiscounted), priceRecords_repriced hrecords, fun hoverride => ?_⟩
  rw [if_pos hoverride] at horder
  obtain ⟨total, _, _, _, htotal, -, -, rfl⟩ := charge_eq_ok.1 horder
  exact ⟨rfl, rfl, htotal⟩

/-- The ledger after amounts were written, if there were any. -/
theorem toList_of_written {ledger ledger' : Ledger}
    (h : if updates = [] then ledger' = ledger
      else ledger.update updates (.ofList [.amount]) = .ok ledger') :
    ledger'.toList = ledger.toList.map (·.updatedByAll (.ofList [.amount]) updates) := by
  split at h
  · rename_i hnone
    rw [h, hnone]
    simp
  · exact Ledger.toList_update h

/-- The amounts can be written where the ledger holds the order. -/
theorem exists_written {ledger : Ledger} {rest : List DiscountRecord}
    (hheld : order.toBasket.HeldIn ledger rest)
    (h : priceRecords vouchers currency prices order.discounts =
      (.ok (prices', updates), records')) :
    ∃ ledger', ledger.update updates (.ofList [.amount]) = .ok ledger' := by
  refine Ledger.exists_update fun update hupdate => ?_
  obtain ⟨record, hrecord, hkey⟩ :=
    List.mem_map.1 ((priceRecords_updates hheld.nodup_discounts h).2 update hupdate)
  exact List.mem_map.2 ⟨record, hheld.mem_toList_of_mem_discounts hrecord, hkey⟩

/-- The ledger follows the amounts that the records of an order note. -/
theorem heldIn_applyDiscounts {override : Bool} {ledger ledger' : Ledger}
    {rest : List DiscountRecord} (hheld : order.toBasket.HeldIn ledger rest)
    (h : (applyDiscounts vouchers override).runOn (order, ledger) =
      (.ok prices, (order', ledger'))) :
    order'.toBasket.HeldIn ledger' rest := by
  obtain ⟨undiscounted, updates, records', -, hrecords, hledger, horder⟩ :=
    exists_of_applyDiscounts_eq_ok h
  obtain ⟨rfl, hupdates⟩ := priceRecords_updates hheld.nodup_discounts hrecords
  have hpriced := hheld.updateDiscounts hupdates (toList_of_written hledger)
  split at horder
  · obtain ⟨_, _, _, lines, -, -, hlines, rfl⟩ := charge_eq_ok.1 horder
    exact hpriced.sameRecords ⟨rfl, sameRecords_redistribute hlines⟩
  · rw [horder]
    exact hpriced

/-- One pound given by the staff. -/
def poundOff : Discount where
  scope := .order
  kind := .manual
  valueType := .fixed
  value := .one
  amount := .zero .gbp

/-- An order of two lines with one pound given by the staff. -/
def poundOffOrder : Order :=
  { (Order.start ⟨1⟩ .gbp).withShippingPrice ⟨50, .gbp⟩ with
    lines := [unitLine ⟨100, .gbp⟩, unitLine ⟨200, .gbp⟩]
    discounts := [poundOff.withKey ⟨1⟩] }

theorem applyDiscounts_conserves_pound :
    ∃ order' ledger', (applyDiscounts .empty true).runOn
        (poundOffOrder, (Ledger.empty.create [poundOff]).1) =
          (.ok ⟨⟨214, .gbp⟩, ⟨36, .gbp⟩⟩, (order', ledger')) ∧
      Money.total .gbp ((order'.discounts.filter (·.kind != .promotion)).map (·.amount)) =
        .ok ⟨100, .gbp⟩ := by
  obtain ⟨undiscounted, hundiscounted, htotal, -⟩ := applyDiscounts_conserves
    (rfl : (applyDiscounts .empty true).runOn
      (poundOffOrder, (Ledger.empty.create [poundOff]).1) = (.ok ⟨⟨214, .gbp⟩, ⟨36, .gbp⟩⟩, (_, _)))
  obtain rfl : ⟨300, .gbp⟩ = undiscounted := Except.ok.inj hundiscounted
  exact ⟨_, _, rfl, htotal⟩

end Order

end Order

end Retail
