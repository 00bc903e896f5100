import Retail.Proofs.Failure
import Retail.Proofs.Order.Pricing

/-!
# Orders that cannot be priced

Pricing an order notes an amount in one record after the other and writes the ledger once all of
them are priced. Where it fails before that, the ledger stays behind: the records that were priced
already note new amounts, which are not written then, nor later, since only an amount that differs
from the one noted is written. Where it fails afterwards, only what is charged is left unfinished.

## Main definitions

* `Order.StoredIn`: an order whose records are those of the ledger
* `Order.PricedUpTo`: an order priced up to a record that cannot be priced
* `Order.PartlyCharged`: an order with some of the prices charged

## Main results

* `Order.priceRecords_eq_error`: pricing records fails at one of them
* `Order.applyDiscounts_eq_error`: what is left where an order cannot be priced
-/

namespace Retail

namespace Order

variable {vouchers : Vouchers} {currency : Currency} {prices prices' : OrderPrices}
  {record : DiscountRecord} {records records' updates : List DiscountRecord}
  {order order' : Order} {ledger ledger' : Ledger} {undiscounted : Money} {e : PricingError}

/-! ## Records -/

/-- What is to be updated are records that were priced. -/
theorem updates_subset
    (h : priceRecords vouchers currency prices records = (.ok (prices', updates), records')) :
    updates ⊆ records' := by
  induction records generalizing prices updates records' with
  | nil =>
    obtain ⟨-, rfl, -⟩ := priceRecords_nil_eq_ok.1 h
    exact List.nil_subset _
  | cons record rest ih =>
    by_cases hkind : record.kind = .promotion
    · obtain ⟨rest', hrest, rfl⟩ := (priceRecords_promotion_eq_ok hkind).1 h
      exact List.subset_cons_of_subset record (ih hrest)
    · obtain ⟨_, amount, updates', rest', -, -, hrest, rfl, rfl⟩ :=
        (priceRecords_cons_eq_ok hkind).1 h
      split
      · exact List.subset_cons_of_subset _ (ih hrest)
      · exact List.cons_subset_cons _ (ih hrest)

theorem priceRecords_promotion_eq_error (hkind : record.kind = .promotion) :
    priceRecords vouchers currency prices (record :: records) = (.error e, records') ↔
      ∃ rest', priceRecords vouchers currency prices records = (.error e, rest') ∧
        records' = record :: rest' := by
  rw [priceRecords, if_pos hkind]
  rcases priceRecords vouchers currency prices records with ⟨result, rest'⟩
  simp only [Prod.mk.injEq]
  constructor
  · rintro ⟨rfl, rfl⟩
    exact ⟨rest', ⟨rfl, rfl⟩, rfl⟩
  · rintro ⟨_, ⟨rfl, rfl⟩, rfl⟩
    exact ⟨rfl, rfl⟩

/-- A record cannot be priced, or else it is, and one behind it cannot be. -/
theorem priceRecords_cons_eq_error (hkind : record.kind ≠ .promotion) :
    priceRecords vouchers currency prices (record :: records) = (.error e, records') ↔
      (prices.after record.toDiscount vouchers currency >>= prices.lostTo) = .error e ∧
          records' = record :: records ∨
        ∃ later amount rest', prices.after record.toDiscount vouchers currency = .ok later ∧
          prices.lostTo later = .ok amount ∧
          priceRecords vouchers currency later records = (.error e, rest') ∧
          records' = { record with amount } :: rest' := by
  rw [priceRecords, if_neg hkind]
  cases hlater : prices.after record.toDiscount vouchers currency with
  | error e' => simp [bind, Except.bind, eq_comm]
  | ok later =>
    cases hamount : prices.lostTo later with
    | error e' => simp [bind, Except.bind, hamount, eq_comm]
    | ok amount =>
      rcases hrest : priceRecords vouchers currency later records with ⟨_ | _, rest'⟩
      · simp [bind, Except.bind, pure, Except.pure, hamount, hrest, Except.map, eq_comm]
      · simp [bind, Except.bind, pure, Except.pure, hamount, hrest, Except.map]

/-- Priced records keep their keys. -/
theorem keys_priceRecords
    (h : priceRecords vouchers currency prices records = (.ok (prices', updates), records')) :
    records'.map (·.key) = records.map (·.key) :=
  (map_eq_of_forall₂ (priceRecords_repriced h) fun _ _ hrecord => by rw [hrecord.eq]).symm

/-- Pricing fails at one of the records. Those before it are priced, and those behind it are as they
were. -/
theorem priceRecords_eq_error
    (h : priceRecords vouchers currency prices records = (.error e, records')) :
    ∃ priced record rest prices' updates priced', records = priced ++ record :: rest ∧
      priceRecords vouchers currency prices priced = (.ok (prices', updates), priced') ∧
      (prices'.after record.toDiscount vouchers currency >>= prices'.lostTo) = .error e ∧
      records' = priced' ++ record :: rest := by
  -- Induction on the records; what is priced before the failure grows by each of them.
  induction records generalizing prices records' with
  | nil => exact nomatch h
  | cons first rest ih =>
    by_cases hkind : first.kind = .promotion
    · obtain ⟨rest', hrest, rfl⟩ := (priceRecords_promotion_eq_error hkind).1 h
      obtain ⟨priced, record, after, prices', updates, priced', rfl, hpriced, hfails, rfl⟩ :=
        ih hrest
      exact ⟨first :: priced, record, after, prices', updates, first :: priced', rfl,
        (priceRecords_promotion_eq_ok hkind).2 ⟨_, hpriced, rfl⟩, hfails, rfl⟩
    · rcases (priceRecords_cons_eq_error hkind).1 h with
        ⟨hfails, rfl⟩ | ⟨later, amount, rest', hlater, hamount, hrest, rfl⟩
      · exact ⟨[], first, rest, prices, [], [], rfl, rfl, hfails, rfl⟩
      · obtain ⟨priced, record, after, prices', updates, priced', rfl, hpriced, hfails, rfl⟩ :=
          ih hrest
        exact ⟨first :: priced, record, after, prices', _, { first with amount } :: priced', rfl,
          (priceRecords_cons_eq_ok hkind).2
            ⟨later, amount, updates, _, hlater, hamount, hpriced, rfl, rfl⟩, hfails, rfl⟩

/-! ## The order -/

theorem repriceRecords_eq_error :
    (repriceRecords vouchers prices).runOn order = (.error e, order') ↔
      ∃ records', priceRecords vouchers order.currency prices order.discounts =
          (.error e, records') ∧ order' = { order with discounts := records' } := by
  simp only [repriceRecords, Step.runOn_of]
  rcases priceRecords vouchers order.currency prices order.discounts with ⟨result, records'⟩
  simp only [Prod.mk.injEq]
  constructor
  · rintro ⟨rfl, rfl⟩
    exact ⟨records', ⟨rfl, rfl⟩, rfl⟩
  · rintro ⟨_, ⟨rfl, rfl⟩, rfl⟩
    exact ⟨rfl, rfl⟩

theorem alone_eq_error {ε ε' α : Type} {rename : ε → ε'} {step : Step Order ε α} {e' : ε'}
    {whole : Order × Ledger} :
    (alone rename step).runOn (order, ledger) = (.error e', whole) ↔
      ∃ e order', step.runOn order = (.error e, order') ∧ rename e = e' ∧
        whole = (order', ledger) := by
  simp only [alone, Step.runOn_on_eq_error, Step.runOn_mapError_eq_error]
  constructor
  · rintro ⟨order', ⟨e, hstep, rfl⟩, rfl⟩
    exact ⟨e, order', hstep, rfl, rfl⟩
  · rintro ⟨e, order', hstep, rfl, rfl⟩
    exact ⟨order', ⟨e, hstep, rfl⟩, rfl⟩

/-- Shipping price and subtotal of the order are charged, and so may be the total and some of the
lines. Nothing else is changed. -/
structure PartlyCharged (prices : OrderPrices) (order order' : Order) : Prop where
  eq : order' = { order with
    shippingPrice := prices.shipping
    subtotal := prices.subtotal
    total := order'.total
    lines := order'.lines }
  total : order'.total = order.total ∨ prices.subtotal.add prices.shipping = .ok order'.total
  lines : List.Forall₂ Line.Recharged order.lines order'.lines

theorem partlyCharged_of_charge_eq_error
    (h : (charge undiscounted prices).runOn order = (.error e, order')) :
    PartlyCharged prices order order' := by
  have hsame : List.Forall₂ Line.Recharged order.lines order.lines :=
    List.forall₂_same.2 fun line _ => .refl line
  -- The total may fail, then what is off the subtotal, then one of the lines.
  simp only [charge, Step.runOn_modify_bind] at h
  rcases Step.runOn_answer_bind_eq_error.1 h with ⟨-, rfl⟩ | ⟨total, htotal, h⟩
  · exact ⟨rfl, .inl rfl, hsame⟩
  rw [Step.runOn_modify_bind] at h
  rcases Step.runOn_answer_bind_eq_error.1 h with ⟨-, rfl⟩ | ⟨off, -, h⟩
  · exact ⟨rfl, .inr htotal, hsame⟩
  · obtain ⟨lines, hlines, rfl⟩ :=
      Step.runOn_on_eq_error.1 (Step.runOn_bind_pure_eq_error.1 h)
    exact ⟨rfl, .inr htotal, recharged_redistribute hlines⟩

/-- The prices are charged only where that is asked for, and the ledger has no part in it. -/
theorem partlyCharged_of_override_eq_error {override : Bool} {e : OrderError}
    (h : (if override then do alone .pricing (charge undiscounted prices); pure prices
      else pure prices : Step (Order × Ledger) OrderError OrderPrices).runOn (order, ledger) =
        (.error e, (order', ledger'))) :
    override ∧ ledger' = ledger ∧ PartlyCharged prices order order' := by
  cases override with
  | false => simp at h
  | true =>
    obtain ⟨_, _, hcharge, -, hwhole⟩ := alone_eq_error.1 (Step.runOn_bind_pure_eq_error.1 h)
    obtain ⟨rfl, rfl⟩ := Prod.mk.inj hwhole
    exact ⟨rfl, rfl, partlyCharged_of_charge_eq_error hcharge⟩

/-- The records of the order are those of the ledger. -/
def StoredIn (order : Order) (ledger : Ledger) : Prop :=
  ∀ record ∈ order.discounts, ledger.get? record.key = some record

/-- The records of the order are priced up to one that cannot be priced. Nothing else is changed. -/
def PricedUpTo (vouchers : Vouchers) (order order' : Order) : Prop :=
  ∃ undiscounted priced record rest prices updates priced' e,
    order.toBasket.subtotal = .ok undiscounted ∧
    order.discounts = priced ++ record :: rest ∧
    priceRecords vouchers order.currency ⟨undiscounted, order.baseShippingPrice⟩ priced =
      (.ok (prices, updates), priced') ∧
    (prices.after record.toDiscount vouchers order.currency >>= prices.lostTo) = .error e ∧
    order' = { order with discounts := priced' ++ record :: rest }

/-- Records that were priced up to one of them are those of the ledger only if nothing was new. -/
theorem PricedUpTo.storedIn_iff (h : PricedUpTo vouchers order order')
    (hstored : order.StoredIn ledger) : order'.StoredIn ledger ↔ order' = order := by
  refine ⟨fun hstored' => ?_, fun hsame => hsame ▸ hstored⟩
  obtain ⟨_, priced, record, rest, _, _, priced', _, -, hsplit, hpriced, -, rfl⟩ := h
  have hsame : List.Forall₂ (· = ·) priced priced' :=
    forall₂_imp_of_mem (priceRecords_repriced hpriced) fun record hrecord record' hrecord' h => by
      have hbefore := hstored record (hsplit ▸ List.mem_append_left _ hrecord)
      have hafter := hstored' record' (List.mem_append_left _ hrecord')
      have hkey : record'.key = record.key := by rw [h.eq]
      rw [hkey, hbefore] at hafter
      exact Option.some.inj hafter
  rw [List.forall₂_eq_eq_eq] at hsame
  rw [← hsame, ← hsplit]

/-- Taking the discounts off fails before all records are priced, when the ledger is written, or
when the prices are charged. -/
theorem exists_of_applyDiscounts_eq_error {override : Bool} {e : OrderError}
    (h : (applyDiscounts vouchers override).runOn (order, ledger) =
      (.error e, (order', ledger'))) :
    (ledger' = ledger ∧ (order' = order ∨ PricedUpTo vouchers order order')) ∨
      ∃ undiscounted prices updates records', order.toBasket.subtotal = .ok undiscounted ∧
        priceRecords vouchers order.currency ⟨undiscounted, order.baseShippingPrice⟩
          order.discounts = (.ok (prices, updates), records') ∧
        ((∃ e, ledger.update updates (.ofList [.amount]) = .error e) ∨
          override ∧
          (if updates = [] then ledger' = ledger
            else ledger.update updates (.ofList [.amount]) = .ok ledger') ∧
          PartlyCharged prices { order with discounts := records' } order') := by
  simp only [applyDiscounts, Step.runOn_get_bind] at h
  rcases Step.runOn_answer_bind_eq_error.1 h with ⟨-, hwhole⟩ | ⟨undiscounted, hundiscounted, h⟩
  · obtain ⟨rfl, rfl⟩ := Prod.mk.inj hwhole
    exact .inl ⟨rfl, .inl rfl⟩
  rw [mapError_eq_ok] at hundiscounted
  rcases Step.runOn_bind_eq_error.1 h with halone | ⟨⟨prices, updates⟩, _, halone, h⟩
  · obtain ⟨e, _, hreprice, -, hwhole⟩ := alone_eq_error.1 halone
    obtain ⟨rfl, rfl⟩ := Prod.mk.inj hwhole
    obtain ⟨_, hrecords, rfl⟩ := repriceRecords_eq_error.1 hreprice
    obtain ⟨priced, record, rest, prices, updates, priced', hsplit, hpriced, hfails, rfl⟩ :=
      priceRecords_eq_error hrecords
    exact .inl ⟨rfl, .inr ⟨undiscounted, priced, record, rest, prices, updates, priced', e,
      hundiscounted, hsplit, hpriced, hfails, rfl⟩⟩
  · obtain ⟨_, hreprice, rfl⟩ := alone_eq_ok.1 halone
    obtain ⟨records', hrecords, rfl⟩ := repriceRecords_eq_ok.1 hreprice
    refine .inr ⟨undiscounted, prices, updates, records', hundiscounted, hrecords, ?_⟩
    cases updates with
    | nil => exact .inr (partlyCharged_of_override_eq_error h)
    | cons first rest =>
      simp only [List.isEmpty_cons, Bool.not_false, if_true, Step.runOn_get_bind] at h
      rcases Step.runOn_answer_bind_eq_error.1 h with ⟨hfails, -⟩ | ⟨written, hwritten, h⟩
      · obtain ⟨e, hfails, -⟩ := mapError_eq_error.1 hfails
        exact .inl ⟨e, hfails⟩
      · rw [mapError_eq_ok] at hwritten
        obtain ⟨hoverride, rfl, hcharged⟩ := partlyCharged_of_override_eq_error h
        exact .inr ⟨hoverride, hwritten, hcharged⟩

/-- What an order that cannot be priced leaves. Either the ledger is as it was, and so is the order,
but for the amounts of its records up to the one that cannot be priced; then the order and the
ledger agree only if no amount was new. Or all records are priced and the ledger has followed them,
and only what is charged is unfinished. -/
theorem applyDiscounts_eq_error {override : Bool} {e : OrderError}
    (h : (applyDiscounts vouchers override).runOn (order, ledger) =
      (.error e, (order', ledger'))) (hstored : order.StoredIn ledger) :
    (ledger' = ledger ∧ (order' = order ∨ PricedUpTo vouchers order order') ∧
        (order'.StoredIn ledger' ↔ order' = order)) ∨
      override ∧ ∃ undiscounted prices updates records',
        order.toBasket.subtotal = .ok undiscounted ∧
        priceRecords vouchers order.currency ⟨undiscounted, order.baseShippingPrice⟩
          order.discounts = (.ok (prices, updates), records') ∧
        PartlyCharged prices { order with discounts := records' } order' ∧
        ((order.discounts.map (·.key)).Nodup → order'.StoredIn ledger') := by
  rcases exists_of_applyDiscounts_eq_error h with
    ⟨rfl, hpart⟩ | ⟨undiscounted, prices, updates, records', hundiscounted, hrecords, hrest⟩
  · refine .inl ⟨rfl, hpart, ?_⟩
    rcases hpart with rfl | hpart
    · exact iff_of_true hstored rfl
    · exact hpart.storedIn_iff hstored
  · right
    rcases hrest with ⟨_, hfails⟩ | ⟨hoverride, hledger, hcharged⟩
    · have hupdates : ∀ update ∈ updates, update.key ∈ ledger.toList.map (·.key) := by
        intro update hupdate
        have hkey : update.key ∈ order.discounts.map (·.key) :=
          keys_priceRecords hrecords ▸ List.mem_map_of_mem (updates_subset hrecords hupdate)
        obtain ⟨record, hrecord, hkey⟩ := List.mem_map.1 hkey
        exact List.mem_map.2 ⟨record, (Ledger.get?_eq_some.1 (hstored record hrecord)).1, hkey⟩
      obtain ⟨_, hdone⟩ := Ledger.exists_update hupdates
      rw [hfails] at hdone
      exact nomatch hdone
    · refine ⟨hoverride, undiscounted, prices, updates, records', hundiscounted, hrecords, hcharged,
        fun hnodup record hrecord => ?_⟩
      obtain ⟨rest, hholds⟩ := Ledger.exists_holds hnodup hstored
      obtain ⟨rfl, hkeys⟩ := priceRecords_updates hnodup hrecords
      rw [hcharged.eq] at hrecord
      exact (hholds.map hkeys (toList_of_written hledger)).get? (List.mem_append_left _ hrecord)

/-- More than can be taken off. -/
def hugeOff : Discount :=
  { poundOff with value := .whole 100000000000000000000 (by decide) }

/-- An order with two records: one pound can be taken off it, and then the other discount cannot. -/
def hugeOffOrder (noted : Money) : Order :=
  { poundOffOrder with
    discounts := [{ poundOff.withKey ⟨1⟩ with amount := noted }, hugeOff.withKey ⟨2⟩] }

theorem storedIn_hugeOffOrder :
    (hugeOffOrder (.zero .gbp)).StoredIn (Ledger.empty.create [poundOff, hugeOff]).1 := by
  simp only [StoredIn, hugeOffOrder, List.forall_mem_cons]
  exact ⟨rfl, rfl, List.forall_mem_nil _⟩

theorem applyDiscounts_hugeOffOrder : ∃ e, (applyDiscounts .empty false).runOn
    (hugeOffOrder (.zero .gbp), (Ledger.empty.create [poundOff, hugeOff]).1) =
      (.error e, (hugeOffOrder ⟨100, .gbp⟩, (Ledger.empty.create [poundOff, hugeOff]).1)) :=
  ⟨_, rfl⟩

/-- The pound is noted before the other discount fails, and is not written. -/
theorem pricedUpTo_hugeOffOrder :
    PricedUpTo .empty (hugeOffOrder (.zero .gbp)) (hugeOffOrder ⟨100, .gbp⟩) ∧
    ¬(hugeOffOrder ⟨100, .gbp⟩).StoredIn (Ledger.empty.create [poundOff, hugeOff]).1 := by
  obtain ⟨_, hrun⟩ := applyDiscounts_hugeOffOrder
  have hchanged : hugeOffOrder ⟨100, .gbp⟩ ≠ hugeOffOrder (.zero .gbp) := by decide
  rcases applyDiscounts_eq_error hrun storedIn_hugeOffOrder with
    ⟨-, hpart, hstored⟩ | ⟨hoverride, -⟩
  · exact ⟨hpart.resolve_left hchanged, mt hstored.1 hchanged⟩
  · exact nomatch hoverride

/-- An order that cannot be priced is not always left as it was, nor as the ledger has it. -/
theorem failure_not_always_traceless : ¬∀ (vouchers : Vouchers) (override : Bool)
    (order order' : Order) (ledger ledger' : Ledger) (e : OrderError), order.StoredIn ledger →
    (applyDiscounts vouchers override).runOn (order, ledger) = (.error e, (order', ledger')) →
    order' = order ∧ ledger' = ledger ∧ order'.StoredIn ledger' := by
  intro h
  obtain ⟨_, hrun⟩ := applyDiscounts_hugeOffOrder
  obtain ⟨-, -, hstored⟩ := h .empty false _ _ _ _ _ storedIn_hugeOffOrder hrun
  exact absurd (hstored _ List.mem_cons_self) (by decide)

end Order

end Retail
