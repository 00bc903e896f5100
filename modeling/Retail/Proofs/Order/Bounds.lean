import Retail.Proofs.Discount.Bounds
import Retail.Proofs.Order.Pricing

/-!
# Bounds of order prices

Discounts whose values are not below zero lower prices and leave none of them below zero, also where
an amount is divided between subtotal and shipping. So every record notes an amount that is not
below zero, and not above what all of them take off.

## Main definitions

* `OrderPrices.Nonnegative`: prices that are not below zero
* `OrderPrices.Lowered`: no price is larger than before, and none is below zero
* `OrderPrices.lostMinor`: what both prices lost together

## Main results

* `Money.share_bounds`: an amount that is divided
* `OrderPrices.lowered_after`: one discount
* `Order.lowered_priceRecords`: all records
* `Order.lowered_applyDiscounts`: an order, at its end and at each of its records
-/

namespace Retail

/-- A part bears at most itself and at most what is taken off, and leaves no more than the rest of
the whole can bear. -/
theorem Money.share_bounds {off part whole share : Money} (h : off.share part whole = .ok share)
    (hfits : fitsMinor whole.minor) (hwhole : 0 < whole.minor) (hoff : 0 ≤ off.minor)
    (hoff_le : off.minor ≤ whole.minor) (hpart : 0 ≤ part.minor)
    (hpart_le : part.minor ≤ whole.minor) :
    0 ≤ share.minor ∧ share.minor ≤ part.minor ∧ share.minor ≤ off.minor ∧
      off.minor - (whole.minor - part.minor) ≤ share.minor := by
  -- The parts of an amount of 64 bits have 64 bits, so the exact proportion is what is rounded.
  have hunits : whole.minorUnits = whole.minor := minorUnits_of_fits hfits
  have hoff_units : off.minorUnits = off.minor := by
    refine minorUnits_of_fits ?_
    rw [fitsMinor_iff] at hfits ⊢
    omega
  have hpart_units : part.minorUnits = part.minor := by
    refine minorUnits_of_fits ?_
    rw [fitsMinor_iff] at hfits ⊢
    omega
  have hpos : 0 < whole.minorUnits := hunits ▸ hwhole
  refine ⟨le_share h hpos ?_, share_le h hpos ?_, share_le h hpos ?_, le_share h hpos ?_⟩
  · rw [hoff_units, hpart_units, Int.zero_mul]
    exact Int.mul_nonneg hoff hpart
  · rw [hoff_units, hpart_units, hunits, Int.mul_comm]
    exact Int.mul_le_mul_of_nonneg_left hoff_le hpart
  · rw [hoff_units, hpart_units, hunits]
    exact Int.mul_le_mul_of_nonneg_left hpart_le hoff
  · -- What the rest of the whole leaves uncovered is covered by the part.
    rw [hoff_units, hpart_units, hunits]
    nlinarith

namespace OrderPrices

variable {prices later third : OrderPrices} {discount : Discount} {vouchers : Vouchers}
  {currency : Currency}

/-- Neither price is below zero. -/
structure Nonnegative (prices : OrderPrices) : Prop where
  subtotal : 0 ≤ prices.subtotal.minor
  shipping : 0 ≤ prices.shipping.minor

/-- Neither price is larger than before or below zero. -/
structure Lowered (prices later : OrderPrices) : Prop where
  subtotal_nonneg : 0 ≤ later.subtotal.minor
  subtotal_le : later.subtotal.minor ≤ prices.subtotal.minor
  shipping_nonneg : 0 ≤ later.shipping.minor
  shipping_le : later.shipping.minor ≤ prices.shipping.minor

theorem Nonnegative.lowered (h : prices.Nonnegative) : prices.Lowered prices :=
  ⟨h.subtotal, le_rfl, h.shipping, le_rfl⟩

theorem Lowered.nonnegative (h : prices.Lowered later) : later.Nonnegative :=
  ⟨h.subtotal_nonneg, h.shipping_nonneg⟩

theorem Lowered.trans (h : prices.Lowered later) (h' : later.Lowered third) :
    prices.Lowered third :=
  ⟨h'.subtotal_nonneg, h'.subtotal_le.trans h.subtotal_le, h'.shipping_nonneg,
    h'.shipping_le.trans h.shipping_le⟩

/-! ## One discount -/

theorem lowered_onSubtotal (hvalue : 0 ≤ discount.value.mantissa) (h : prices.Nonnegative)
    (hlater : prices.onSubtotal discount currency = .ok later) : prices.Lowered later := by
  obtain ⟨hsubtotal, hshipping⟩ := onSubtotal_eq_ok.1 hlater
  obtain ⟨hnonneg, hle⟩ := discountedPrice_bounds hvalue h.subtotal hsubtotal
  exact ⟨hnonneg, hle, hshipping ▸ h.shipping, hshipping ▸ le_rfl⟩

theorem lowered_onShipping (hvalue : 0 ≤ discount.value.mantissa) (h : prices.Nonnegative)
    (hlater : prices.onShipping discount currency = .ok later) : prices.Lowered later := by
  obtain ⟨hshipping, hsubtotal⟩ := onShipping_eq_ok.1 hlater
  obtain ⟨hnonneg, hle⟩ := discountedPrice_bounds hvalue h.shipping hshipping
  exact ⟨hsubtotal ▸ h.subtotal, hsubtotal ▸ le_rfl, hnonneg, hle⟩

/-- The share of the subtotal is at most the subtotal, and leaves for shipping at most its price. -/
theorem lowered_onBoth (hvalue : 0 ≤ discount.value.mantissa) (h : prices.Nonnegative)
    (hlater : prices.onBoth discount currency = .ok later) : prices.Lowered later := by
  obtain ⟨combined, hcombined, hlater⟩ := bind_eq_ok.1 hlater
  obtain ⟨-, rfl⟩ := Money.add_eq_ok.1 hcombined
  have hsubtotal := h.subtotal
  have hshipping := h.shipping
  split at hlater
  · rw [← pure_eq_ok.1 hlater]
    exact h.lowered
  · rename_i hpos
    have hfits : fitsMinor (prices.subtotal.minor + prices.shipping.minor) := by
      by_contra hlarge
      exact hpos (by simp [Money.minorUnits, hlarge])
    rw [@Money.minorUnits_of_fits ⟨_, prices.subtotal.currency⟩ hfits] at hpos
    simp only [bind_eq_ok, pure_eq_ok, Money.sub_eq_ok] at hlater
    obtain ⟨left, hleft, off, ⟨-, rfl⟩, share, hshare, _, ⟨-, rfl⟩, hlater⟩ := hlater
    obtain ⟨_, ⟨-, rfl⟩, _, ⟨-, rfl⟩, rfl⟩ := hlater
    obtain ⟨hnonneg, hle⟩ := discountedPrice_bounds hvalue (by simp only; omega) hleft
    simp only at hnonneg hle hpos
    obtain ⟨hshare_nonneg, hshare_le, hshare_off, hrest⟩ := Money.share_bounds hshare hfits
      (by simp only; omega) (by simp only; omega) (by simp only; omega) hsubtotal
      (by simp only; omega)
    simp only at hshare_le hshare_off hrest
    constructor
    all_goals
      simp only
      omega

theorem lowered_after (hvalue : 0 ≤ discount.value.mantissa) (h : prices.Nonnegative)
    (hlater : prices.after discount vouchers currency = .ok later) : prices.Lowered later := by
  unfold OrderPrices.after at hlater
  cases hkind : discount.kind with
  | promotion =>
    simp only [hkind] at hlater
    exact Except.ok.inj hlater ▸ h.lowered
  | orderPromotion =>
    simp only [hkind] at hlater
    exact lowered_onSubtotal hvalue h hlater
  | voucher =>
    simp only [hkind] at hlater
    split at hlater
    · exact lowered_onSubtotal hvalue h hlater
    · exact lowered_onShipping hvalue h hlater
    · exact Except.ok.inj hlater ▸ h.lowered
    · exact Except.ok.inj hlater ▸ h.lowered
  | manual =>
    simp only [hkind] at hlater
    split at hlater
    · obtain ⟨middle, hmiddle, hlater⟩ := bind_eq_ok.1 hlater
      have hlowered := lowered_onSubtotal hvalue h hmiddle
      exact hlowered.trans (lowered_onShipping hvalue hlowered.nonnegative hlater)
    · exact lowered_onBoth hvalue h hlater

/-- What both prices lost together. -/
def lostMinor (prices later : OrderPrices) : Int :=
  prices.subtotal.minor + prices.shipping.minor - (later.subtotal.minor + later.shipping.minor)

theorem minor_of_lostTo {amount : Money} (h : prices.lostTo later = .ok amount) :
    amount.minor = prices.lostMinor later := by
  obtain ⟨-, -, -, rfl⟩ := lostTo_eq_ok.1 h
  simp only [lostMinor]
  omega

theorem Lowered.lostMinor_nonneg (h : prices.Lowered later) : 0 ≤ prices.lostMinor later := by
  obtain ⟨_, _, _, _⟩ := h
  unfold lostMinor
  omega

theorem lostMinor_add (prices later third : OrderPrices) :
    prices.lostMinor later + later.lostMinor third = prices.lostMinor third := by
  simp only [lostMinor]
  omega

end OrderPrices

/-! ## All records -/

namespace Order

variable {vouchers : Vouchers} {currency : Currency} {prices prices' : OrderPrices}
  {records records' updates : List DiscountRecord}

/-- The prices become lower, and each record notes a part of what they lose together. -/
theorem lowered_priceRecords (hvalues : ∀ record ∈ records, 0 ≤ record.value.mantissa)
    (h : prices.Nonnegative)
    (hrun : priceRecords vouchers currency prices records = (.ok (prices', updates), records')) :
    prices.Lowered prices' ∧ ∀ record ∈ records', record.kind ≠ .promotion →
      0 ≤ record.amount.minor ∧ record.amount.minor ≤ prices.lostMinor prices' := by
  induction records generalizing prices updates records' with
  | nil =>
    obtain ⟨rfl, -, rfl⟩ := priceRecords_nil_eq_ok.1 hrun
    exact ⟨h.lowered, List.forall_mem_nil _⟩
  | cons record rest ih =>
    rw [List.forall_mem_cons] at hvalues
    by_cases hkind : record.kind = .promotion
    · obtain ⟨rest', hrest, rfl⟩ := (priceRecords_promotion_eq_ok hkind).1 hrun
      obtain ⟨hlowered, hamounts⟩ := ih hvalues.2 h hrest
      exact ⟨hlowered, List.forall_mem_cons.2 ⟨fun hne => absurd hkind hne, hamounts⟩⟩
    · obtain ⟨later, amount, _, rest', hlater, hamount, hrest, -, rfl⟩ :=
        (priceRecords_cons_eq_ok hkind).1 hrun
      have hfirst := OrderPrices.lowered_after hvalues.1 h hlater
      obtain ⟨hlowered, hamounts⟩ := ih hvalues.2 hfirst.nonnegative hrest
      have hadd := OrderPrices.lostMinor_add prices later prices'
      have hnonneg := hfirst.lostMinor_nonneg
      have hnonneg' := hlowered.lostMinor_nonneg
      have hminor := OrderPrices.minor_of_lostTo hamount
      refine ⟨hfirst.trans hlowered, List.forall_mem_cons.2 ⟨fun _ => ?_, fun other hother hkind =>
        ?_⟩⟩
      · simp only
        omega
      · obtain ⟨hother, hle⟩ := hamounts other hother hkind
        omega

/-- Each record finds the prices that those before it left, and takes no more off than there is. -/
theorem exists_lowered_of_priceRecords_eq_ok {priced rest : List DiscountRecord}
    {record : DiscountRecord}
    (hvalues : ∀ other ∈ priced ++ record :: rest, 0 ≤ other.value.mantissa)
    (h : prices.Nonnegative)
    (hrun : priceRecords vouchers currency prices (priced ++ record :: rest) =
      (.ok (prices', updates), records')) :
    ∃ before updates' priced' later,
      priceRecords vouchers currency prices priced = (.ok (before, updates'), priced') ∧
      before.after record.toDiscount vouchers currency = .ok later ∧
      prices.Lowered before ∧ before.Lowered later := by
  rw [List.forall_mem_append, List.forall_mem_cons] at hvalues
  obtain ⟨hvalues, hvalue, -⟩ := hvalues
  obtain ⟨before, updates', priced', _, _, hpriced, hbehind⟩ :=
    exists_of_priceRecords_append_eq_ok hrun
  obtain ⟨hbefore, -⟩ := lowered_priceRecords hvalues h hpriced
  have hafter : ∃ later, before.after record.toDiscount vouchers currency = .ok later := by
    by_cases hkind : record.kind = .promotion
    · exact ⟨before, by simp [OrderPrices.after, hkind]⟩
    · obtain ⟨later, _, _, _, hlater, -⟩ := (priceRecords_cons_eq_ok hkind).1 hbehind
      exact ⟨later, hlater⟩
  obtain ⟨later, hlater⟩ := hafter
  exact ⟨before, updates', priced', later, hpriced, hlater, hbefore,
    OrderPrices.lowered_after hvalue hbefore.nonnegative hlater⟩

end Order

/-! ## The order -/

/-- Lines whose base prices are not below zero have no subtotal below zero. -/
theorem Basket.subtotal_nonneg {basket : Basket} {subtotal : Money}
    (hlines : ∀ line ∈ basket.lines, 0 ≤ line.baseUnitPrice.minor)
    (h : basket.subtotal = .ok subtotal) : 0 ≤ subtotal.minor := by
  obtain ⟨totals, htotals, htotal⟩ := bind_eq_ok.1 h
  obtain ⟨-, rfl⟩ := Money.total_eq_ok.1 htotal
  refine sum_nonneg_of_forall fun total hmem => ?_
  obtain ⟨line, hline, hbase⟩ := exists_left_of_forall₂ (mapM_eq_ok.1 htotals) hmem
  obtain ⟨-, rfl⟩ := Money.times_eq_ok.1 hbase
  exact Int.mul_nonneg (Money.minorUnits_bounds (hlines line hline)).1 (Int.natCast_nonneg _)

namespace Order

/-- The discounts of an order leave no price below zero or above what it was, and no record notes an
amount below zero, whatever the records are and in which order they stand. This holds after each
record, so none of them takes more off subtotal or shipping than those before it left; a fixed
amount off both is divided so. -/
theorem lowered_applyDiscounts {vouchers : Vouchers} {override : Bool} {order order' : Order}
    {ledger ledger' : Ledger} {prices : OrderPrices}
    (hlines : ∀ line ∈ order.lines, 0 ≤ line.baseUnitPrice.minor)
    (hshipping : 0 ≤ order.baseShippingPrice.minor)
    (hvalues : ∀ record ∈ order.discounts, 0 ≤ record.value.mantissa)
    (h : (applyDiscounts vouchers override).runOn (order, ledger) =
      (.ok prices, (order', ledger'))) :
    ∃ undiscounted, order.toBasket.subtotal = .ok undiscounted ∧
      OrderPrices.Lowered ⟨undiscounted, order.baseShippingPrice⟩ prices ∧
      prices.subtotal.currency = undiscounted.currency ∧
      prices.shipping.currency = order.baseShippingPrice.currency ∧
      (∀ record ∈ order'.discounts, record.kind ≠ .promotion → 0 ≤ record.amount.minor) ∧
      ∀ priced record rest, order.discounts = priced ++ record :: rest →
        ∃ before updates priced' later,
          priceRecords vouchers order.currency ⟨undiscounted, order.baseShippingPrice⟩ priced =
            (.ok (before, updates), priced') ∧
          before.after record.toDiscount vouchers order.currency = .ok later ∧
          OrderPrices.Lowered ⟨undiscounted, order.baseShippingPrice⟩ before ∧
          before.Lowered later := by
  obtain ⟨undiscounted, updates, records', hundiscounted, hrecords, -, horder⟩ :=
    exists_of_applyDiscounts_eq_ok h
  have hstart : OrderPrices.Nonnegative ⟨undiscounted, order.baseShippingPrice⟩ :=
    ⟨Basket.subtotal_nonneg hlines hundiscounted, hshipping⟩
  obtain ⟨hlowered, hamounts⟩ := lowered_priceRecords hvalues hstart hrecords
  obtain ⟨hsubtotal, hshipping⟩ := currencies_priceRecords hrecords
  refine ⟨undiscounted, hundiscounted, hlowered, hsubtotal, hshipping, ?_, ?_⟩
  · intro record hrecord hkind
    rw [discounts_of_charged horder] at hrecord
    exact (hamounts record hrecord hkind).1
  · intro priced record rest hsplit
    rw [hsplit] at hvalues hrecords
    exact exists_lowered_of_priceRecords_eq_ok hvalues hstart hrecords

/-- One and a half times what is left. -/
def overOff : Discount :=
  { poundOff with valueType := .percentage, value := .whole 150 (by decide) }

/-- An order of three pounds with one pound off everything and a percentage above hundred. -/
def overOffOrder : Order :=
  { poundOffOrder with discounts := [poundOff.withKey ⟨1⟩, overOff.withKey ⟨2⟩] }

theorem lowered_applyDiscounts_overOff :
    ∃ order' ledger', (applyDiscounts .empty true).runOn
        (overOffOrder, (Ledger.empty.create [poundOff, overOff]).1) =
          (.ok ⟨⟨0, .gbp⟩, ⟨0, .gbp⟩⟩, (order', ledger')) ∧
      OrderPrices.Lowered ⟨⟨300, .gbp⟩, ⟨50, .gbp⟩⟩ ⟨⟨0, .gbp⟩, ⟨0, .gbp⟩⟩ ∧
      ∀ record ∈ order'.discounts, record.kind ≠ .promotion → 0 ≤ record.amount.minor := by
  have hrun : (applyDiscounts .empty true).runOn
      (overOffOrder, (Ledger.empty.create [poundOff, overOff]).1) =
        (.ok ⟨⟨0, .gbp⟩, ⟨0, .gbp⟩⟩, (_, _)) := rfl
  obtain ⟨undiscounted, hundiscounted, hlowered, -, -, hamounts, -⟩ :=
    lowered_applyDiscounts (by decide) (by decide) (by decide) hrun
  obtain rfl : ⟨300, .gbp⟩ = undiscounted := Except.ok.inj hundiscounted
  exact ⟨_, _, hrun, hlowered, hamounts⟩

end Order

end Retail
