import Retail.Proofs.Decimal.Precision
import Retail.Proofs.Line.Basic

/-!
# Changes of a price that fail

An amount is taken off a line in full or not at all. It fails only where the currencies differ, and
then nothing was written. A price of a unit is set field by field, and the total comes last: where
that is too large for 64 bits, the prices of a unit are the new ones and the total is the old one.
Nothing is left of this once a price is set that fits.

## Main definitions

* `Line.atUnitPrice`: a line at another price of a unit, with the total as it was

## Main results

* `Line.applyDiscount_eq_error`, `Line.setDiscountedUnitPrice_eq_error`: when a change fails, and
  what it leaves
* `Line.left_by_setDiscountedUnitPrice`: a line after a price that could not be set
-/

namespace Retail

namespace Line

variable {amount price : Money} {line line' : Line} {e : PricingError} {u : Unit}

/-! ## An amount taken off -/

theorem exists_applyDiscount (amount : Money) {line : Line}
    (hcurrency : line.totalPrice.currency = amount.currency)
    (hquantity : line.quantity < Decimal.limit) :
    ∃ line', (applyDiscount amount).runOn line = (.ok (), line') := by
  obtain ⟨unitPrice, hunit⟩ := Money.exists_divide _ hquantity
  obtain ⟨unitDiscount, hdiscount⟩ := amount.exists_divide hquantity
  exact ⟨_, applyDiscount_eq_ok.2
    ⟨hcurrency, _, unitPrice, unitDiscount, rfl, hunit, hdiscount, rfl⟩⟩

/-- An amount cannot be taken off only where it is in another currency, and then the line is as it
was. -/
theorem applyDiscount_eq_error (hquantity : line.quantity < Decimal.limit) :
    (applyDiscount amount).runOn line = (.error e, line') ↔
      line.totalPrice.currency ≠ amount.currency ∧
        e = .currencyMismatch line.totalPrice.currency amount.currency ∧ line' = line := by
  by_cases hcurrency : line.totalPrice.currency = amount.currency
  · obtain ⟨taken, htaken⟩ := exists_applyDiscount amount hcurrency hquantity
    simp [htaken, hcurrency]
  · have hsub := Money.sub_eq_error.2 ⟨hcurrency, rfl⟩
    simp [applyDiscount, hsub, hcurrency, eq_comm]

/-! ## A price that is set -/

/-- The line at a price of a unit, with the total as it was. -/
def atUnitPrice (line : Line) (price : Money) : Line :=
  { line with
    unitDiscount := ⟨line.undiscountedUnitPrice.minor - price.minor, line.currency⟩
    discountedUnitPrice := price
    baseUnitPrice := price
    unitPrice := price }

/-- A price cannot be set where it is in another currency, or where its multiple is too large. In
the one case the line is as it was, in the other the total is. -/
theorem setDiscountedUnitPrice_eq_error :
    (setDiscountedUnitPrice price).runOn line = (.error e, line') ↔
      line.currency ≠ price.currency ∧ e = .currencyMismatch line.currency price.currency ∧
          line' = line ∨
        line.currency = price.currency ∧
          ¬fitsMinor (price.floorAtZero.minorUnits * line.quantity) ∧ e = .overflow ∧
          line' = line.atUnitPrice price.floorAtZero := by
  simp only [setDiscountedUnitPrice, Step.runOn_of]
  rw [currency]
  cases hsub : line.undiscountedUnitPrice.sub price.floorAtZero with
  | error e' =>
    obtain ⟨hcurrency, rfl⟩ := Money.sub_eq_error.1 hsub
    rw [Money.currency_floorAtZero] at hcurrency ⊢
    simp only [Prod.mk.injEq, Except.error.injEq, ne_eq, hcurrency, not_false_iff, true_and,
      false_and, or_false, eq_comm]
  | ok difference =>
    obtain ⟨hcurrency, rfl⟩ := Money.sub_eq_ok.1 hsub
    rw [Money.currency_floorAtZero] at hcurrency
    cases htotal : price.floorAtZero.times line.quantity with
    | error e' =>
      obtain ⟨hfits, rfl⟩ := Money.times_eq_error.1 htotal
      simp [hcurrency, hfits, atUnitPrice, currency, eq_comm]
    | ok totalPrice =>
      simp [hcurrency, (Money.times_eq_ok.1 htotal).1]

/-- A price that can be set leaves nothing of an earlier one. -/
theorem setDiscountedUnitPrice_atUnitPrice :
    (setDiscountedUnitPrice price).runOn (line.atUnitPrice amount) = (.ok u, line') ↔
      (setDiscountedUnitPrice price).runOn line = (.ok u, line') := by
  rw [setDiscountedUnitPrice_eq_ok, setDiscountedUnitPrice_eq_ok]
  exact Iff.rfl

/-- What a price that cannot be set leaves. In another currency it leaves the line as it was. Where
the total is too large, the prices of a unit are the new ones and the total is that of before, so
the line has no base total; it was changed, unless it had none before. Either way the next price
that can be set leads to the line that it would have led to anyway. -/
theorem left_by_setDiscountedUnitPrice
    (h : (setDiscountedUnitPrice price).runOn line = (.error e, line')) :
    (line.currency ≠ price.currency ∧ e = .currencyMismatch line.currency price.currency ∧
          line' = line ∨
        line.currency = price.currency ∧ e = .overflow ∧
          line' = line.atUnitPrice price.floorAtZero ∧ line'.baseTotal = .error .overflow) ∧
      line'.totalPrice = line.totalPrice ∧
      ((∃ total, line.baseTotal = .ok total) → (line' = line ↔ line.currency ≠ price.currency)) ∧
      ∀ later line'', (setDiscountedUnitPrice later).runOn line' = (.ok (), line'') ↔
        (setDiscountedUnitPrice later).runOn line = (.ok (), line'') := by
  rcases setDiscountedUnitPrice_eq_error.1 h with
    ⟨hcurrency, rfl, rfl⟩ | ⟨hcurrency, hfits, rfl, rfl⟩
  · exact ⟨.inl ⟨hcurrency, rfl, rfl⟩, rfl, fun _ => iff_of_true rfl hcurrency,
      fun _ _ => Iff.rfl⟩
  · have hbase : (line.atUnitPrice price.floorAtZero).baseTotal = .error .overflow :=
      Money.times_eq_error.2 ⟨hfits, rfl⟩
    refine ⟨.inr ⟨hcurrency, rfl, rfl, hbase⟩, rfl, ?_,
      fun _ _ => setDiscountedUnitPrice_atUnitPrice⟩
    rintro ⟨total, htotal⟩
    refine iff_of_false (fun hsame => ?_) (not_not_intro hcurrency)
    rw [hsame, htotal] at hbase
    exact nomatch hbase

/-- Two units of one pound. -/
def twoUnits : Line where
  key := ⟨1⟩
  variant := ⟨1⟩
  quantity := 2
  undiscountedUnitPrice := ⟨100, .gbp⟩
  discountedUnitPrice := ⟨100, .gbp⟩
  baseUnitPrice := ⟨100, .gbp⟩
  unitPrice := ⟨100, .gbp⟩
  unitDiscount := .zero .gbp
  totalPrice := ⟨200, .gbp⟩
  undiscountedTotalPrice := ⟨200, .gbp⟩
  discounts := []
  rules := []

/-- The largest amount there is fits as the price of a unit, and the total of two does not. -/
theorem left_by_setDiscountedUnitPrice_of_two : ∃ line',
    (setDiscountedUnitPrice ⟨9223372036854775807, .gbp⟩).runOn twoUnits =
        (.error .overflow, line') ∧
      line'.unitPrice = ⟨9223372036854775807, .gbp⟩ ∧ line'.totalPrice = ⟨200, .gbp⟩ ∧
      line'.baseTotal = .error .overflow ∧ line' ≠ twoUnits := by
  have hrun : (setDiscountedUnitPrice ⟨9223372036854775807, .gbp⟩).runOn twoUnits =
      (.error .overflow, twoUnits.atUnitPrice ⟨9223372036854775807, .gbp⟩) := rfl
  obtain ⟨hleft, htotal, hchanged, -⟩ := left_by_setDiscountedUnitPrice hrun
  refine ⟨_, hrun, rfl, htotal, ?_, fun hsame => ?_⟩
  · rcases hleft with ⟨hcurrency, -⟩ | ⟨-, -, -, hbase⟩
    · exact absurd rfl hcurrency
    · exact hbase
  · exact (hchanged ⟨_, rfl⟩).1 hsame rfl

/-- A price that cannot be set does not always leave the prices of a line as they were. -/
theorem prices_not_always_kept : ¬∀ (key : LineKey) (variant : VariantKey) (quantity : Nat)
    (unitPrice price : Money) (line line' : Line) (e : PricingError),
    create key variant quantity unitPrice = .ok line →
    (setDiscountedUnitPrice price).runOn line = (.error e, line') →
    line'.unitDiscount = line.unitDiscount ∧
      line'.discountedUnitPrice = line.discountedUnitPrice ∧
      line'.baseUnitPrice = line.baseUnitPrice ∧ line'.unitPrice = line.unitPrice ∧
      line'.totalPrice = line.totalPrice := by
  intro h
  obtain ⟨-, -, hbase, -⟩ := h ⟨1⟩ ⟨1⟩ 2 ⟨100, .gbp⟩ ⟨9223372036854775807, .gbp⟩
    twoUnits _ _ rfl rfl
  exact absurd hbase (by decide)

end Line

end Retail
