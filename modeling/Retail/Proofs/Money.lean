import Mathlib.Algebra.BigOperators.Group.List.Basic
import Mathlib.Tactic.Linarith
import Retail.Money.Basic
import Retail.Proofs.Success

/-!
# Sums of money

Sums and differences within one currency are those of the minor units, and fail only where
currencies differ.

## Main results

* `Money.add_eq_ok`, `Money.sub_eq_ok`, `Money.total_eq_ok`: what sums and differences are
* `Money.sub_eq_error`, `Money.times_eq_error`: where there is no difference and no multiple
* `Money.floorAtZero_of_le`: the floor at zero of an amount that is not too small for 64 bits
-/

namespace Retail

theorem fitsMinor_iff {n : Int} :
    fitsMinor n = true ↔ -9223372036854775808 ≤ n ∧ n < 9223372036854775808 := by
  simp [fitsMinor]

namespace Money

variable {a b m : Money}

@[simp] theorem minor_zero (currency : Currency) : (zero currency).minor = 0 := rfl

theorem sameCurrency_eq_ok {u : Unit} : sameCurrency a b = .ok u ↔ a.currency = b.currency := by
  simp [sameCurrency]

theorem add_eq_ok :
    a.add b = .ok m ↔ a.currency = b.currency ∧ m = ⟨a.minor + b.minor, a.currency⟩ := by
  simp only [add, bind_eq_ok, sameCurrency_eq_ok, pure_eq_ok, exists_const, eq_comm (b := m)]

theorem sub_eq_ok :
    a.sub b = .ok m ↔ a.currency = b.currency ∧ m = ⟨a.minor - b.minor, a.currency⟩ := by
  simp only [sub, bind_eq_ok, sameCurrency_eq_ok, pure_eq_ok, exists_const, eq_comm (b := m)]

theorem sub_eq_error {e : PricingError} :
    a.sub b = .error e ↔
      a.currency ≠ b.currency ∧ e = .currencyMismatch a.currency b.currency := by
  by_cases hcurrency : a.currency = b.currency
  · simp [sub_eq_ok.2 ⟨hcurrency, rfl⟩, hcurrency]
  · simp [sub, sameCurrency, hcurrency, bind, Except.bind, eq_comm]

/-- Amounts of one currency have a sum, and it is the sum of their minor units. -/
theorem total_eq_ok {currency : Currency} {amounts : List Money} :
    total currency amounts = .ok m ↔
      (∀ amount ∈ amounts, amount.currency = currency) ∧
        m = ⟨(amounts.map (·.minor)).sum, currency⟩ := by
  -- The sum is carried along, so it starts from any amount.
  suffices h : ∀ start : Money, amounts.foldlM add start = .ok m ↔
      (∀ amount ∈ amounts, amount.currency = start.currency) ∧
        m = ⟨start.minor + (amounts.map (·.minor)).sum, start.currency⟩ by
    simpa [total, zero] using h (zero currency)
  induction amounts with
  | nil =>
    intro start
    simp only [List.foldlM_nil, pure_eq_ok, List.not_mem_nil, false_implies, implies_true, true_and,
      List.map_nil, List.sum_nil, add_zero]
    exact eq_comm
  | cons first rest ih =>
    intro start
    simp only [List.foldlM_cons, bind_eq_ok, add_eq_ok, List.forall_mem_cons, List.map_cons,
      List.sum_cons, ← add_assoc]
    constructor
    · rintro ⟨_, ⟨hc, rfl⟩, h⟩
      obtain ⟨hrest, hm⟩ := (ih _).1 h
      exact ⟨⟨hc.symm, hrest⟩, hm⟩
    · rintro ⟨⟨hc, hrest⟩, hm⟩
      exact ⟨_, ⟨hc.symm, rfl⟩, (ih _).2 ⟨hrest, hm⟩⟩

/-- A multiple is an amount of 64 bits. -/
theorem times_eq_ok {price : Money} {quantity : Nat} :
    price.times quantity = .ok m ↔
      fitsMinor (price.minorUnits * quantity) ∧
        m = ⟨price.minorUnits * quantity, price.currency⟩ := by
  by_cases hfits : fitsMinor (price.minorUnits * quantity) = true
  · rw [times, if_pos hfits, Except.ok.injEq]
    exact ⟨fun h => ⟨hfits, h.symm⟩, fun h => h.2.symm⟩
  · rw [times, if_neg hfits]
    simp [hfits]

theorem times_eq_error {price : Money} {quantity : Nat} {e : PricingError} :
    price.times quantity = .error e ↔
      ¬fitsMinor (price.minorUnits * quantity) ∧ e = .overflow := by
  by_cases hfits : fitsMinor (price.minorUnits * quantity)
  · simp [times_eq_ok.2 ⟨hfits, rfl⟩, hfits]
  · simp [times, hfits, eq_comm]

theorem minorUnits_of_fits (h : fitsMinor m.minor) : m.minorUnits = m.minor := by
  simp [minorUnits, h]

/-- An amount that is too large for 64 bits is not negative to the calculation either. -/
theorem floorAtZero_of_le (h : -9223372036854775808 ≤ m.minor) :
    m.floorAtZero = ⟨max 0 m.minor, m.currency⟩ := by
  have hneg : m.minorUnits < 0 ↔ m.minor < 0 := by
    unfold minorUnits
    split
    · rfl
    · rename_i hfits
      rw [fitsMinor_iff] at hfits
      omega
  simp only [floorAtZero, hneg]
  split
  · rename_i hneg
    rw [max_eq_left hneg.le]
    rfl
  · rename_i hneg
    rw [max_eq_right (not_lt.1 hneg)]

theorem floorAtZero_of_minorUnits_nonneg (h : 0 ≤ m.minorUnits) : m.floorAtZero = m := by
  rw [floorAtZero, if_neg (not_lt.2 h)]

theorem floorAtZero_of_nonneg (h : 0 ≤ m.minor) : m.floorAtZero = m := by
  apply floorAtZero_of_minorUnits_nonneg
  unfold minorUnits
  split
  · exact h
  · exact le_rfl

theorem minorUnits_floorAtZero_nonneg (m : Money) : 0 ≤ m.floorAtZero.minorUnits := by
  by_cases hneg : m.minorUnits < 0
  · rw [floorAtZero, if_pos hneg]
    exact le_rfl
  · rw [floorAtZero_of_minorUnits_nonneg (not_lt.1 hneg)]
    exact not_lt.1 hneg

/-- What is floored once is floored for good. -/
@[simp] theorem floorAtZero_floorAtZero (m : Money) :
    m.floorAtZero.floorAtZero = m.floorAtZero := by
  by_cases hneg : m.minorUnits < 0
  · have hzero : m.floorAtZero = zero m.currency := if_pos hneg
    rw [hzero]
    exact floorAtZero_of_nonneg le_rfl
  · rw [floorAtZero_of_minorUnits_nonneg (not_lt.1 hneg),
      floorAtZero_of_minorUnits_nonneg (not_lt.1 hneg)]

@[simp] theorem currency_floorAtZero (m : Money) : m.floorAtZero.currency = m.currency := by
  unfold floorAtZero
  split <;> rfl

theorem minor_floorAtZero_of_fits (h : fitsMinor m.minor) :
    m.floorAtZero.minor = max 0 m.minor := by
  rw [floorAtZero_of_le (fitsMinor_iff.1 h).1]

end Money

end Retail
