import Mathlib.Algebra.Order.BigOperators.Group.List
import Retail.Proofs.Discount.Value

/-!
# Bounds of discounts

A discount whose value is not below zero leaves at least nothing and at most the whole of a price.
Rounding does not step over whole bounds, so a percentage may be rounded on its way as often as it
is.

## Main results

* `Decimal.mantissa_ofRatio?_le`: whole bounds of a ratio bound its decimal
* `discountedPrice_bounds`, `DiscountValue.amountOff_bounds`: what is left and what is taken off
* `DiscountValue.apply_bounds`: both, and that they make up the price
-/

namespace Retail

theorem sum_nonneg_of_forall {α : Type} {f : α → Int} {xs : List α} (h : ∀ x ∈ xs, 0 ≤ f x) :
    0 ≤ (xs.map f).sum := by
  refine List.sum_nonneg fun n hn => ?_
  obtain ⟨x, hx, rfl⟩ := List.mem_map.1 hn
  exact h x hx

namespace Decimal

variable {d points remaining : Decimal} {num k : Int} {den scale : Nat}

/-- A whole number that a ratio does not pass, its decimal does not pass. -/
theorem mantissa_ofRatio?_le (hden : 0 < den) (h : ofRatio? num den scale = some d)
    (hk : num ≤ k * den) : d.mantissa ≤ k * d.denominator := by
  rw [(ofRatio?_eq_some h).1]
  refine divRound_le _ hden ?_
  calc num * tenPow d.scale
    _ ≤ k * den * tenPow d.scale := Int.mul_le_mul_of_nonneg_right hk (Int.natCast_nonneg _)
    _ = k * d.denominator * den := Int.mul_right_comm _ _ _

/-- Whether a number is below zero does not depend on the form in which it is written. -/
theorem mantissa_nonneg_of_sameValue {a b : Decimal} (h : a.sameValue b) (hb : 0 ≤ b.mantissa) :
    0 ≤ a.mantissa := by
  rw [sameValue_iff] at h
  have hpos : 0 < (b.denominator : Int) := by exact_mod_cast b.denominator_pos
  have hproduct : 0 ≤ a.mantissa * b.denominator := h ▸ Int.mul_nonneg hb (Int.natCast_nonneg _)
  exact nonneg_of_mul_nonneg_left hproduct hpos

end Decimal

variable {value fraction : Decimal} {valueType : ValueType} {currency : Currency}
  {price later off : Money} {minor n : Int}

/-- At most the whole remains when a percentage is taken off. -/
theorem remainingFraction_le_one (hvalue : 0 ≤ value.mantissa)
    (h : remainingFraction value = some fraction) : fraction.mantissa ≤ fraction.denominator := by
  obtain ⟨points, hpoints, hfraction⟩ := Option.bind_eq_some_iff.1 h
  have hhundred : points.mantissa ≤ 100 * points.denominator := by
    refine Decimal.mantissa_ofRatio?_le
      (Nat.mul_pos Decimal.hundred.denominator_pos value.denominator_pos) hpoints ?_
    show 100 * (value.denominator : Int) - value.mantissa * (1 : Nat) ≤
      100 * (1 * value.denominator : Nat)
    omega
  have hone : fraction.mantissa ≤ 1 * fraction.denominator := by
    refine Decimal.mantissa_ofRatio?_le (Nat.mul_pos (by decide) points.denominator_pos)
      hfraction ?_
    show points.mantissa * (1 : Nat) * 1 ≤ 1 * (100 * points.denominator : Nat)
    omega
  rwa [Int.one_mul] at hone

/-- A fraction of at most one does not make an amount larger. -/
theorem percentOf_le (hfraction : fraction.mantissa ≤ fraction.denominator) (hn : 0 ≤ n)
    (h : percentOf fraction n = .ok minor) : minor ≤ n := by
  unfold percentOf at h
  split at h
  · contradiction
  · rename_i product hproduct
    obtain ⟨whole, hwhole, hmul⟩ := Option.bind_eq_some_iff.1 hproduct
    obtain ⟨hmantissa, hscale⟩ := Decimal.ofParts?_eq_some hwhole
    have hbound : product.mantissa ≤ n * product.denominator := by
      rcases Decimal.mul?_cases fraction whole with ⟨-, hzero⟩ | hratio
      · obtain rfl := Option.some.inj (hzero.symm.trans hmul)
        exact Int.mul_nonneg hn (Int.natCast_nonneg _)
      · refine Decimal.mantissa_ofRatio?_le
          (Nat.mul_pos fraction.denominator_pos whole.denominator_pos) (hratio.symm.trans hmul) ?_
        rw [hmantissa, whole.denominator_of_scale_zero hscale, Nat.mul_one, Int.mul_comm]
        exact Int.mul_le_mul_of_nonneg_left hfraction hn
    rw [(roundMinor_eq_ok.1 (mapError_eq_ok.1 h)).1]
    exact divRound_le _ product.denominator_pos hbound

/-- An amount counts as zero or as it is. -/
theorem Money.minorUnits_bounds {m : Money} (h : 0 ≤ m.minor) :
    0 ≤ m.minorUnits ∧ m.minorUnits ≤ m.minor := by
  unfold minorUnits
  split
  · exact ⟨h, le_rfl⟩
  · exact ⟨le_rfl, h⟩

/-- What a discount leaves of a price is between nothing and the price. -/
theorem discountedPrice_bounds (hvalue : 0 ≤ value.mantissa) (hprice : 0 ≤ price.minor)
    (h : discountedPrice value valueType currency price = .ok later) :
    0 ≤ later.minor ∧ later.minor ≤ price.minor := by
  cases valueType with
  | fixed =>
    obtain ⟨discount, hdiscount, -, rfl⟩ := discountedPrice_fixed_eq_ok.1 h
    have hnonneg := minor_quantize_nonneg hvalue hdiscount
    have hbound := fitsMinor_iff.1 (fitsMinor_quantize hdiscount)
    rw [Money.floorAtZero_of_le (by simp only; omega)]
    simp only
    omega
  | percentage =>
    obtain ⟨-, remaining, minor, hremaining, hminor, rfl⟩ :=
      discountedPrice_percentage_eq_ok.1 h
    rw [Money.minor_floorAtZero_of_fits (fitsMinor_percentOf hminor)]
    obtain ⟨hunits, hunits_le⟩ := Money.minorUnits_bounds hprice
    have hle := percentOf_le (remainingFraction_le_one hvalue hremaining) hunits hminor
    simp only
    omega

/-- What a discount takes off a price is between nothing and the price. -/
theorem DiscountValue.amountOff_bounds {d : DiscountValue} (hvalue : 0 ≤ d.value.mantissa)
    (hprice : 0 ≤ price.minor) (h : d.amountOff price = .ok off) :
    0 ≤ off.minor ∧ off.minor ≤ price.minor := by
  obtain ⟨later, hlater, rfl⟩ := amountOff_eq_ok.1 h
  have hbounds := discountedPrice_bounds hvalue hprice hlater
  simp only
  omega

/-- What a discount leaves of a price is between nothing and the price, and what it takes off is the
rest of the price. -/
theorem DiscountValue.apply_bounds {d : DiscountValue} (hvalue : 0 ≤ d.value.mantissa)
    (hprice : 0 ≤ price.minor) (h : d.apply price = .ok later) :
    (0 ≤ later.minor ∧ later.minor ≤ price.minor ∧ later.currency = price.currency) ∧
      ∃ off, d.amountOff price = .ok off ∧
        off = ⟨price.minor - later.minor, price.currency⟩ ∧
        0 ≤ off.minor ∧ off.minor ≤ price.minor := by
  obtain ⟨hnonneg, hle⟩ := discountedPrice_bounds hvalue hprice h
  have hoff := amountOff_eq_ok.2 ⟨later, h, rfl⟩
  exact ⟨⟨hnonneg, hle, (discountedPrice_floored h).2⟩, _, hoff, rfl,
    amountOff_bounds hvalue hprice hoff⟩

/-- The least percentage that is not zero vanishes beside one hundred, so the highest price is left
as it is. -/
theorem DiscountValue.apply_bounds_of_least :
    DiscountValue.apply ⟨⟨false, 1, 28, by decide, by decide⟩, .percentage⟩
        ⟨9223372036854775807, .gbp⟩ = .ok ⟨9223372036854775807, .gbp⟩ ∧
      ∃ off, DiscountValue.amountOff ⟨⟨false, 1, 28, by decide, by decide⟩, .percentage⟩
        ⟨9223372036854775807, .gbp⟩ = .ok off ∧ off = ⟨0, .gbp⟩ := by
  have hlater : DiscountValue.apply ⟨⟨false, 1, 28, by decide, by decide⟩, .percentage⟩
      ⟨9223372036854775807, .gbp⟩ = .ok ⟨9223372036854775807, .gbp⟩ := rfl
  obtain ⟨-, off, hoff, hrest, -⟩ := apply_bounds (by decide) (by decide) hlater
  exact ⟨hlater, off, hoff, hrest⟩

end Retail
