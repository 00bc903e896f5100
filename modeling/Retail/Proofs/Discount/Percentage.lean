import Retail.Proofs.Decimal.Exact
import Retail.Proofs.Discount.Value

/-!
# Exact percentages

What remains of a price when a percentage is taken off is a difference, divided by one hundred and
multiplied by the price. Percent points of four places leave a fraction of six places, and its
product with a price that is not too large has no more, so none of the three is rounded. The step to
whole minor units is the only rounding that is left.

## Main results

* `exists_remainingFraction`: the fraction that remains
* `percentOf_exact`: the fraction of a number of minor units
* `discountedPrice_percentage_exact`: the price after a percentage is taken off
-/

namespace Retail

variable {value fraction : Decimal} {price : Money} {n points product : Int} {scale : Nat}

/-- The fraction that remains when percent points of four places are taken off. -/
theorem exists_remainingFraction (hpoints : value.toRat = points / 10 ^ 4) (hscale : value.scale = 4)
    (hsmall : (1000000 - points).natAbs < Decimal.limit) :
    ∃ fraction, remainingFraction value = some fraction ∧ 6 ≤ fraction.scale ∧
      fraction.toRat = (100 - value.toRat) / 100 := by
  have hhundred : Decimal.hundred.toRat = 100 := by
    norm_num [Decimal.toRat, Decimal.hundred, Decimal.mantissa, Decimal.denominator,
      Decimal.tenPow]
  have hdifference : (Decimal.hundred.toRat - value.toRat) * 10 ^ 4 =
      ((1000000 - points : Int) : ℚ) := by
    rw [hhundred, hpoints]
    push_cast
    ring
  obtain ⟨rest, hrest, hvalue⟩ := Decimal.exists_sub?_exact hdifference hsmall
    (hscale ▸ le_max_right _ _)
  have hquotient : rest.toRat / Decimal.hundred.toRat * 10 ^ 6 =
      ((1000000 - points : Int) : ℚ) := by
    rw [hvalue, ← hdifference, hhundred]
    ring
  obtain ⟨fraction, hfraction, hplaces, hexact⟩ :=
    Decimal.exists_div?_exact (by decide) hquotient hsmall (by decide)
  refine ⟨fraction, ?_, hplaces, by rw [hexact, hvalue, hhundred]⟩
  rw [remainingFraction, hrest]
  exact hfraction

/-- A fraction of a number of minor units is the product, rounded once, where that has no more places
than the fraction and fits. -/
theorem percentOf_exact (hproduct : fraction.toRat * n * 10 ^ scale = product)
    (hlimit : product.natAbs < Decimal.limit) (hscale : scale ≤ fraction.scale)
    (hn : n.natAbs < Decimal.limit) (hfits : fitsMinor (nearest (fraction.toRat * n))) :
    percentOf fraction n = .ok (nearest (fraction.toRat * n)) := by
  obtain ⟨whole, hwhole, hvalue⟩ := Decimal.exists_ofInt? hn
  rw [← hvalue] at hproduct hfits ⊢
  obtain ⟨found, hfound, hexact⟩ := Decimal.exists_mul?_exact hproduct hlimit (by omega)
    (hscale.trans fraction.scale_le)
  rw [percentOf, hwhole, Option.bind_some, hfound]
  simp only [roundMinor_eq, hexact, if_pos hfits]
  rfl

/-- The price after percent points of at most four places are taken off, where nothing on the way is
too large. -/
theorem discountedPrice_of_fits (hpoints : value.toRat * 10 ^ 4 = points)
    (hlimit : points.natAbs < Decimal.limit) (hrest : (1000000 - points).natAbs < Decimal.limit)
    (hproduct : ((1000000 - points) * price.minorUnits).natAbs < Decimal.limit)
    (hfits : fitsMinor (nearest (price.minorUnits * (100 - value.toRat) / 100))) :
    discountedPrice value .percentage price.currency price =
      .ok (Money.mk (nearest (price.minorUnits * (100 - value.toRat) / 100))
        price.currency).floorAtZero := by
  -- The points may be written with more zeros or with less, but there is a form with four places.
  obtain ⟨short, -, hmantissa, hscale⟩ := Decimal.exists_ofParts? (by decide : 4 ≤ 28) hlimit
  have hshort : short.toRat = points / 10 ^ 4 := by rw [Decimal.toRat_eq, hmantissa, hscale]
  have hsame : value.toRat = short.toRat := by
    rw [hshort, ← hpoints]
    field_simp
  rw [discountedPrice_congr (Decimal.sameValue_iff_toRat_eq.2 hsame)]
  obtain ⟨fraction, hfraction, hplaces, hexact⟩ := exists_remainingFraction hshort hscale hrest
  have hamount : fraction.toRat * price.minorUnits =
      price.minorUnits * (100 - value.toRat) / 100 := by
    rw [hexact, hsame]
    ring
  have hwhole : fraction.toRat * price.minorUnits * 10 ^ 6 =
      ((1000000 - points) * price.minorUnits : Int) := by
    rw [hexact, hshort]
    push_cast
    ring
  rw [← hamount] at hfits ⊢
  exact discountedPrice_percentage_eq_ok.2 ⟨rfl, fraction, _, hfraction,
    percentOf_exact hwhole hproduct hplaces price.natAbs_minorUnits_lt hfits, rfl⟩

/-- A percentage of at most four places, up to a million percent points in size, taken off a price of
at most a million million minor units in size: the price after it is the exact one, rounded once half
away from zero and floored at zero. -/
theorem discountedPrice_percentage_exact (hplaces : ∃ points : Int, value.toRat * 10 ^ 4 = points)
    (hvalue : |value.toRat| ≤ 10 ^ 6) (hprice : |price.minor| ≤ 10 ^ 12) :
    discountedPrice value .percentage price.currency price =
      .ok ⟨max 0 (nearest (price.minor * (100 - value.toRat) / 100)), price.currency⟩ := by
  obtain ⟨points, hpoints⟩ := hplaces
  have hlimit : Decimal.limit = 79228162514264337593543950336 := rfl
  have hpointsLe : |points| ≤ 10000000000 := by
    have hcast : |(points : ℚ)| ≤ 10000000000 := by
      rw [← hpoints, abs_mul, abs_of_pos (by positivity : (0 : ℚ) < 10 ^ 4)]
      linarith
    exact_mod_cast hcast
  obtain ⟨hpointsLow, hpointsHigh⟩ := abs_le.1 hpointsLe
  obtain ⟨hlow, hhigh⟩ := abs_le.1 hprice
  have hunits : price.minorUnits = price.minor :=
    Money.minorUnits_of_fits (fitsMinor_iff.2 (by omega))
  have hproduct : ((1000000 - points) * price.minorUnits).natAbs ≤
      10001000000 * 1000000000000 := by
    rw [Int.natAbs_mul, hunits]
    exact Nat.mul_le_mul (by omega) (by omega)
  have hfits : fitsMinor (nearest (price.minorUnits * (100 - value.toRat) / 100)) := by
    have hminor : |(price.minorUnits : ℚ)| ≤ 1000000000000 := by
      rw [hunits]
      exact_mod_cast hprice
    have hrest : |100 - value.toRat| ≤ 1000100 := by
      rw [abs_le] at hvalue ⊢
      constructor <;> linarith
    apply fitsMinor_nearest
    calc |(price.minorUnits * (100 - value.toRat) / 100 : ℚ)|
        = |(price.minorUnits : ℚ)| * |100 - value.toRat| / 100 := by
          rw [abs_div, abs_mul, abs_of_pos (by norm_num : (0 : ℚ) < 100)]
      _ ≤ 1000000000000 * 1000100 / 100 := by gcongr
      _ ≤ 9000000000000000000 := by norm_num
  rw [discountedPrice_of_fits hpoints (by omega) (by omega) (by omega) hfits,
    Money.floorAtZero_of_le (fitsMinor_iff.1 hfits).1, hunits]

/-- Half again as much is taken off a price below zero: two and a half minor units remain, which are
rounded up. -/
theorem discountedPrice_percentage_exact_of_debt :
    Decimal.toRat ⟨false, 1500, 1, by decide, by decide⟩ = 150 ∧
      discountedPrice ⟨false, 1500, 1, by decide, by decide⟩ .percentage .gbp ⟨-5, .gbp⟩ =
        .ok ⟨3, .gbp⟩ := by
  have hvalue : Decimal.toRat ⟨false, 1500, 1, by decide, by decide⟩ = 150 := by
    norm_num [Decimal.toRat, Decimal.mantissa, Decimal.denominator, Decimal.tenPow]
  have hexact := @discountedPrice_percentage_exact ⟨false, 1500, 1, by decide, by decide⟩
    ⟨-5, .gbp⟩ ⟨1500000, by rw [hvalue]; norm_num⟩ (by rw [hvalue]; norm_num) (by norm_num)
  have hhalf : nearest ((-5 : Int) * (100 - 150) / 100) = 3 := by
    rw [nearest_eq_iff]
    norm_num
  rw [hvalue, hhalf] at hexact
  exact ⟨hvalue, hexact⟩

end Retail
