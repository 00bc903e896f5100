import Mathlib.Data.Rat.Floor
import Retail.Proofs.Decimal.Precision

/-!
# Exact decimals

Arithmetic is rounded only where a result has more digits than fit. A result that is a whole number
at some scale, and fits there, is the exact one, whatever zeros are written after it. A product with
a power of ten needs no more digits than the factor has, so it is exact or does not fit at all.

What is left to round is the step to whole minor units, and that is the rounding of a number.

## Main definitions

* `nearest`: the whole number nearest to a number, a half away from zero

## Main results

* `nearest_eq_iff`: what is nearest
* `divRound_eq_nearest`, `roundMinor_eq`: rounding half away from zero
* `Decimal.exists_of_ofRatio?_exact`: ratios that need no rounding
* `Decimal.exists_mul?_exact`, `Decimal.exists_sub?_exact`, `Decimal.exists_div?_exact`: arithmetic
* `Decimal.mul?_tenPow`: products with powers of ten
-/

namespace Retail

/-! ## The nearest whole number -/

/-- The whole number nearest to `x`; a half goes away from zero. -/
def nearest (x : ℚ) : ℤ := if 0 ≤ x then ⌊x + 1 / 2⌋ else ⌈x - 1 / 2⌉

theorem nearest_neg (x : ℚ) : nearest (-x) = -nearest x := by
  rcases lt_trichotomy x 0 with hneg | rfl | hpos
  · have hopposite : -x + 1 / 2 = -(x - 1 / 2) := by ring
    rw [nearest, nearest, if_pos (neg_nonneg.2 hneg.le), if_neg (not_le.2 hneg), hopposite,
      Int.floor_neg]
  · norm_num [nearest]
  · have hopposite : -x - 1 / 2 = -(x + 1 / 2) := by ring
    rw [nearest, nearest, if_neg (not_le.2 (neg_neg_of_pos hpos)), if_pos hpos.le, hopposite,
      Int.ceil_neg]

theorem nearest_eq_iff_of_nonneg {x : ℚ} {n : ℤ} (hx : 0 ≤ x) :
    nearest x = n ↔ 2 * n - 1 ≤ 2 * x ∧ 2 * x < 2 * n + 1 := by
  rw [nearest, if_pos hx, Int.floor_eq_iff]
  constructor
  · rintro ⟨hle, hlt⟩
    exact ⟨by linarith, by linarith⟩
  · rintro ⟨hle, hlt⟩
    exact ⟨by linarith, by linarith⟩

/-- What is nearest is at most one half away, and of two such numbers the one further from zero. -/
theorem nearest_eq_iff {x : ℚ} {n : ℤ} :
    nearest x = n ↔ |x - n| ≤ 1 / 2 ∧ (|x - n| = 1 / 2 → |x| < |(n : ℚ)|) := by
  -- Both sides say the same of a number and of its opposite.
  wlog hx : 0 ≤ x generalizing x n
  · have h := this (x := -x) (n := -n) (by linarith)
    rwa [nearest_neg, neg_inj, Int.cast_neg, neg_sub_neg, abs_neg, abs_neg, abs_sub_comm] at h
  rw [nearest_eq_iff_of_nonneg hx, abs_of_nonneg hx, abs_le]
  constructor
  · rintro ⟨hle, hlt⟩
    refine ⟨⟨by linarith, by linarith⟩, fun hhalf => ?_⟩
    rcases eq_or_eq_neg_of_abs_eq hhalf with habove | hbelow
    · linarith
    · exact lt_of_lt_of_le (by linarith) (le_abs_self _)
  · rintro ⟨⟨hge, hle⟩, htie⟩
    refine ⟨by linarith, ?_⟩
    -- A whole number one half below `x` is nearer to zero than `x` is.
    by_contra hlt
    have hhalf : x - n = 1 / 2 := by linarith
    have hnonneg : 0 ≤ n := by
      have hgt : (-1 : ℚ) < n := by linarith
      have hgt' : -1 < n := by exact_mod_cast hgt
      omega
    have hcloser := htie (by rw [hhalf, abs_of_nonneg one_half_pos.le])
    rw [abs_of_nonneg (Int.cast_nonneg hnonneg)] at hcloser
    linarith

/-- Rounding moves a number by at most one half. -/
theorem abs_sub_nearest_le (x : ℚ) : |x - nearest x| ≤ 1 / 2 := (nearest_eq_iff.1 rfl).1

@[simp] theorem nearest_intCast (n : ℤ) : nearest n = n := by
  rw [nearest_eq_iff, sub_self, abs_zero]
  exact ⟨one_half_pos.le, fun hhalf => absurd hhalf one_half_pos.ne⟩

theorem divRound_eq_nearest (num : Int) {den : Nat} (hden : 0 < den) :
    divRound .awayFromZero num den = nearest (num / den) := by
  wlog hnum : 0 ≤ num generalizing num
  · have h := this (-num) (by omega)
    rwa [divRound_neg _ _ hden, Int.cast_neg, neg_div, nearest_neg, neg_inj] at h
  have hpos : (0 : ℚ) < den := by exact_mod_cast hden
  have hratio : (0 : ℚ) ≤ num / den := div_nonneg (by exact_mod_cast hnum) hpos.le
  rw [eq_comm, nearest_eq_iff_of_nonneg hratio, ← mul_div_assoc, le_div_iff₀ hpos,
    div_lt_iff₀ hpos]
  exact_mod_cast (divRound_awayFromZero_eq_iff hden hnum).1 rfl

/-- A number of minor units is rounded once, and fails where that does not fit. -/
theorem roundMinor_eq (d : Decimal) :
    roundMinor d =
      if fitsMinor (nearest d.toRat) then .ok (nearest d.toRat) else .error .overflow := by
  have hround : d.roundToInt .awayFromZero = nearest d.toRat :=
    divRound_eq_nearest d.mantissa d.denominator_pos
  rw [roundMinor, hround]

theorem fitsMinor_nearest {x : ℚ} (h : |x| ≤ 9000000000000000000) : fitsMinor (nearest x) := by
  have hnear := abs_le.1 (abs_sub_nearest_le x)
  rw [abs_le] at h
  rw [fitsMinor_iff]
  constructor
  · have hlow : (-9223372036854775808 : ℚ) ≤ nearest x := by linarith
    exact_mod_cast hlow
  · have hhigh : (nearest x : ℚ) < 9223372036854775808 := by linarith
    exact_mod_cast hhigh

/-- What fits as a number of minor units is far below the limit of decimals. -/
theorem abs_lt_of_fitsMinor_nearest {x : ℚ} (h : fitsMinor (nearest x)) : |x| < Decimal.limit := by
  have hnear := abs_le.1 (abs_sub_nearest_le x)
  obtain ⟨hlow, hhigh⟩ := fitsMinor_iff.1 h
  have hlow' : (-9223372036854775808 : ℚ) ≤ nearest x := by exact_mod_cast hlow
  have hhigh' : (nearest x : ℚ) < 9223372036854775808 := by exact_mod_cast hhigh
  rw [abs_lt]
  constructor
  · norm_num
    linarith
  · norm_num
    linarith

namespace Decimal

variable {a b d : Decimal} {n num : Int} {den scale upper exponent : Nat}

/-! ## Numbers of decimals -/

theorem cast_tenPow (exponent : Nat) : (tenPow exponent : ℚ) = 10 ^ exponent := by
  rw [tenPow, Nat.pow_eq, Nat.cast_pow, Nat.cast_ofNat]

theorem toRat_eq (d : Decimal) : d.toRat = d.mantissa / 10 ^ d.scale := by
  rw [toRat, denominator, cast_tenPow]

theorem toRat_zero : zero.toRat = 0 := by
  have hmantissa : zero.mantissa = 0 := rfl
  rw [toRat, hmantissa, Int.cast_zero, zero_div]

theorem exists_ofInt? (hn : n.natAbs < limit) : ∃ d, ofInt? n = some d ∧ d.toRat = n := by
  obtain ⟨d, hd, hmantissa, hscale⟩ := exists_ofParts? (Nat.zero_le 28) hn
  exact ⟨d, hd, by rw [toRat_eq, hmantissa, hscale, pow_zero, div_one]⟩

/-! ## Ratios that need no rounding -/

/-- A ratio that is a whole number at some scale is written down exactly, with at least as many
places, where that whole number fits. -/
theorem exists_of_ofRatio?_exact (hden : 0 < den) (hexact : (num / den : ℚ) * 10 ^ scale = n)
    (hn : n.natAbs < limit) (hscale : scale ≤ upper) (hupper : upper ≤ 28) :
    ∃ d, ofRatio? num den upper = some d ∧ scale ≤ d.scale ∧ d.toRat = num / den := by
  have hne : (den : ℚ) ≠ 0 := by exact_mod_cast hden.ne'
  have hwhole : ∀ more, num * tenPow (scale + more) = n * tenPow more * den := by
    intro more
    have hnum : (num : ℚ) * 10 ^ scale = n * den := by
      rw [← hexact]
      field_simp
    have hcast : (num * tenPow (scale + more) : ℚ) = n * tenPow more * den := by
      rw [cast_tenPow, cast_tenPow, pow_add, ← mul_assoc, hnum]
      ring
    exact_mod_cast hcast
  have hround : ∀ more,
      divRound .toEven (num * tenPow (scale + more)) den = n * tenPow more := by
    intro more
    rw [hwhole, divRound_mul_self _ _ hden]
  have hfits : (divRound .toEven (num * tenPow scale) den).natAbs < limit := by
    have hone : (tenPow 0 : Int) = 1 := rfl
    have hzero := hround 0
    rw [Nat.add_zero, hone, Int.mul_one] at hzero
    rwa [hzero]
  obtain ⟨d, hd, hle⟩ := exists_of_ofRatio? hscale hupper hfits
  refine ⟨d, hd, hle, ?_⟩
  obtain ⟨more, hmore⟩ := Nat.exists_eq_add_of_le hle
  have hmantissa : d.mantissa = n * tenPow more := by
    rw [(ofRatio?_eq_some hd).1, hmore, hround]
  rw [toRat_eq, hmantissa, hmore, Int.cast_mul, Int.cast_natCast, cast_tenPow, ← hexact]
  field_simp
  ring

/-- Only a ratio below the limit is written down. -/
theorem abs_lt_of_ofRatio? (hden : 0 < den) (h : ofRatio? num den scale = some d) :
    |(num / den : ℚ)| < limit := by
  have hpos : (0 : ℚ) < den := by exact_mod_cast hden
  suffices hlt : num.natAbs < limit * den by
    rw [abs_div, abs_of_pos hpos, div_lt_iff₀ hpos, ← Int.cast_abs, ← Int.natCast_natAbs]
    exact_mod_cast hlt
  by_contra hge
  have hten : num.natAbs ≤ (num * tenPow d.scale).natAbs := by
    rw [Int.natAbs_mul, Int.natAbs_natCast]
    exact Nat.le_mul_of_pos_right _ (tenPow_pos _)
  have hround := le_natAbs_divRound .toEven hden ((not_lt.1 hge).trans hten)
  rw [← (ofRatio?_eq_some h).1, natAbs_mantissa] at hround
  exact absurd d.magnitude_lt (not_lt.2 hround)

/-! ## Exact arithmetic -/

theorem toRat_mul (a b : Decimal) : ((a.mantissa * b.mantissa : Int) : ℚ) /
    (a.denominator * b.denominator : Nat) = a.toRat * b.toRat := by
  rw [toRat, toRat, Int.cast_mul, Nat.cast_mul, div_mul_div_comm]

theorem exists_mul?_exact (hexact : a.toRat * b.toRat * 10 ^ scale = n) (hn : n.natAbs < limit)
    (hscale : scale ≤ a.scale + b.scale) (hplaces : scale ≤ 28) :
    ∃ p, a.mul? b = some p ∧ p.toRat = a.toRat * b.toRat := by
  rw [← toRat_mul] at hexact ⊢
  rcases mul?_cases a b with ⟨hproduct, hzero⟩ | hratio
  · exact ⟨zero, hzero, by rw [toRat_zero, hproduct, Int.cast_zero, zero_div]⟩
  · obtain ⟨p, hp, -, hvalue⟩ := exists_of_ofRatio?_exact
      (Nat.mul_pos a.denominator_pos b.denominator_pos) hexact hn (le_min hscale hplaces)
      (min_le_right _ _)
    exact ⟨p, hratio.trans hp, hvalue⟩

/-- Only a product below the limit is written down. -/
theorem abs_lt_of_mul? {p : Decimal} (h : a.mul? b = some p) : |a.toRat * b.toRat| < limit := by
  rw [← toRat_mul]
  rcases mul?_cases a b with ⟨hproduct, -⟩ | hratio
  · rw [hproduct, Int.cast_zero, zero_div, abs_zero]
    norm_num
  · exact abs_lt_of_ofRatio? (Nat.mul_pos a.denominator_pos b.denominator_pos)
      (hratio.symm.trans h)

theorem exists_sub?_exact (hexact : (a.toRat - b.toRat) * 10 ^ scale = n) (hn : n.natAbs < limit)
    (hscale : scale ≤ max a.scale b.scale) :
    ∃ d, a.sub? b = some d ∧ d.toRat = a.toRat - b.toRat := by
  have ha : (a.denominator : ℚ) ≠ 0 := by exact_mod_cast a.denominator_pos.ne'
  have hb : (b.denominator : ℚ) ≠ 0 := by exact_mod_cast b.denominator_pos.ne'
  have hratio : ((a.mantissa * b.denominator - b.mantissa * a.denominator : Int) : ℚ) /
      (a.denominator * b.denominator : Nat) = a.toRat - b.toRat := by
    rw [toRat, toRat, div_sub_div _ _ ha hb]
    push_cast
    ring
  rw [← hratio] at hexact ⊢
  obtain ⟨d, hd, -, hvalue⟩ := exists_of_ofRatio?_exact
    (Nat.mul_pos a.denominator_pos b.denominator_pos) hexact hn hscale
    (max_le a.scale_le b.scale_le)
  exact ⟨d, hd, hvalue⟩

theorem exists_div?_exact (hb : b.mantissa ≠ 0) (hexact : a.toRat / b.toRat * 10 ^ scale = n)
    (hn : n.natAbs < limit) (hscale : scale ≤ 28) :
    ∃ q, a.div? b = some q ∧ scale ≤ q.scale ∧ q.toRat = a.toRat / b.toRat := by
  have hmagnitude : b.magnitude ≠ 0 := mt magnitude_eq_zero_iff.1 hb
  have hratio : ((a.mantissa * b.denominator * b.mantissa.sign : Int) : ℚ) /
      (b.magnitude * a.denominator : Nat) = a.toRat / b.toRat := by
    -- The sign of the divisor is moved to the dividend.
    have hsign : (b.magnitude : Int) = b.mantissa.sign * b.mantissa := by
      rw [← natAbs_mantissa, Int.sign_mul_self_eq_natAbs]
    have hsize : (b.magnitude : ℚ) = b.mantissa.sign * b.mantissa := by exact_mod_cast hsign
    have hne : (b.mantissa : ℚ) ≠ 0 := by exact_mod_cast hb
    have hsignNe : (b.mantissa.sign : ℚ) ≠ 0 := by
      exact_mod_cast mt Int.sign_eq_zero_iff_zero.1 hb
    have hden : (b.denominator : ℚ) ≠ 0 := by exact_mod_cast b.denominator_pos.ne'
    rw [toRat, toRat, Nat.cast_mul, hsize]
    push_cast
    field_simp
  rw [← hratio] at hexact ⊢
  rw [div?, if_neg (by simpa using hmagnitude)]
  obtain ⟨q, hq, hle, hvalue⟩ := exists_of_ofRatio?_exact
    (Nat.mul_pos (Nat.pos_of_ne_zero hmagnitude) a.denominator_pos) hexact hn hscale
    (Nat.le_refl 28)
  exact ⟨q, hq, hle, hvalue⟩

/-! ## Powers of ten -/

/-- A product with a power of ten is exact, or does not fit even without places. -/
theorem mul?_tenPow (amount : Decimal) {power : Decimal} (hpower : power.toRat = 10 ^ exponent) :
    (∃ p, amount.mul? power = some p ∧ p.toRat = amount.toRat * 10 ^ exponent) ∨
      amount.mul? power = none ∧ (limit : ℚ) ≤ |amount.toRat * 10 ^ exponent| := by
  rw [← hpower]
  rcases le_total exponent amount.scale with hle | hle
  · -- The point moves within the digits of the amount.
    have hexact : amount.toRat * power.toRat * 10 ^ (amount.scale - exponent) =
        amount.mantissa := by
      have hten : (10 : ℚ) ^ amount.scale = 10 ^ exponent * 10 ^ (amount.scale - exponent) := by
        rw [← pow_add, Nat.add_sub_cancel' hle]
      rw [hpower, toRat_eq, hten]
      field_simp
    have hfits : amount.mantissa.natAbs < limit := by
      rw [natAbs_mantissa]
      exact amount.magnitude_lt
    exact .inl (exists_mul?_exact hexact hfits (by omega) ((Nat.sub_le _ _).trans amount.scale_le))
  · -- The point moves to the end of the digits or further, so the product is a whole number.
    have hexact : amount.toRat * power.toRat * 10 ^ 0 =
        (amount.mantissa * tenPow (exponent - amount.scale) : Int) := by
      have hten : (10 : ℚ) ^ exponent = 10 ^ amount.scale * 10 ^ (exponent - amount.scale) := by
        rw [← pow_add, Nat.add_sub_cancel' hle]
      rw [hpower, toRat_eq, hten, Int.cast_mul, Int.cast_natCast, cast_tenPow, pow_zero, mul_one]
      field_simp
    by_cases hfits : (amount.mantissa * tenPow (exponent - amount.scale)).natAbs < limit
    · exact .inl (exists_mul?_exact hexact hfits (Nat.zero_le _) (Nat.zero_le _))
    · have hlarge : (limit : ℚ) ≤ |amount.toRat * power.toRat| := by
        rw [pow_zero, mul_one] at hexact
        rw [hexact, ← Int.cast_abs, ← Int.natCast_natAbs]
        exact_mod_cast not_lt.1 hfits
      refine .inr ⟨?_, hlarge⟩
      cases hp : amount.mul? power with
      | none => rfl
      | some p => exact absurd (abs_lt_of_mul? hp) (not_lt.2 hlarge)

end Decimal

end Retail
