import Mathlib.Algebra.Order.Field.Basic
import Mathlib.Data.Rat.Cast.Order
import Mathlib.Tactic.FieldSimp
import Mathlib.Tactic.Positivity
import Retail.Proofs.Decimal

/-!
# The precision of decimals

A quotient is written down as a decimal before it is rounded to a whole number of minor units. Where
the decimal has enough places for the divisor, the second rounding does not notice the first one: a
quotient that is not half-way between two whole numbers is too far from it to be moved there.

## Main definitions

* `Decimal.toRat`, `Money.major`: the numbers behind decimals and behind amounts in major units

## Main results

* `Decimal.le_iff`, `Decimal.sameValue_iff_toRat_eq`: decimals are compared by their numbers
* `abs_divRound_sub_le`: a rounded quotient is within one half of the exact one
* `divRound_divRound`: rounding twice is rounding once
* `Decimal.exists_of_ofRatio?`: a ratio has as many places as fit
* `Money.exists_places_of_divide`, `Money.exists_divide`: parts that are always found
* `Money.share_of_fine`: shares that are exact
-/

namespace Retail

/-! ## Numbers -/

/-- The number that a decimal stands for. -/
def Decimal.toRat (d : Decimal) : ℚ := d.mantissa / d.denominator

/-- The amount in major units, as calculations and comparisons see it. -/
def Money.major (m : Money) : ℚ := m.minorUnits / 10 ^ m.currency.exponent

theorem Decimal.le_iff {a b : Decimal} : a.le b = true ↔ a.toRat ≤ b.toRat := by
  have ha : (0 : ℚ) < a.denominator := by exact_mod_cast a.denominator_pos
  have hb : (0 : ℚ) < b.denominator := by exact_mod_cast b.denominator_pos
  rw [le, decide_eq_true_iff, toRat, toRat, div_le_div_iff₀ ha hb]
  exact_mod_cast Iff.rfl

theorem Decimal.sameValue_iff_toRat_eq {a b : Decimal} :
    a.sameValue b = true ↔ a.toRat = b.toRat := by
  have ha : (a.denominator : ℚ) ≠ 0 := by exact_mod_cast a.denominator_pos.ne'
  have hb : (b.denominator : ℚ) ≠ 0 := by exact_mod_cast b.denominator_pos.ne'
  rw [sameValue_iff, toRat, toRat, div_eq_div_iff ha hb]
  exact_mod_cast Iff.rfl

theorem Money.toRat_toMajor (m : Money) : m.toMajor.toRat = m.major := by
  have hmantissa : m.toMajor.mantissa = m.minorUnits := by
    simp only [Decimal.mantissa, toMajor, decide_eq_true_eq]
    omega
  have hdenominator : m.toMajor.denominator = 10 ^ m.currency.exponent := rfl
  rw [Decimal.toRat, hmantissa, hdenominator, major]
  push_cast
  rfl

/-! ## Quotients -/

/-- A rounded quotient is within one half of the exact one. -/
theorem abs_divRound_sub_le (tie : Tie) (num : Int) {den : Nat} (hden : 0 < den) :
    |(divRound tie num den : ℚ) - num / den| ≤ 1 / 2 := by
  have hpos : (0 : ℚ) < den := by exact_mod_cast hden
  have hnear : 2 * |(divRound tie num den : ℚ) * den - num| ≤ den := by
    have h := Int.ofNat_le.2 (two_mul_divRound_sub_le tie num hden)
    rw [Nat.cast_mul, Int.natCast_natAbs] at h
    exact_mod_cast h
  have hscaled : (divRound tie num den : ℚ) - num / den =
      (divRound tie num den * den - num) / den := by
    field_simp
  rw [hscaled, abs_div, abs_of_pos hpos, div_le_div_iff₀ hpos two_pos]
  linarith

theorem divRound_neg (tie : Tie) (num : Int) {den : Nat} (hden : 0 < den) :
    divRound tie (-num) den = -divRound tie num den := by
  rcases lt_trichotomy num 0 with hneg | rfl | hpos
  · simp only [divRound, Int.natAbs_neg]
    rw [if_neg (show ¬ -num < 0 by omega), if_pos hneg, neg_neg]
  · have hzero : divRound tie 0 den = 0 := by simpa using divRound_mul_self tie 0 hden
    rw [neg_zero, hzero, neg_zero]
  · simp only [divRound, Int.natAbs_neg]
    rw [if_pos (show -num < 0 by omega), if_neg (show ¬ num < 0 by omega)]

/-- What is rounded half up is the one whole number from which a number that is not negative is at
most one half down and less than one half up. -/
theorem divRound_awayFromZero_eq_iff {num n : Int} {den : Nat} (hden : 0 < den) (hnum : 0 ≤ num) :
    divRound .awayFromZero num den = n ↔
      (2 * n - 1) * den ≤ 2 * num ∧ 2 * num < (2 * n + 1) * den := by
  have hpos : (0 : Int) < den := by exact_mod_cast hden
  have hbounds : (2 * divRound .awayFromZero num den - 1) * den ≤ 2 * num ∧
      2 * num < (2 * divRound .awayFromZero num den + 1) * den := by
    have hrest : num.natAbs % den < den := Nat.mod_lt _ hden
    have hsplit : num = (num.natAbs / den : Nat) * den + (num.natAbs % den : Nat) := by
      rw [Int.mul_comm]
      have h := Nat.div_add_mod num.natAbs den
      omega
    simp only [divRound, if_neg hnum.not_gt, beq_self_eq_true, Bool.true_or, Bool.and_true,
      Bool.or_eq_true, decide_eq_true_eq, beq_iff_eq]
    generalize num.natAbs / den = quotient at *
    generalize num.natAbs % den = rest at *
    subst hsplit
    split
    · have hhalf : den ≤ 2 * rest := by omega
      constructor <;> linarith
    · have hhalf : 2 * rest < den := by omega
      constructor <;> linarith
  constructor
  · rintro rfl
    exact hbounds
  · rintro ⟨hle, hlt⟩
    have hfrom := lt_of_mul_lt_mul_right (hbounds.1.trans_lt hlt) hpos.le
    have hto := lt_of_mul_lt_mul_right (hle.trans_lt hbounds.2) hpos.le
    omega

/-- Rounding twice is rounding once where the first rounding keeps more places than the divisor
has. -/
theorem divRound_divRound (tie : Tie) (num : Int) {den scale : Nat} (hden : 0 < den)
    (hfine : den < Decimal.tenPow scale) :
    divRound .awayFromZero (divRound tie (num * Decimal.tenPow scale) den) (Decimal.tenPow scale) =
      divRound .awayFromZero num den := by
  have hten := Decimal.tenPow_pos scale
  -- Both roundings are odd functions, so it is enough to look at numbers that are not negative.
  wlog hnum : 0 ≤ num generalizing num
  · have h := this (-num) (by omega)
    rwa [Int.neg_mul, divRound_neg _ _ hden, divRound_neg _ _ hten, divRound_neg _ _ hden,
      neg_inj] at h
  obtain ⟨half, hhalf⟩ : ∃ half : Nat, Decimal.tenPow scale = 2 * half := by
    cases scale with
    | zero => exact absurd hfine (Nat.not_lt.2 hden)
    | succ scale =>
      have hsucc : Decimal.tenPow (scale + 1) = Decimal.tenPow scale * 10 := Nat.pow_succ 10 scale
      exact ⟨Decimal.tenPow scale * 5, by omega⟩
  obtain ⟨hle, hlt⟩ := (divRound_awayFromZero_eq_iff hden hnum).1 rfl
  generalize divRound .awayFromZero num den = n at *
  have hfrom : (2 * n - 1) * half ≤ divRound tie (num * Decimal.tenPow scale) den := by
    refine le_divRound tie hden ?_
    rw [hhalf]
    push_cast
    nlinarith
  have hnonneg : 0 ≤ divRound tie (num * Decimal.tenPow scale) den := by
    refine le_divRound tie hden ?_
    rw [Int.zero_mul]
    exact Int.mul_nonneg hnum (Int.natCast_nonneg _)
  have hnear := two_mul_divRound_sub_le tie (num * Decimal.tenPow scale) hden
  generalize divRound tie (num * Decimal.tenPow scale) den = q at *
  refine (divRound_awayFromZero_eq_iff hten hnonneg).2 ⟨?_, ?_⟩
  · rw [hhalf]
    push_cast
    linarith
  · -- What the first rounding adds is less than what is missing to the upper bound.
    have hscaled : (2 * num + 1) * Decimal.tenPow scale ≤
        (2 * n + 1) * den * Decimal.tenPow scale :=
      Int.mul_le_mul_of_nonneg_right hlt (Int.natCast_nonneg _)
    have hbound : 2 * q * den < (2 * n + 1) * Decimal.tenPow scale * den := by
      have hq : 2 * (q * den - num * Decimal.tenPow scale) ≤ den := by omega
      linarith
    exact lt_of_mul_lt_mul_right hbound (Int.natCast_nonneg den)

theorem natAbs_divRound_le (tie : Tie) (num : Int) {den k : Nat} (hden : 0 < den)
    (h : num.natAbs ≤ k * den) : (divRound tie num den).natAbs ≤ k := by
  have hbound : (num.natAbs : Int) ≤ k * den := by exact_mod_cast h
  have hlow : -(k : Int) ≤ divRound tie num den := by
    refine le_divRound tie hden ?_
    rw [Int.neg_mul]
    omega
  have hhigh : divRound tie num den ≤ k := divRound_le tie hden (by omega)
  omega

theorem le_natAbs_divRound (tie : Tie) {num : Int} {den k : Nat} (hden : 0 < den)
    (h : k * den ≤ num.natAbs) : k ≤ (divRound tie num den).natAbs := by
  have hbound : (k : Int) * den ≤ num.natAbs := by exact_mod_cast h
  rcases le_total 0 num with hnonneg | hneg
  · have hlow : (k : Int) ≤ divRound tie num den := le_divRound tie hden (by omega)
    omega
  · have hhigh : divRound tie num den ≤ -(k : Int) := by
      refine divRound_le tie hden ?_
      rw [Int.neg_mul]
      omega
    omega

/-- A part of what is in the range of 64 bits is in it, however it is rounded. -/
theorem fitsMinor_divRound_divRound (tie tie' : Tie) {num : Int} {den : Nat} (scale : Nat)
    (hden : 0 < den) (h : fitsMinor num) :
    fitsMinor (divRound tie' (divRound tie (num * Decimal.tenPow scale) den)
      (Decimal.tenPow scale)) := by
  have hten := Decimal.tenPow_pos scale
  obtain ⟨hlow, hhigh⟩ := fitsMinor_iff.1 h
  rw [fitsMinor_iff, ← Int.le_sub_one_iff]
  constructor
  · refine le_divRound tie' hten (le_divRound tie hden ?_)
    rw [Int.mul_right_comm]
    exact Int.mul_le_mul_of_nonneg_right (by omega) (Int.natCast_nonneg _)
  · refine divRound_le tie' hten (divRound_le tie hden ?_)
    rw [Int.mul_right_comm]
    exact Int.mul_le_mul_of_nonneg_right (by omega) (Int.natCast_nonneg _)

/-! ## Decimals that are found -/

namespace Decimal

variable {a b : Decimal} {num : Int} {den scale upper : Nat}

/-- A ratio has at least as many places as fit. -/
theorem exists_of_ofRatio? (hscale : scale ≤ upper) (hupper : upper ≤ 28)
    (hfits : (divRound .toEven (num * tenPow scale) den).natAbs < limit) :
    ∃ d, ofRatio? num den upper = some d ∧ scale ≤ d.scale := by
  induction upper with
  | zero =>
    obtain rfl := Nat.le_zero.1 hscale
    have hone : (tenPow 0 : Int) = 1 := rfl
    rw [hone, Int.mul_one] at hfits
    obtain ⟨d, hd, -⟩ := exists_ofParts? hupper hfits
    exact ⟨d, hd, Nat.zero_le _⟩
  | succ upper ih =>
    cases hparts : ofParts? (divRound .toEven (num * tenPow (upper + 1)) den) (upper + 1) with
    | some d =>
      refine ⟨d, by rw [ofRatio?, hparts, Option.some_or], ?_⟩
      rw [(ofParts?_eq_some hparts).2]
      exact hscale
    | none =>
      -- The next place does not fit, so it is not the one that is known to fit.
      have hle : scale ≤ upper := by
        by_contra hlt
        obtain rfl : scale = upper + 1 := by omega
        rw [← ofParts?_isSome hupper, hparts] at hfits
        contradiction
      rw [ofRatio?, hparts, Option.none_or]
      exact ih hle (by omega)

/-- Whole numbers have a product where it is in range. -/
theorem exists_mul?_whole (ha : a.scale = 0) (hb : b.scale = 0)
    (hfits : (a.mantissa * b.mantissa).natAbs < limit) :
    ∃ p, a.mul? b = some p ∧ p.mantissa = a.mantissa * b.mantissa ∧ p.scale = 0 := by
  suffices hsome : ∃ p, a.mul? b = some p by
    obtain ⟨p, hp⟩ := hsome
    exact ⟨p, hp, mul?_whole_eq_some ha hb hp⟩
  rcases mul?_cases a b with ⟨-, hzero⟩ | hratio
  · exact ⟨zero, hzero⟩
  · rw [hratio, a.denominator_of_scale_zero ha, b.denominator_of_scale_zero hb, ha, hb]
    have hwhole : (divRound .toEven (a.mantissa * b.mantissa * tenPow 0) 1).natAbs < limit := by
      rw [divRound_one]
      simpa [tenPow] using hfits
    obtain ⟨p, hp, -⟩ := exists_of_ofRatio? (Nat.le_refl 0) (Nat.zero_le 28) hwhole
    exact ⟨p, hp⟩

/-- A quotient of whole numbers has at least as many places as fit. -/
theorem exists_div?_whole (ha : a.scale = 0) (hb : b.scale = 0) (hpos : 0 < b.mantissa)
    (hscale : scale ≤ 28)
    (hfits : (divRound .toEven (a.mantissa * tenPow scale) b.magnitude).natAbs < limit) :
    ∃ q, a.div? b = some q ∧ scale ≤ q.scale ∧
      q.mantissa = divRound .toEven (a.mantissa * tenPow q.scale) b.magnitude := by
  have hmagnitude : b.magnitude ≠ 0 := by
    rw [← b.natAbs_mantissa]
    omega
  have hratio : a.mantissa * b.denominator * b.mantissa.sign = a.mantissa := by
    rw [b.denominator_of_scale_zero hb, Int.sign_eq_one_of_pos hpos, Int.natCast_one, Int.mul_one,
      Int.mul_one]
  rw [div?, if_neg (by simpa using hmagnitude), hratio, a.denominator_of_scale_zero ha, Nat.mul_one]
  obtain ⟨q, hq, hle⟩ := exists_of_ofRatio? hscale (Nat.le_refl 28) hfits
  exact ⟨q, hq, hle, (ofRatio?_eq_some hq).1⟩

end Decimal

namespace Money

variable {amount part whole : Money}

/-- A part is the quotient, rounded at a scale with at least as many places as fit. -/
theorem exists_places_of_divide (price : Money) {quantity scale : Nat} (hpos : 0 < quantity)
    (hquantity : quantity < Decimal.limit) (hscale : scale ≤ 28)
    (hfits : (divRound .toEven (price.minorUnits * Decimal.tenPow scale) quantity).natAbs <
      Decimal.limit) :
    ∃ places, scale ≤ places ∧ price.divide quantity =
      .ok ⟨divRound .awayFromZero (divRound .toEven (price.minorUnits * Decimal.tenPow places)
        quantity) (Decimal.tenPow places), price.currency⟩ := by
  obtain ⟨divisor, hdivisor : Decimal.ofInt? quantity = some divisor, hmantissa, hwholeNumber⟩ :=
    Decimal.exists_ofParts? (n := quantity) (Nat.zero_le 28) hquantity
  have hmagnitude : divisor.magnitude = quantity := by
    rw [← divisor.natAbs_mantissa, hmantissa, Int.natAbs_natCast]
  obtain ⟨quotient, hdiv, hplaces, hquotient⟩ := Decimal.exists_div?_whole
    (a := price.minorDecimal) (b := divisor) rfl hwholeNumber (by omega) hscale
    (by rwa [mantissa_minorDecimal, hmagnitude])
  rw [mantissa_minorDecimal, hmagnitude] at hquotient
  have hround : roundMinor quotient =
      .ok (divRound .awayFromZero quotient.mantissa quotient.denominator) := by
    refine roundMinor_eq_ok.2 ⟨rfl, ?_⟩
    rw [hquotient]
    exact fitsMinor_divRound_divRound _ _ _ hpos price.fitsMinor_minorUnits
  have hzero : ¬ (quantity == 0) = true := by
    rw [beq_iff_eq]
    exact hpos.ne'
  refine ⟨quotient.scale, hplaces, ?_⟩
  rw [divide, if_neg hzero]
  simp only [hdivisor, Option.bind_some, hdiv, Option.elim_some, hround]
  rw [← hquotient]
  rfl

/-- A part is always found. -/
theorem exists_divide (price : Money) {quantity : Nat} (hquantity : quantity < Decimal.limit) :
    ∃ part, price.divide quantity = .ok part := by
  rcases Nat.eq_zero_or_pos quantity with hzero | hpos
  · exact ⟨_, if_pos (beq_iff_eq.2 hzero)⟩
  · -- A part is no larger than the price, so at least its whole number fits.
    have hone : (Decimal.tenPow 0 : Int) = 1 := rfl
    have hwhole : (price.minorUnits * Decimal.tenPow 0).natAbs ≤
        price.minorUnits.natAbs * quantity := by
      rw [hone, Int.mul_one]
      exact Nat.le_mul_of_pos_right _ hpos
    obtain ⟨places, -, hpart⟩ := price.exists_places_of_divide hpos hquantity (Nat.zero_le 28)
      ((natAbs_divRound_le _ _ hpos hwhole).trans_lt price.natAbs_minorUnits_lt)
    exact ⟨_, hpart⟩

/-- A share is the exact proportion, rounded once, where the quotient has more places than the
whole. -/
theorem share_of_fine (scale : Nat) (hpart : amount.currency = part.currency)
    (hwhole : amount.currency = whole.currency) (hpos : 0 < whole.minorUnits)
    (hproduct : (amount.minorUnits * part.minorUnits).natAbs < Decimal.limit)
    (hscale : scale ≤ 28) (hfine : whole.minorUnits.natAbs < Decimal.tenPow scale)
    (hfits : (divRound .toEven (amount.minorUnits * part.minorUnits * Decimal.tenPow scale)
      whole.minorUnits.natAbs).natAbs < Decimal.limit)
    (hminor : fitsMinor (divRound .awayFromZero (amount.minorUnits * part.minorUnits)
      whole.minorUnits.natAbs)) :
    amount.share part whole = .ok ⟨divRound .awayFromZero (amount.minorUnits * part.minorUnits)
      whole.minorUnits.natAbs, amount.currency⟩ := by
  obtain ⟨product, hmul, hmantissa, hwholeNumber⟩ := Decimal.exists_mul?_whole
    (a := amount.minorDecimal) (b := part.minorDecimal) rfl rfl (by simpa using hproduct)
  rw [mantissa_minorDecimal, mantissa_minorDecimal] at hmantissa
  obtain ⟨quotient, hdiv, hle, hquotient⟩ := Decimal.exists_div?_whole (a := product)
    (b := whole.minorDecimal) hwholeNumber rfl (by simpa using hpos) hscale
    (by simpa [hmantissa] using hfits)
  have hround : roundMinor quotient =
      .ok (divRound .awayFromZero (amount.minorUnits * part.minorUnits)
        whole.minorUnits.natAbs) := by
    refine roundMinor_eq_ok.2 ⟨?_, hminor⟩
    rw [hquotient, hmantissa, magnitude_minorDecimal, Decimal.denominator,
      divRound_divRound _ _ (by omega)]
    exact hfine.trans_le (Nat.pow_le_pow_right (by decide) hle)
  have hzero : ¬ (whole.minorUnits == 0) = true := by
    rw [beq_iff_eq]
    omega
  simp only [share, bind_eq_ok, sameCurrency_eq_ok, exists_and_left, exists_const]
  refine ⟨hpart, hwhole, ?_⟩
  rw [if_neg hzero, hmul, Option.bind_some, hdiv, Option.elim_some, hround]
  rfl

end Money

end Retail
