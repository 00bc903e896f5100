import Mathlib.Tactic.Ring
import Retail.Proofs.Rounding

/-!
# Decimals of one value

Decimals such as `1.5` and `1.50` differ in form only. Arithmetic looks at the ratio that a decimal
stands for and writes down what fits, so the form of an operand may change the form of the result
but not its value, nor whether there is one. It follows that what is rounded to a whole number does
not depend on forms at all.

## Main definitions

* `Decimal.Agree`: no result for both operands, or results of one value

## Main results

* `Decimal.sameValue_refl` and its like: one value is an equivalence
* `Decimal.ofRatio?_agree`: equal ratios written down from different scales
* `Decimal.mul?_agree`, `Decimal.sub?_agree`, `Decimal.div?_eq`: arithmetic
* `roundMinor_congr`: rounding to minor units
-/

namespace Retail

/-! ## Quotients -/

/-- A rounded quotient does not change where both parts are multiplied. -/
theorem divRound_mul_mul (tie : Tie) (num : Int) (den : Nat) {k : Nat} (hk : 0 < k) :
    divRound tie (num * k) (den * k) = divRound tie num den := by
  have hquotient : (num * k).natAbs / (den * k) = num.natAbs / den := by
    rw [Int.natAbs_mul, Int.natAbs_natCast]
    exact Nat.mul_div_mul_right _ _ hk
  have hrest : (num * k).natAbs % (den * k) = num.natAbs % den * k := by
    rw [Int.natAbs_mul, Int.natAbs_natCast]
    exact Nat.mul_mod_mul_right _ _ _
  have hsign : num * k < 0 ↔ num < 0 := by
    rw [← not_le, ← not_le, Int.mul_nonneg_iff_of_pos_right (by exact_mod_cast hk)]
  -- What decides about the rounding compares both parts, so it is scaled like them.
  have hlt : den * k < 2 * (num.natAbs % den * k) ↔ den < 2 * (num.natAbs % den) := by
    rw [← Nat.mul_assoc]
    exact Nat.mul_lt_mul_right hk
  have heq : 2 * (num.natAbs % den * k) = den * k ↔ 2 * (num.natAbs % den) = den := by
    rw [← Nat.mul_assoc]
    exact Nat.mul_left_inj hk.ne'
  have hhalf : (2 * (num.natAbs % den * k) == den * k) = (2 * (num.natAbs % den) == den) := by
    rw [Bool.eq_iff_iff, beq_iff_eq, beq_iff_eq]
    exact heq
  simp only [divRound, hquotient, hrest, hsign, hlt, hhalf]

/-- A rounded quotient depends on the ratio only. -/
theorem divRound_congr (tie : Tie) {num num' : Int} {den den' : Nat} (hden : 0 < den)
    (hden' : 0 < den') (h : num * den' = num' * den) :
    divRound tie num den = divRound tie num' den' := by
  rw [← divRound_mul_mul tie num den hden', ← divRound_mul_mul tie num' den' hden, h,
    Nat.mul_comm den den']

/-- A quotient without a rest is not rounded. -/
theorem divRound_mul_self (tie : Tie) (n : Int) {den : Nat} (hden : 0 < den) :
    divRound tie (n * den) den = n := by
  apply le_antisymm
  · exact divRound_le tie hden le_rfl
  · exact le_divRound tie hden le_rfl

namespace Decimal

variable {a b c d a' b' : Decimal} {num num' : Int} {den den' scale scale' : Nat}

theorem denominator_pos (d : Decimal) : 0 < d.denominator := tenPow_pos _

theorem tenPow_add (m n : Nat) : tenPow (m + n) = tenPow m * tenPow n := Nat.pow_add 10 m n

/-! ## One value -/

theorem sameValue_iff :
    a.sameValue b ↔ a.mantissa * b.denominator = b.mantissa * a.denominator := by
  simp [sameValue]

theorem sameValue_refl (d : Decimal) : d.sameValue d := sameValue_iff.2 rfl

theorem sameValue_symm (h : a.sameValue b) : b.sameValue a :=
  sameValue_iff.2 (sameValue_iff.1 h).symm

theorem sameValue_trans (h : a.sameValue b) (h' : b.sameValue c) : a.sameValue c := by
  rw [sameValue_iff] at *
  have hb : (b.denominator : Int) ≠ 0 := by exact_mod_cast b.denominator_pos.ne'
  apply Int.eq_of_mul_eq_mul_right hb
  calc a.mantissa * c.denominator * b.denominator
      = a.mantissa * b.denominator * c.denominator := by ring
    _ = b.mantissa * c.denominator * a.denominator := by rw [h]; ring
    _ = c.mantissa * a.denominator * b.denominator := by rw [h']; ring

/-- Nothing for both, or results of one value. -/
def Agree : Option Decimal → Option Decimal → Prop := Option.Rel fun a b => a.sameValue b

theorem Agree.refl (o : Option Decimal) : Agree o o := by
  cases o with
  | none => exact .none
  | some d => exact .some d.sameValue_refl

theorem Agree.symm {o o' : Option Decimal} (h : Agree o o') : Agree o' o := by
  cases h with
  | none => exact .none
  | some h => exact .some (sameValue_symm h)

theorem Agree.trans {o o' o'' : Option Decimal} (h : Agree o o') (h' : Agree o' o'') :
    Agree o o'' := by
  cases h with
  | none => exact h'
  | some h =>
    cases h' with
    | some h' => exact .some (sameValue_trans h h')

/-- What does not look at forms does not tell results apart that agree. -/
theorem Agree.congr {β : Type} {f : Option Decimal → β} {o o' : Option Decimal} (h : Agree o o')
    (hf : ∀ a b : Decimal, a.sameValue b → f (some a) = f (some b)) : f o = f o' := by
  cases h with
  | none => rfl
  | some h => exact hf _ _ h

/-! ## Ratios -/

/-- What is written down depends on the ratio and the scale only. -/
theorem ofRatio?_congr (hden : 0 < den) (hden' : 0 < den') (h : num * den' = num' * den) :
    ofRatio? num den scale = ofRatio? num' den' scale := by
  have hround : ∀ s, divRound .toEven (num * tenPow s) den =
      divRound .toEven (num' * tenPow s) den' := by
    intro s
    apply divRound_congr _ hden hden'
    rw [Int.mul_right_comm, h, Int.mul_right_comm]
  induction scale with
  | zero =>
    have hzero := hround 0
    simp only [tenPow, Nat.pow_eq, Nat.pow_zero, Nat.cast_one, Int.mul_one] at hzero
    rw [ofRatio?, ofRatio?, hzero]
  | succ scale ih => rw [ofRatio?, ofRatio?, hround, ih]

theorem ofParts?_isSome {n : Int} (hscale : scale ≤ 28) :
    (ofParts? n scale).isSome ↔ n.natAbs < limit := by
  simp [ofParts?, ofSigned?, hscale]

theorem exists_ofParts? {n : Int} (hscale : scale ≤ 28) (hn : n.natAbs < limit) :
    ∃ d, ofParts? n scale = some d ∧ d.mantissa = n ∧ d.scale = scale := by
  obtain ⟨d, hd⟩ := Option.isSome_iff_exists.1 ((ofParts?_isSome hscale).2 hn)
  exact ⟨d, hd, ofParts?_eq_some hd⟩

/-- A whole number at a scale has the value of ten times as much at the next one. -/
theorem ofParts?_succ {n : Int} (hscale : scale + 1 ≤ 28) (h : (n * 10).natAbs < limit) :
    Agree (ofParts? (n * 10) (scale + 1)) (ofParts? n scale) := by
  have hn : n.natAbs < limit := by omega
  obtain ⟨a, ha, hma, hsa⟩ := exists_ofParts? hscale h
  obtain ⟨b, hb, hmb, hsb⟩ := exists_ofParts? (Nat.le_of_succ_le hscale) hn
  rw [ha, hb]
  refine .some (sameValue_iff.2 ?_)
  rw [denominator, denominator, hma, hmb, hsa, hsb, tenPow_add, Nat.cast_mul, Int.mul_assoc,
    Int.mul_comm 10]
  rfl

/-- A ratio that is exact at a scale is written down there if it fits. -/
theorem ofRatio?_exact (n : Int) (hscale : scale ≤ 28) (h : n.natAbs < limit) :
    ofRatio? n (tenPow scale) scale = ofParts? n scale := by
  have hexact : divRound .toEven (n * tenPow scale) (tenPow scale) = n :=
    divRound_mul_self _ n (tenPow_pos scale)
  cases scale with
  | zero =>
    have hone : tenPow 0 = 1 := rfl
    rw [ofRatio?, hone, divRound_one]
  | succ scale =>
    rw [ofRatio?, hexact]
    obtain ⟨d, hd, -⟩ := exists_ofParts? hscale h
    rw [hd, Option.some_or]

/-- A ratio that is exact at a scale may be written down from the next one as well: either it fits
there, and is the same number with one more digit, or it does not and the digit is dropped. -/
theorem ofRatio?_succ_agree (n : Int) (hscale : scale + 1 ≤ 28) :
    Agree (ofRatio? n (tenPow scale) (scale + 1)) (ofRatio? n (tenPow scale) scale) := by
  have hround : divRound .toEven (n * tenPow (scale + 1)) (tenPow scale) = n * 10 := by
    have hten : n * (tenPow (scale + 1) : Int) = n * 10 * (tenPow scale : Int) := by
      rw [tenPow_add, Nat.cast_mul, Int.mul_comm (tenPow scale : Int), ← Int.mul_assoc]
      rfl
    rw [hten]
    exact divRound_mul_self _ _ (tenPow_pos scale)
  rw [ofRatio?, hround]
  by_cases hfits : (n * 10).natAbs < limit
  · have hn : n.natAbs < limit := by omega
    rw [ofRatio?_exact n (by omega) hn]
    have hsome := ofParts?_succ hscale hfits
    obtain ⟨d, hd, -⟩ := exists_ofParts? hscale hfits
    rw [hd, Option.some_or, ← hd]
    exact hsome
  · have hnone : ofParts? (n * 10) (scale + 1) = none := by
      rw [← Option.not_isSome_iff_eq_none, ofParts?_isSome hscale]
      exact hfits
    rw [hnone, Option.none_or]
    exact .refl _

/-- From a scale at which a ratio is exact upwards, it does not matter where one starts. -/
theorem ofRatio?_agree_of_le (n : Int) (h : scale ≤ scale') (hscale : scale' ≤ 28) :
    Agree (ofRatio? n (tenPow scale) scale') (ofRatio? n (tenPow scale) scale) := by
  -- Induction on how far the upper scale is from the one at which the ratio is exact.
  induction scale', h using Nat.le_induction with
  | base => exact .refl _
  | succ upper hle ih =>
    refine Agree.trans ?_ (ih (by omega))
    have hexact : n * (tenPow upper : Int) = n * tenPow (upper - scale) * (tenPow scale : Int) := by
      rw [Int.mul_assoc, ← Nat.cast_mul, ← tenPow_add, Nat.sub_add_cancel hle]
    rw [ofRatio?_congr (tenPow_pos scale) (tenPow_pos upper) hexact,
      ofRatio?_congr (tenPow_pos scale) (tenPow_pos upper) hexact]
    exact ofRatio?_succ_agree _ hscale

/-- Equal ratios whose parts are powers of ten, each written down from its own scale or, if that is
beyond the largest one, from there. -/
theorem ofRatio?_agree (h : num * tenPow scale' = num' * tenPow scale) :
    Agree (ofRatio? num (tenPow scale) (min scale 28))
      (ofRatio? num' (tenPow scale') (min scale' 28)) := by
  rcases le_total scale scale' with hle | hle
  · rw [← ofRatio?_congr (tenPow_pos scale) (tenPow_pos scale') h]
    rcases le_total scale 28 with hscale | hscale
    · rw [min_eq_left hscale]
      exact (ofRatio?_agree_of_le num (le_min hle hscale) (min_le_right _ _)).symm
    · rw [min_eq_right hscale, min_eq_right (hscale.trans hle)]
      exact .refl _
  · rw [ofRatio?_congr (tenPow_pos scale) (tenPow_pos scale') h]
    rcases le_total scale' 28 with hscale | hscale
    · rw [min_eq_left hscale]
      exact ofRatio?_agree_of_le num' (le_min hle hscale) (min_le_right _ _)
    · rw [min_eq_right hscale, min_eq_right (hscale.trans hle)]
      exact .refl _

/-! ## Arithmetic -/

theorem magnitude_eq_zero_iff : d.magnitude = 0 ↔ d.mantissa = 0 := by
  rw [← natAbs_mantissa, Int.natAbs_eq_zero]

theorem sameValue_magnitude (h : a.sameValue b) : a.magnitude = 0 ↔ b.magnitude = 0 := by
  rw [sameValue_iff] at h
  have ha : (a.denominator : Int) ≠ 0 := by exact_mod_cast a.denominator_pos.ne'
  have hb : (b.denominator : Int) ≠ 0 := by exact_mod_cast b.denominator_pos.ne'
  rw [magnitude_eq_zero_iff, magnitude_eq_zero_iff]
  constructor
  · intro hzero
    rw [hzero, Int.zero_mul] at h
    exact (Int.mul_eq_zero.1 h.symm).resolve_right ha
  · intro hzero
    rw [hzero, Int.zero_mul] at h
    exact (Int.mul_eq_zero.1 h).resolve_right hb

/-- A product of a decimal in another form. -/
theorem mul?_agree (h : a.sameValue a') (b : Decimal) : Agree (a.mul? b) (a'.mul? b) := by
  -- A product with zero is written down without a scale.
  by_cases hzero : a.magnitude = 0 ∨ b.magnitude = 0
  · have hzero' : a'.magnitude = 0 ∨ b.magnitude = 0 := by rwa [← sameValue_magnitude h]
    have hleft : (a.magnitude == 0 || b.magnitude == 0) = true := by simpa using hzero
    have hright : (a'.magnitude == 0 || b.magnitude == 0) = true := by simpa using hzero'
    rw [mul?, mul?, if_pos hleft, if_pos hright]
    exact .refl _
  · have hzero' : ¬ (a'.magnitude = 0 ∨ b.magnitude = 0) := by rwa [← sameValue_magnitude h]
    have hleft : ¬ (a.magnitude == 0 || b.magnitude == 0) = true := by simpa using hzero
    have hright : ¬ (a'.magnitude == 0 || b.magnitude == 0) = true := by simpa using hzero'
    rw [mul?, mul?, if_neg hleft, if_neg hright, maxScale, denominator, denominator, denominator,
      ← tenPow_add, ← tenPow_add]
    apply ofRatio?_agree
    rw [sameValue_iff, denominator, denominator] at h
    rw [tenPow_add, tenPow_add, Nat.cast_mul, Nat.cast_mul]
    calc a.mantissa * b.mantissa * (tenPow a'.scale * tenPow b.scale)
        = a.mantissa * tenPow a'.scale * (b.mantissa * tenPow b.scale) := by ring
      _ = a'.mantissa * b.mantissa * (tenPow a.scale * tenPow b.scale) := by rw [h]; ring

/-- A product of decimals that are not below zero is not below zero. -/
theorem mantissa_mul?_nonneg (ha : 0 ≤ a.mantissa) (hb : 0 ≤ b.mantissa) (h : a.mul? b = some c) :
    0 ≤ c.mantissa := by
  rcases mul?_cases a b with ⟨-, hzero⟩ | hratio
  · obtain rfl := Option.some.inj (hzero.symm.trans h)
    decide
  · rw [(ofRatio?_eq_some (hratio.symm.trans h)).1]
    refine le_divRound _ (Nat.mul_pos a.denominator_pos b.denominator_pos) ?_
    rw [Int.zero_mul]
    exact Int.mul_nonneg (Int.mul_nonneg ha hb) (Int.natCast_nonneg _)

/-- A difference to a decimal in another form, from a whole number. -/
theorem sub?_agree (h : b.sameValue b') (ha : a.scale = 0) : Agree (a.sub? b) (a.sub? b') := by
  have hone : a.denominator = 1 := a.denominator_of_scale_zero ha
  have hscale : ∀ d : Decimal, max a.scale d.scale = min d.scale 28 := by
    intro d
    have := d.scale_le
    omega
  rw [sub?, sub?, hone, hscale, hscale, Nat.one_mul, Nat.one_mul, denominator, denominator]
  apply ofRatio?_agree
  rw [sameValue_iff, denominator, denominator] at h
  rw [Int.sub_mul, Int.sub_mul, Nat.cast_one, Int.mul_one, Int.mul_one, h, Int.mul_right_comm]

/-- A quotient of a decimal in another form is the same decimal. -/
theorem div?_eq (h : a.sameValue a') (b : Decimal) : a.div? b = a'.div? b := by
  rw [div?, div?]
  by_cases hzero : (b.magnitude == 0) = true
  · rw [if_pos hzero, if_pos hzero]
  · rw [if_neg hzero, if_neg hzero]
    have hb : 0 < b.magnitude := by
      simp only [beq_iff_eq] at hzero
      omega
    apply ofRatio?_congr (Nat.mul_pos hb a.denominator_pos) (Nat.mul_pos hb a'.denominator_pos)
    rw [sameValue_iff] at h
    rw [Nat.cast_mul, Nat.cast_mul]
    calc a.mantissa * b.denominator * b.mantissa.sign * (b.magnitude * a'.denominator)
        = a.mantissa * a'.denominator * (b.denominator * b.mantissa.sign * b.magnitude) := by ring
      _ = a'.mantissa * b.denominator * b.mantissa.sign * (b.magnitude * a.denominator) := by
        rw [h]; ring

end Decimal

/-- Decimals of one value round to one number of minor units. -/
theorem roundMinor_congr {a b : Decimal} (h : a.sameValue b) : roundMinor a = roundMinor b := by
  have hround : a.roundToInt .awayFromZero = b.roundToInt .awayFromZero :=
    divRound_congr _ a.denominator_pos b.denominator_pos (Decimal.sameValue_iff.1 h)
  rw [roundMinor, roundMinor, hround]

end Retail
