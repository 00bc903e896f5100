import Retail.Proofs.Money

/-!
# Rounding

A rounded quotient is within half a unit of the exact one. It follows that rounding does not step
over a whole number, however often it is done on the way: what is exactly at least, or at most, a
whole number stays so. This is all that bounds on shares need.

## Main results

* `two_mul_divRound_sub_le`: a rounded quotient is within half a unit
* `le_divRound`, `divRound_le`: whole bounds of the exact quotient bound the rounded one
* `Decimal.ofRatio?_eq_some`: what a ratio becomes as a decimal
* `Money.le_share`, `Money.share_le`: whole bounds of the exact share bound the rounded one
* `Money.share_near`, `Money.divide_near`: shares and parts are less than one minor unit away from
  the exact ones
-/

namespace Retail

/-! ## Quotients -/

/-- A rounded quotient is within half a unit of the exact one. -/
theorem two_mul_divRound_sub_le (tie : Tie) (num : Int) {den : Nat} (hden : 0 < den) :
    2 * (divRound tie num den * den - num).natAbs ≤ den := by
  have hrest : num.natAbs % den < den := Nat.mod_lt _ hden
  have hsplit : (num.natAbs : Int) = (num.natAbs / den : Nat) * den + (num.natAbs % den : Nat) := by
    rw [Int.mul_comm]
    exact_mod_cast (Nat.div_add_mod num.natAbs den).symm
  simp only [divRound]
  generalize num.natAbs / den = quotient at *
  generalize num.natAbs % den = rest at *
  -- The size is the truncated quotient or one more, so what it misses is the rest or what the rest
  -- lacks to `den`.
  generalize hup : (decide (den < 2 * rest) || 2 * rest == den &&
    (tie == .awayFromZero || quotient % 2 == 1)) = up
  cases up with
  | false =>
    have hle : 2 * rest ≤ den := by
      simp only [Bool.or_eq_false_iff, decide_eq_false_iff_not] at hup
      omega
    simp only [Bool.false_eq_true, if_false]
    split
    · rw [Int.neg_mul]
      omega
    · omega
  | true =>
    have hle : den ≤ 2 * rest := by
      simp only [Bool.or_eq_true, decide_eq_true_eq, Bool.and_eq_true, beq_iff_eq] at hup
      omega
    simp only [if_true]
    split
    · rw [Int.neg_mul, Int.add_mul, Int.one_mul]
      omega
    · rw [Int.add_mul, Int.one_mul]
      omega

/-- A whole number that the exact quotient reaches, the rounded one reaches. -/
theorem le_divRound (tie : Tie) {num k : Int} {den : Nat} (hden : 0 < den) (h : k * den ≤ num) :
    k ≤ divRound tie num den := by
  have hnear := two_mul_divRound_sub_le tie num hden
  -- A rounded quotient below `k` would be a whole unit away from the exact one.
  by_contra hlt
  have hle : divRound tie num den * den ≤ (k - 1) * den :=
    Int.mul_le_mul_of_nonneg_right (by omega) (by omega)
  rw [Int.sub_mul] at hle
  omega

/-- A whole number that the exact quotient does not pass, the rounded one does not pass. -/
theorem divRound_le (tie : Tie) {num k : Int} {den : Nat} (hden : 0 < den) (h : num ≤ k * den) :
    divRound tie num den ≤ k := by
  have hnear := two_mul_divRound_sub_le tie num hden
  by_contra hlt
  have hle : (k + 1) * den ≤ divRound tie num den * den :=
    Int.mul_le_mul_of_nonneg_right (by omega) (by omega)
  rw [Int.add_mul] at hle
  omega

@[simp] theorem divRound_one (tie : Tie) (num : Int) : divRound tie num 1 = num :=
  Int.le_antisymm (divRound_le tie Nat.one_pos (by simp)) (le_divRound tie Nat.one_pos (by simp))

namespace Decimal

/-! ## Decimals -/

theorem tenPow_pos (exponent : Nat) : 0 < tenPow exponent := Nat.pow_pos (by decide)

theorem denominator_of_scale_zero (d : Decimal) (h : d.scale = 0) : d.denominator = 1 := by
  simp [denominator, h, tenPow]

@[simp] theorem mantissa_whole (n : Int) (h : n.natAbs < limit) : (whole n h).mantissa = n := by
  simp only [mantissa, whole, decide_eq_true_eq]
  omega

theorem ofParts?_eq_some {mantissa : Int} {scale : Nat} {d : Decimal}
    (h : ofParts? mantissa scale = some d) : d.mantissa = mantissa ∧ d.scale = scale := by
  simp only [ofParts?, ofSigned?, Option.dite_none_right_eq_some, Option.some.injEq] at h
  obtain ⟨_, rfl⟩ := h
  refine ⟨?_, rfl⟩
  simp only [Decimal.mantissa, decide_eq_true_eq]
  omega

/-- A ratio as a decimal is the ratio rounded at the scale of the decimal. -/
theorem ofRatio?_eq_some {num : Int} {den scale : Nat} {d : Decimal}
    (h : ofRatio? num den scale = some d) :
    d.mantissa = divRound .toEven (num * tenPow d.scale) den ∧ d.scale ≤ scale := by
  induction scale with
  | zero =>
    obtain ⟨hm, hs⟩ := ofParts?_eq_some h
    simp [hm, hs, tenPow]
  | succ scale ih =>
    simp only [ofRatio?, Option.or_eq_some_iff] at h
    rcases h with h | ⟨_, h⟩
    · obtain ⟨hm, hs⟩ := ofParts?_eq_some h
      exact ⟨hs ▸ hm, hs.le⟩
    · exact ⟨(ih h).1, Nat.le_succ_of_le (ih h).2⟩

/-- A product is nothing, or what its ratio is as a decimal. -/
theorem mul?_cases (a b : Decimal) :
    (a.mantissa * b.mantissa = 0 ∧ a.mul? b = some zero) ∨
      a.mul? b = ofRatio? (a.mantissa * b.mantissa) (a.denominator * b.denominator)
        (min (a.scale + b.scale) maxScale) := by
  rw [mul?]
  split
  · rename_i hzero
    have hfactor : a.mantissa = 0 ∨ b.mantissa = 0 := by
      rw [← Int.natAbs_eq_zero, ← Int.natAbs_eq_zero, natAbs_mantissa, natAbs_mantissa]
      simpa using hzero
    exact .inl ⟨Int.mul_eq_zero.2 hfactor, rfl⟩
  · exact .inr rfl

/-- A product of whole numbers is exact. -/
theorem mul?_whole_eq_some {a b : Decimal} (ha : a.scale = 0) (hb : b.scale = 0) {p : Decimal}
    (h : a.mul? b = some p) : p.mantissa = a.mantissa * b.mantissa ∧ p.scale = 0 := by
  rcases mul?_cases a b with ⟨hproduct, hzero⟩ | hratio
  · obtain rfl := Option.some.inj (hzero.symm.trans h)
    exact ⟨hproduct.symm, rfl⟩
  · obtain ⟨hm, hs⟩ := ofRatio?_eq_some (hratio.symm.trans h)
    have hs : p.scale = 0 := by omega
    simpa [hs, denominator, ha, hb, tenPow] using hm

theorem div?_eq_some {a b q : Decimal} (h : a.div? b = some q) :
    b.magnitude ≠ 0 ∧ q.mantissa = divRound .toEven
      (a.mantissa * b.denominator * b.mantissa.sign * tenPow q.scale)
      (b.magnitude * a.denominator) := by
  simp only [div?, beq_iff_eq] at h
  split at h
  · simp at h
  · rename_i hne
    exact ⟨hne, (ofRatio?_eq_some h).1⟩

end Decimal

theorem roundMinor_eq_ok {d : Decimal} {n : Int} :
    roundMinor d = .ok n ↔ n = divRound .awayFromZero d.mantissa d.denominator ∧ fitsMinor n := by
  by_cases hfits : fitsMinor (divRound .awayFromZero d.mantissa d.denominator)
  · simp only [roundMinor, Decimal.roundToInt, hfits, if_true, Except.ok.injEq]
    constructor
    · rintro rfl
      exact ⟨rfl, hfits⟩
    · exact fun h => h.1.symm
  · simp only [roundMinor, Decimal.roundToInt, hfits, Bool.false_eq_true, if_false, reduceCtorEq,
      false_iff]
    rintro ⟨rfl, h⟩
    exact hfits h

/-! ## Shares -/

namespace Money

@[simp] theorem mantissa_minorDecimal (m : Money) : m.minorDecimal.mantissa = m.minorUnits :=
  Decimal.mantissa_whole _ _

@[simp] theorem magnitude_minorDecimal (m : Money) :
    m.minorDecimal.magnitude = m.minorUnits.natAbs := rfl

@[simp] theorem denominator_minorDecimal (m : Money) : m.minorDecimal.denominator = 1 := rfl

/-- A share is the exact proportion, rounded to a decimal and then to a whole number of minor
units. -/
theorem share_eq_ok {amount part whole share : Money} (h : amount.share part whole = .ok share) :
    amount.currency = part.currency ∧ amount.currency = whole.currency ∧
      share.currency = amount.currency ∧
      (whole.minorUnits = 0 ∧ share.minor = 0 ∨ ∃ scale : Nat, whole.minorUnits ≠ 0 ∧
        share.minor = divRound .awayFromZero (divRound .toEven
          (amount.minorUnits * part.minorUnits * whole.minorUnits.sign * Decimal.tenPow scale)
          whole.minorUnits.natAbs) (Decimal.tenPow scale)) := by
  simp only [Money.share, bind_eq_ok, sameCurrency_eq_ok, exists_and_left, exists_const] at h
  obtain ⟨hpart, hwhole, h⟩ := h
  refine ⟨hpart, hwhole, ?_⟩
  split at h
  · rename_i hzero
    obtain rfl := pure_eq_ok.1 h
    exact ⟨rfl, .inl ⟨beq_iff_eq.1 hzero, rfl⟩⟩
  · rename_i hzero
    simp only [bind_eq_ok, pure_eq_ok] at h
    obtain ⟨minor, hminor, rfl⟩ := h
    refine ⟨rfl, .inr ?_⟩
    cases hquotient : (amount.minorDecimal.mul? part.minorDecimal).bind
        (·.div? whole.minorDecimal) with
    | none => simp [hquotient] at hminor
    | some quotient =>
      simp only [hquotient, Option.elim_some] at hminor
      obtain ⟨product, hproduct, hquotient⟩ := Option.bind_eq_some_iff.1 hquotient
      obtain ⟨hm, hs⟩ := Decimal.mul?_whole_eq_some rfl rfl hproduct
      obtain ⟨_, hq⟩ := Decimal.div?_eq_some hquotient
      refine ⟨quotient.scale, by simpa using hzero, ?_⟩
      rw [(roundMinor_eq_ok.1 hminor).1, hq, hm]
      simp only [mantissa_minorDecimal, magnitude_minorDecimal, denominator_minorDecimal,
        product.denominator_of_scale_zero hs, Nat.mul_one, Int.natCast_one, Int.mul_one]
      rfl

variable {amount part whole share : Money} {k : Int}

/-- A share of a positive whole is the exact proportion, rounded twice. -/
theorem exists_of_share_eq_ok (h : amount.share part whole = .ok share)
    (hwhole : 0 < whole.minorUnits) :
    ∃ scale : Nat, share.minor = divRound .awayFromZero (divRound .toEven
      (amount.minorUnits * part.minorUnits * Decimal.tenPow scale) whole.minorUnits.natAbs)
      (Decimal.tenPow scale) := by
  obtain ⟨-, -, -, ⟨hzero, -⟩ | ⟨scale, -, hshare⟩⟩ := share_eq_ok h
  · omega
  · rw [Int.sign_eq_one_of_pos hwhole, Int.mul_one] at hshare
    exact ⟨scale, hshare⟩

/-- What the exact share reaches, the share reaches. -/
theorem le_share (h : amount.share part whole = .ok share) (hwhole : 0 < whole.minorUnits)
    (hk : k * whole.minorUnits ≤ amount.minorUnits * part.minorUnits) : k ≤ share.minor := by
  obtain ⟨scale, hshare⟩ := exists_of_share_eq_ok h hwhole
  rw [hshare]
  refine le_divRound _ (Decimal.tenPow_pos scale) (le_divRound _ (by omega) ?_)
  rw [Int.natAbs_of_nonneg hwhole.le, Int.mul_right_comm k]
  exact Int.mul_le_mul_of_nonneg_right hk (Int.natCast_nonneg _)

/-- What the exact share does not pass, the share does not pass. -/
theorem share_le (h : amount.share part whole = .ok share) (hwhole : 0 < whole.minorUnits)
    (hk : amount.minorUnits * part.minorUnits ≤ k * whole.minorUnits) : share.minor ≤ k := by
  obtain ⟨scale, hshare⟩ := exists_of_share_eq_ok h hwhole
  rw [hshare]
  refine divRound_le _ (Decimal.tenPow_pos scale) (divRound_le _ (by omega) ?_)
  rw [Int.natAbs_of_nonneg hwhole.le, Int.mul_right_comm k]
  exact Int.mul_le_mul_of_nonneg_right hk (Int.natCast_nonneg _)

/-- A share is less than one minor unit away from the exact proportion. -/
theorem share_near (h : amount.share part whole = .ok share) (hwhole : 0 < whole.minorUnits) :
    (share.minor - 1) * whole.minorUnits < amount.minorUnits * part.minorUnits ∧
      amount.minorUnits * part.minorUnits < (share.minor + 1) * whole.minorUnits := by
  constructor
  · by_contra hle
    have hshare := share_le h hwhole (not_lt.1 hle)
    omega
  · by_contra hle
    have hshare := le_share h hwhole (not_lt.1 hle)
    omega

/-! ## Parts -/

variable {price : Money} {quantity : Nat}

/-- One of several parts is the exact quotient, rounded to a decimal and then to a whole number of
minor units. -/
theorem exists_of_divide_eq_ok (h : price.divide quantity = .ok part) (hquantity : quantity ≠ 0) :
    ∃ scale : Nat, part.minor = divRound .awayFromZero (divRound .toEven
      (price.minorUnits * Decimal.tenPow scale) quantity) (Decimal.tenPow scale) := by
  rw [divide, if_neg (by simpa using hquantity)] at h
  simp only [bind_eq_ok, pure_eq_ok] at h
  obtain ⟨minor, hminor, rfl⟩ := h
  cases hquotient : (Decimal.ofInt? quantity).bind price.minorDecimal.div? with
  | none => simp [hquotient] at hminor
  | some quotient =>
    simp only [hquotient, Option.elim_some] at hminor
    obtain ⟨divisor, hdivisor, hquotient⟩ := Option.bind_eq_some_iff.1 hquotient
    obtain ⟨hmantissa, hscale⟩ := Decimal.ofParts?_eq_some hdivisor
    obtain ⟨-, hq⟩ := Decimal.div?_eq_some hquotient
    have hmagnitude : divisor.magnitude = quantity := by
      rw [← divisor.natAbs_mantissa, hmantissa, Int.natAbs_natCast]
    refine ⟨quotient.scale, ?_⟩
    rw [(roundMinor_eq_ok.1 hminor).1, hq, hmantissa, hmagnitude,
      divisor.denominator_of_scale_zero hscale, Int.sign_eq_one_of_pos (by omega)]
    simp only [mantissa_minorDecimal, denominator_minorDecimal, Int.natCast_one, Int.mul_one,
      Nat.mul_one]
    rfl

theorem fitsMinor_divide (h : price.divide quantity = .ok part) : fitsMinor part.minor := by
  rw [divide] at h
  split at h
  · rw [← Except.ok.inj h]
    rfl
  · simp only [bind_eq_ok, pure_eq_ok] at h
    obtain ⟨minor, hminor, rfl⟩ := h
    cases hquotient : (Decimal.ofInt? quantity).bind price.minorDecimal.div? with
    | none => simp [hquotient] at hminor
    | some quotient =>
      rw [hquotient, Option.elim_some] at hminor
      exact (roundMinor_eq_ok.1 hminor).2

/-- A part is less than one minor unit away from the exact quotient. -/
theorem divide_near (h : price.divide quantity = .ok part) (hquantity : quantity ≠ 0) :
    (part.minor - 1) * quantity < price.minorUnits ∧
      price.minorUnits < (part.minor + 1) * quantity := by
  obtain ⟨scale, hpart⟩ := exists_of_divide_eq_ok h hquantity
  have hpos := Decimal.tenPow_pos scale
  constructor
  · by_contra hle
    have hbound : part.minor ≤ part.minor - 1 := by
      nth_rewrite 1 [hpart]
      refine divRound_le _ hpos (divRound_le _ (by omega) ?_)
      rw [Int.mul_right_comm]
      exact Int.mul_le_mul_of_nonneg_right (not_lt.1 hle) (Int.natCast_nonneg _)
    omega
  · by_contra hle
    have hbound : part.minor + 1 ≤ part.minor := by
      nth_rewrite 2 [hpart]
      refine le_divRound _ hpos (le_divRound _ (by omega) ?_)
      rw [Int.mul_right_comm]
      exact Int.mul_le_mul_of_nonneg_right (not_lt.1 hle) (Int.natCast_nonneg _)
    omega

/-- What is several times a price has the price as each of as many parts. -/
theorem minor_of_divide_times (h : price.divide quantity = .ok part) (hquantity : quantity ≠ 0)
    (hprice : price.minorUnits = k * quantity) : part.minor = k := by
  obtain ⟨hlow, hhigh⟩ := divide_near h hquantity
  have hpos : (0 : Int) < quantity := by omega
  rw [hprice] at hlow hhigh
  have hle := lt_of_mul_lt_mul_right hlow hpos.le
  have hge := lt_of_mul_lt_mul_right hhigh hpos.le
  omega

end Money

end Retail
