import Retail.Proofs.Decimal.Exact

/-!
# Exact money

An amount in major units is multiplied by a power of ten, which is exact or does not fit, so the only
rounding is that to whole minor units. A part of a price is rounded twice, as a decimal and to whole
minor units. The decimal has nine places at least, and eighteen where the number of parts has ten
digits, since the quotient is the smaller then; so a quotient below a half is not lifted onto it.

## Main results

* `Money.quantize_eq`, `Money.quantize_toMajor`: amounts in major units, there and back
* `Money.divide_of_fine`: parts where the decimal has more places than their number has digits
* `Money.quantize_exact`, `Money.divide_exact`: both are exact, rounded once, over their whole range
-/

namespace Retail

namespace Money

variable {price : Money} {quantity : Nat}

/-! ## Amounts in major units -/

theorem tenPow_exponent_lt (currency : Currency) :
    (Decimal.tenPow currency.exponent : Int).natAbs < Decimal.limit := by
  cases currency <;> decide

/-- An amount in major units is quantized as the nearest number of minor units, if that fits. -/
theorem quantize_eq (amount : Decimal) (currency : Currency) :
    quantize amount currency =
      if fitsMinor (nearest (amount.toRat * 10 ^ currency.exponent)) then
        .ok ⟨nearest (amount.toRat * 10 ^ currency.exponent), currency⟩
      else .error .overflow := by
  obtain ⟨power, hpower, hvalue⟩ := Decimal.exists_ofInt? (tenPow_exponent_lt currency)
  rw [Int.cast_natCast, Decimal.cast_tenPow] at hvalue
  rcases Decimal.mul?_tenPow amount hvalue with ⟨product, hproduct, hexact⟩ | ⟨hnone, hlarge⟩
  · simp only [quantize, hpower, hproduct, Option.elim_some, roundMinor_eq, hexact, bind,
      Except.bind]
    by_cases hfits : fitsMinor (nearest (amount.toRat * 10 ^ currency.exponent))
    · rw [if_pos hfits, if_pos hfits]
      rfl
    · rw [if_neg hfits, if_neg hfits]
  · -- What has no decimal at all does not fit as minor units either.
    have hmisfit : ¬ fitsMinor (nearest (amount.toRat * 10 ^ currency.exponent)) :=
      fun hfits => absurd hlarge (not_le.2 (abs_lt_of_fitsMinor_nearest hfits))
    simp only [quantize, hpower, hnone, Option.elim_some, Option.elim_none, bind, Except.bind]
    rw [if_neg hmisfit]

/-- Money in major units is quantized as what it was. -/
theorem quantize_toMajor {m : Money} (hfits : fitsMinor m.minor) :
    quantize m.toMajor m.currency = .ok m := by
  have hminor : m.toMajor.toRat * 10 ^ m.currency.exponent = m.minor := by
    rw [toRat_toMajor, major, minorUnits_of_fits hfits]
    field_simp
  rw [quantize_eq, hminor, nearest_intCast, if_pos hfits]

/-! ## Parts -/

/-- A part is the exact quotient, rounded once, where the decimal has more places than the number of
parts has digits. -/
theorem divide_of_fine (price : Money) (scale : Nat) (hscale : scale ≤ 28) (hpos : 0 < quantity)
    (hquantity : quantity < Decimal.limit) (hfine : quantity < Decimal.tenPow scale)
    (hroom : price.minorUnits.natAbs * Decimal.tenPow scale ≤ (Decimal.limit - 1) * quantity) :
    price.divide quantity = .ok ⟨nearest (price.minorUnits / quantity), price.currency⟩ := by
  have hfits : (divRound .toEven (price.minorUnits * Decimal.tenPow scale) quantity).natAbs ≤
      Decimal.limit - 1 := by
    refine natAbs_divRound_le .toEven _ hpos ?_
    rwa [Int.natAbs_mul, Int.natAbs_natCast]
  obtain ⟨places, hplaces, hpart⟩ := price.exists_places_of_divide hpos hquantity hscale
    (Nat.lt_of_le_sub_one (by decide) hfits)
  have hfine' : quantity < Decimal.tenPow places :=
    hfine.trans_le (Nat.pow_le_pow_right (by decide) hplaces)
  rw [hpart, divRound_divRound _ _ hpos hfine', divRound_eq_nearest _ hpos]

/-! ## Both over their whole range -/

/-- An amount in major units is quantized exactly, rounded once half away from zero, where the whole
number fits and fails where it does not; and quantizing is the inverse of showing major units. -/
theorem quantize_exact :
    (∀ (amount : Decimal) (currency : Currency),
      quantize amount currency =
        if fitsMinor (nearest (amount.toRat * 10 ^ currency.exponent)) then
          .ok ⟨nearest (amount.toRat * 10 ^ currency.exponent), currency⟩
        else .error .overflow) ∧
      ∀ m : Money, fitsMinor m.minor → quantize m.toMajor m.currency = .ok m :=
  ⟨quantize_eq, fun _ hfits => quantize_toMajor hfits⟩

/-- The least amount of money, in the currency with the most decimals. -/
theorem quantize_exact_of_least :
    fitsMinor (-9223372036854775808) ∧
      quantize (toMajor ⟨-9223372036854775808, .clf⟩) .clf =
        .ok ⟨-9223372036854775808, .clf⟩ :=
  ⟨rfl, quantize_exact.2 ⟨-9223372036854775808, .clf⟩ rfl⟩

/-- The product with one thousand has too many digits, and the last of them are zeros. -/
example : quantize ⟨false, 79228162514264337593543950335, 28, by decide, by decide⟩ .kwd =
    .ok ⟨7923, .kwd⟩ := by decide

/-- A part of a price of 64 bits, of as many parts as 32 bits can count, is the exact quotient,
rounded once half away from zero. -/
theorem divide_exact (hprice : fitsMinor price.minor) (hpos : 0 < quantity)
    (hquantity : quantity < 4294967296) :
    price.divide quantity = .ok ⟨nearest (price.minor / quantity), price.currency⟩ := by
  obtain ⟨hlow, hhigh⟩ := fitsMinor_iff.1 hprice
  have hunits : price.minorUnits = price.minor := minorUnits_of_fits hprice
  have hsize : price.minorUnits.natAbs ≤ 9223372036854775808 := by
    rw [hunits]
    omega
  have hlimit : Decimal.limit = 79228162514264337593543950336 := rfl
  have hten : Decimal.tenPow 9 = 1000000000 := rfl
  have hten' : Decimal.tenPow 18 = 1000000000000000000 := rfl
  rw [← hunits]
  -- With many parts the quotient is small, so its decimal has the more places.
  rcases Nat.lt_or_ge quantity 1000000000 with hfew | hmany
  · refine price.divide_of_fine 9 (by decide) hpos (by omega) (by omega) ?_
    rw [hten, hlimit]
    omega
  · refine price.divide_of_fine 18 (by decide) hpos (by omega) (by omega) ?_
    rw [hten', hlimit]
    omega

/-- A quotient just below a half, as close to it as it can be. -/
theorem divide_exact_below_half :
    fitsMinor 4611686019501129727 ∧
      nearest ((4611686019501129727 : Int) / (4294967295 : Nat)) = 1073741824 ∧
      divide ⟨4611686019501129727, .gbp⟩ 4294967295 = .ok ⟨1073741824, .gbp⟩ := by
  have hpart : divide ⟨4611686019501129727, .gbp⟩ 4294967295 = .ok ⟨1073741824, .gbp⟩ := rfl
  have hexact := @divide_exact ⟨4611686019501129727, .gbp⟩ 4294967295 rfl (by decide) (by decide)
  rw [hpart] at hexact
  exact ⟨rfl, (congrArg minor (Except.ok.inj hexact)).symm, hpart⟩

end Money

end Retail
