import Retail.Discount.Value
import Retail.Proofs.Decimal

/-!
# Prices after a discount

The price after a discount is floored at zero and depends on the number of the discount, not on the
form in which it is written. What a discount takes off a price that is not negative is an amount of
64 bits again.

## Main results

* `discountedPrice_congr`: values of one number
* `DiscountValue.amountOff_eq_ok`: what is taken off is what the price lost
* `DiscountValue.fitsMinor_amountOff`: the bound on what is taken off
* `DiscountValue.amountOff_zero`: nothing is taken off nothing
-/

namespace Retail

variable {value value' : Decimal} {valueType : ValueType} {currency : Currency}
  {price later off : Money}

/-! ## Values of one number -/

theorem Money.quantize_congr (h : value.sameValue value') (currency : Currency) :
    Money.quantize value currency = Money.quantize value' currency := by
  let rounded (o : Option Decimal) : Except PricingError Money := do
    let minor ← o.elim (.error .overflow) .ok
    return ⟨← roundMinor minor, currency⟩
  have hrounded : ∀ a b : Decimal, a.sameValue b → rounded (some a) = rounded (some b) := by
    intro a b hsame
    show (do return Money.mk (← roundMinor a) currency) = do return ⟨← roundMinor b, currency⟩
    rw [roundMinor_congr hsame]
  unfold quantize
  exact congrArg _ (funext fun scale => (Decimal.mul?_agree h scale).congr hrounded)

theorem remainingFraction_congr (h : value.sameValue value') :
    remainingFraction value = remainingFraction value' := by
  have hagree := Decimal.sub?_agree (a := .hundred) h rfl
  exact hagree.congr (f := (·.bind (·.div? .hundred))) fun _ _ hsame => Decimal.div?_eq hsame _

/-- The price after a discount depends on the number of the discount only. -/
theorem discountedPrice_congr (h : value.sameValue value') (valueType : ValueType)
    (currency : Currency) (price : Money) :
    discountedPrice value valueType currency price =
      discountedPrice value' valueType currency price := by
  cases valueType with
  | fixed => rw [discountedPrice, discountedPrice, Money.quantize_congr h]
  | percentage => rw [discountedPrice, discountedPrice, remainingFraction_congr h]

/-! ## What is left and what is taken off -/

theorem discountedPrice_fixed_eq_ok :
    discountedPrice value .fixed currency price = .ok later ↔
      ∃ discount, Money.quantize value currency = .ok discount ∧
        price.currency = discount.currency ∧
        later = (Money.mk (price.minor - discount.minor) price.currency).floorAtZero := by
  simp only [discountedPrice, bind_eq_ok, pure_eq_ok, Money.sub_eq_ok]
  constructor
  · rintro ⟨discount, hdiscount, _, ⟨hcurrency, rfl⟩, rfl⟩
    exact ⟨discount, hdiscount, hcurrency, rfl⟩
  · rintro ⟨discount, hdiscount, hcurrency, rfl⟩
    exact ⟨discount, hdiscount, _, ⟨hcurrency, rfl⟩, rfl⟩

theorem discountedPrice_percentage_eq_ok :
    discountedPrice value .percentage currency price = .ok later ↔
      price.currency = currency ∧ ∃ remaining minor, remainingFraction value = some remaining ∧
        percentOf remaining price.minorUnits = .ok minor ∧
        later = (Money.mk minor currency).floorAtZero := by
  by_cases hcurrency : price.currency = currency
  · have hno : ¬ price.currency ≠ currency := not_not.2 hcurrency
    rw [discountedPrice, if_neg hno]
    cases hremaining : remainingFraction value with
    | none => simp [bind, Except.bind]
    | some remaining =>
      simp only [Option.elim_some, bind_eq_ok, pure_eq_ok, Except.ok.injEq, exists_eq_left',
        Option.some.injEq, hcurrency, true_and]
      constructor
      · rintro ⟨minor, hminor, rfl⟩
        exact ⟨remaining, minor, rfl, hminor, rfl⟩
      · rintro ⟨_, minor, rfl, hminor, rfl⟩
        exact ⟨minor, hminor, rfl⟩
  · rw [discountedPrice, if_pos hcurrency]
    simp [hcurrency]

/-- What is left of a price has been floored at zero, in the currency of the price. -/
theorem discountedPrice_floored (h : discountedPrice value valueType currency price = .ok later) :
    later.floorAtZero = later ∧ later.currency = price.currency := by
  cases valueType with
  | fixed =>
    obtain ⟨discount, -, -, rfl⟩ := discountedPrice_fixed_eq_ok.1 h
    exact ⟨Money.floorAtZero_floorAtZero _, Money.currency_floorAtZero _⟩
  | percentage =>
    obtain ⟨rfl, _, minor, -, -, rfl⟩ := discountedPrice_percentage_eq_ok.1 h
    exact ⟨Money.floorAtZero_floorAtZero _, Money.currency_floorAtZero _⟩

theorem currency_quantize {discount : Money} (h : Money.quantize value currency = .ok discount) :
    discount.currency = currency := by
  simp only [Money.quantize, bind_eq_ok, pure_eq_ok] at h
  obtain ⟨_, -, _, -, _, -, rfl⟩ := h
  rfl

theorem fitsMinor_quantize {discount : Money} (h : Money.quantize value currency = .ok discount) :
    fitsMinor discount.minor := by
  simp only [Money.quantize, bind_eq_ok, pure_eq_ok] at h
  obtain ⟨scale, -, product, -, minor, hminor, rfl⟩ := h
  exact (roundMinor_eq_ok.1 hminor).2

/-- An amount of major units that is not below zero is rounded to one of minor units that is not. -/
theorem minor_quantize_nonneg {discount : Money} (hvalue : 0 ≤ value.mantissa)
    (h : Money.quantize value currency = .ok discount) : 0 ≤ discount.minor := by
  simp only [Money.quantize, bind_eq_ok, pure_eq_ok] at h
  obtain ⟨scale, hscale, product, hproduct, minor, hminor, rfl⟩ := h
  cases hpower : Decimal.ofInt? (Decimal.tenPow currency.exponent) with
  | none => simp [hpower] at hscale
  | some power =>
    cases hmul : value.mul? scale with
    | none => simp [hmul] at hproduct
    | some found =>
      simp only [hpower, hmul, Option.elim_some, Except.ok.injEq] at hscale hproduct
      subst hscale hproduct
      have hpower : 0 ≤ power.mantissa := by
        rw [(Decimal.ofParts?_eq_some hpower).1]
        exact Int.natCast_nonneg _
      obtain ⟨rfl, -⟩ := roundMinor_eq_ok.1 hminor
      exact le_divRound _ found.denominator_pos
        ((Int.zero_mul _).trans_le (Decimal.mantissa_mul?_nonneg hvalue hpower hmul))

/-- Every fraction of nothing is nothing. -/
theorem percentOf_zero (fraction : Decimal) : percentOf fraction 0 = .ok 0 := by
  have hzero : Decimal.ofInt? 0 = some .zero := rfl
  have hproduct : fraction.mul? .zero = some .zero := by
    rw [Decimal.mul?, if_pos]
    simp [Decimal.zero]
  rw [percentOf, hzero, Option.bind_some, hproduct]
  rfl

theorem fitsMinor_percentOf {fraction : Decimal} {n minor : Int}
    (h : percentOf fraction n = .ok minor) : fitsMinor minor := by
  unfold percentOf at h
  split at h
  · contradiction
  · exact (roundMinor_eq_ok.1 (mapError_eq_ok.1 h)).2

namespace DiscountValue

variable {d : DiscountValue}

/-- What a discount takes off is what the price loses. -/
theorem amountOff_eq_ok :
    d.amountOff price = .ok off ↔ ∃ later, d.apply price = .ok later ∧
      off = ⟨price.minor - later.minor, price.currency⟩ := by
  simp only [amountOff, bind_eq_ok, Money.sub_eq_ok]
  refine exists_congr fun later => and_congr_right fun hlater => and_iff_right ?_
  exact (discountedPrice_floored hlater).2.symm

theorem floorAtZero_apply (h : d.apply price = .ok later) : later.floorAtZero = later :=
  (discountedPrice_floored h).1

/-- What is taken off a price of 64 bits that is not negative is an amount of 64 bits. -/
theorem fitsMinor_amountOff (h : d.amountOff price = .ok off) (hprice : 0 ≤ price.minor)
    (hfits : fitsMinor price.minor) : fitsMinor off.minor := by
  obtain ⟨later, hlater, rfl⟩ := amountOff_eq_ok.1 h
  rw [fitsMinor_iff] at hfits ⊢
  cases htype : d.valueType with
  | fixed =>
    rw [apply, htype, discountedPrice_fixed_eq_ok] at hlater
    obtain ⟨discount, hdiscount, -, rfl⟩ := hlater
    have hbound := fitsMinor_iff.1 (fitsMinor_quantize hdiscount)
    rw [Money.floorAtZero_of_le (by simp only; omega)]
    simp only
    omega
  | percentage =>
    rw [apply, htype, discountedPrice_percentage_eq_ok] at hlater
    obtain ⟨-, _, minor, -, hminor, rfl⟩ := hlater
    have hbound := fitsMinor_percentOf hminor
    rw [Money.minor_floorAtZero_of_fits hbound]
    rw [fitsMinor_iff] at hbound
    simp only
    omega

/-- A value that is not below zero takes nothing off a price of zero. -/
theorem amountOff_zero (hvalue : 0 ≤ d.value.mantissa)
    (h : d.amountOff (.zero currency) = .ok off) :
    off = .zero currency := by
  obtain ⟨later, hlater, rfl⟩ := amountOff_eq_ok.1 h
  suffices hminor : later.minor = 0 by
    rw [hminor]
    rfl
  cases htype : d.valueType with
  | fixed =>
    rw [apply, htype, discountedPrice_fixed_eq_ok] at hlater
    obtain ⟨discount, hdiscount, -, rfl⟩ := hlater
    have hnonneg := minor_quantize_nonneg hvalue hdiscount
    have hbound := fitsMinor_iff.1 (fitsMinor_quantize hdiscount)
    rw [Money.floorAtZero_of_le (by simp only [Money.minor_zero]; omega)]
    simp only [Money.minor_zero]
    omega
  | percentage =>
    rw [apply, htype, discountedPrice_percentage_eq_ok] at hlater
    obtain ⟨-, remaining, minor, -, hminor, rfl⟩ := hlater
    obtain rfl : 0 = minor := Except.ok.inj ((percentOf_zero remaining).symm.trans hminor)
    rfl

end DiscountValue

end Retail
