import Retail.Promotion.Predicate
import Retail.Proofs.Discount.Value
import Retail.Proofs.Line.Redistribution

/-!
# How a subtotal is seen

The base total of a line is checked to be an amount of 64 bits, and the sum of several is not. A sum
beyond 64 bits is kept exactly, but conditions and percentages look at its minor units, and there it
counts as nothing.

## Main definitions

* `Money.seen`: an amount as calculations and comparisons see it

## Main results

* `OrderPredicate.holds_congr`: conditions look at amounts in major units only
* `discountedPrice_seen`, `amountOff_of_not_fits`: what percentages take off
* `baseSubtotal_seen`: the subtotal of lines, and where it is seen as it is
-/

namespace Retail

variable {prices prices' : BasePrices} {value : Decimal} {currency : Currency} {price off : Money}
  {lines : List Line} {totals : List Money}

/-! ## Amounts that are seen -/

/-- The amount as calculations and comparisons see it. -/
def Money.seen (m : Money) : Money := ⟨m.minorUnits, m.currency⟩

namespace Money

@[simp] theorem currency_seen (m : Money) : m.seen.currency = m.currency := rfl

@[simp] theorem minorUnits_seen (m : Money) : m.seen.minorUnits = m.minorUnits :=
  minorUnits_of_fits m.fitsMinor_minorUnits

@[simp] theorem toMajor_seen (m : Money) : m.seen.toMajor = m.toMajor := by
  simp only [toMajor, minorUnits_seen, currency_seen]

theorem minorUnits_of_not_fits (h : ¬fitsMinor price.minor) : price.minorUnits = 0 :=
  if_neg h

/-- An amount is seen as it is if and only if it fits; one that does not is not zero. -/
theorem minorUnits_eq_minor_iff : price.minorUnits = price.minor ↔ fitsMinor price.minor :=
  ⟨fun h => h ▸ price.fitsMinor_minorUnits, minorUnits_of_fits⟩

end Money

/-! ## Conditions -/

namespace OrderPredicate

mutual

/-- A condition holds of prices that are the same in major units. -/
theorem holds_congr (hsubtotal : prices.subtotal.toMajor = prices'.subtotal.toMajor)
    (htotal : prices.total.toMajor = prices'.total.toMajor) :
    ∀ predicate : OrderPredicate, predicate.holds prices = predicate.holds prices'
  | .all conditions => by
    rw [holds, holds]
    exact allHold_congr hsubtotal htotal conditions
  | .any conditions => by
    rw [holds, holds]
    exact anyHolds_congr hsubtotal htotal conditions
  | .subtotal range => by rw [holds, holds, PriceRange.contains, PriceRange.contains, hsubtotal]
  | .total range => by rw [holds, holds, PriceRange.contains, PriceRange.contains, htotal]

theorem allHold_congr (hsubtotal : prices.subtotal.toMajor = prices'.subtotal.toMajor)
    (htotal : prices.total.toMajor = prices'.total.toMajor) :
    ∀ conditions, allHold prices conditions = allHold prices' conditions
  | [] => by rw [allHold, allHold]
  | condition :: rest => by
    rw [allHold, allHold, holds_congr hsubtotal htotal condition,
      allHold_congr hsubtotal htotal rest]

theorem anyHolds_congr (hsubtotal : prices.subtotal.toMajor = prices'.subtotal.toMajor)
    (htotal : prices.total.toMajor = prices'.total.toMajor) :
    ∀ conditions, anyHolds prices conditions = anyHolds prices' conditions
  | [] => by rw [anyHolds, anyHolds]
  | condition :: rest => by
    rw [anyHolds, anyHolds, holds_congr hsubtotal htotal condition,
      anyHolds_congr hsubtotal htotal rest]

end

/-- A condition on a subtotal looks at what is seen of it. -/
theorem holds_seen (predicate : OrderPredicate) (subtotal total : Money) :
    predicate.holds ⟨subtotal.seen, total⟩ = predicate.holds ⟨subtotal, total⟩ :=
  @holds_congr ⟨subtotal.seen, total⟩ ⟨subtotal, total⟩ subtotal.toMajor_seen rfl predicate

end OrderPredicate

/-! ## Percentages -/

/-- A percentage is taken of the amount that is seen. -/
theorem discountedPrice_seen (value : Decimal) (currency : Currency) (price : Money) :
    discountedPrice value .percentage currency price.seen =
      discountedPrice value .percentage currency price := by
  simp only [discountedPrice, Money.currency_seen, Money.minorUnits_seen]

/-- Of an amount beyond 64 bits nothing is left, whatever the percentage. -/
theorem amountOff_of_not_fits (hfits : ¬fitsMinor price.minor)
    (h : (DiscountValue.mk value .percentage).amountOff price = .ok off) : off = price := by
  obtain ⟨later, hlater, rfl⟩ := DiscountValue.amountOff_eq_ok.1 h
  obtain ⟨-, remaining, minor, -, hminor, rfl⟩ := discountedPrice_percentage_eq_ok.1 hlater
  rw [Money.minorUnits_of_not_fits hfits, percentOf_zero] at hminor
  obtain rfl := Except.ok.inj hminor
  rw [Money.floorAtZero_of_nonneg le_rfl, sub_zero]

/-! ## Subtotals -/

/-- Lines with base totals in one currency have a subtotal, and it is the sum of these. Conditions
and percentages see it as it is where it fits 64 bits. Where it does not they see zero, and so a
percentage takes off all of it. -/
theorem baseSubtotal_seen (h : List.Forall₂ (fun line total =>
      line.baseTotal = .ok total ∧ total.currency = currency) lines totals) :
    ∃ subtotal, baseSubtotal lines currency = .ok subtotal ∧
      subtotal = ⟨(totals.map (·.minor)).sum, currency⟩ ∧
      (subtotal.seen = subtotal ↔ fitsMinor (totals.map (·.minor)).sum) ∧
      (∀ predicate : OrderPredicate, ∀ total,
        predicate.holds ⟨subtotal, total⟩ = predicate.holds ⟨subtotal.seen, total⟩) ∧
      (∀ value, discountedPrice value .percentage currency subtotal =
        discountedPrice value .percentage currency subtotal.seen) ∧
      (¬fitsMinor (totals.map (·.minor)).sum → subtotal.seen = .zero currency ∧
        ∀ value off, (DiscountValue.mk value .percentage).amountOff subtotal = .ok off →
          off = subtotal) := by
  have htotals : lines.mapM Line.baseTotal = .ok totals :=
    mapM_eq_ok.2 (h.imp fun _ _ hline => hline.1)
  have hcurrencies : ∀ total ∈ totals, total.currency = currency := by
    intro total htotal
    obtain ⟨line, -, -, hcurrency⟩ := exists_left_of_forall₂ h htotal
    exact hcurrency
  refine ⟨_, bind_eq_ok.2 ⟨totals, htotals, Money.total_eq_ok.2 ⟨hcurrencies, rfl⟩⟩, rfl, ?_,
    fun predicate total => ?_, fun value => (discountedPrice_seen value currency _).symm,
    fun hfits => ⟨?_, fun value off => amountOff_of_not_fits hfits⟩⟩
  · rw [Money.seen, Money.mk.injEq, and_iff_left rfl]
    exact Money.minorUnits_eq_minor_iff
  · exact (predicate.holds_seen _ total).symm
  · rw [Money.seen, Money.minorUnits_of_not_fits hfits, Money.zero]

/-- Two units at the largest amount there is, of which one percent is everything. -/
theorem baseSubtotal_seen_of_two : ∃ subtotal,
    baseSubtotal [unitLine ⟨9223372036854775807, .gbp⟩, unitLine ⟨9223372036854775807, .gbp⟩]
        .gbp = .ok subtotal ∧
      subtotal.minor = 18446744073709551614 ∧ subtotal.seen = .zero .gbp ∧
      ∃ off, (DiscountValue.mk .one .percentage).amountOff subtotal = .ok off ∧ off = subtotal := by
  obtain ⟨subtotal, hsubtotal, rfl, -, -, -, hlost⟩ := @baseSubtotal_seen .gbp
    [unitLine ⟨9223372036854775807, .gbp⟩, unitLine ⟨9223372036854775807, .gbp⟩]
    [⟨9223372036854775807, .gbp⟩, ⟨9223372036854775807, .gbp⟩]
    (.cons ⟨rfl, rfl⟩ (.cons ⟨rfl, rfl⟩ .nil))
  obtain ⟨hseen, hoff⟩ := hlost (by decide)
  exact ⟨_, hsubtotal, rfl, hseen, _, rfl, hoff .one _ rfl⟩

/-- A subtotal is not always seen as the sum of the lines. -/
theorem subtotal_not_always_seen : ¬∀ (currency : Currency) (lines : List Line)
    (totals : List Money) (subtotal : Money),
    List.Forall₂ (fun line total => line.baseTotal = .ok total ∧ total.currency = currency ∧
      fitsMinor total.minor) lines totals →
    baseSubtotal lines currency = .ok subtotal →
    subtotal.minorUnits = (totals.map (·.minor)).sum := by
  intro h
  have hsum := h .gbp
    [unitLine ⟨9223372036854775807, .gbp⟩, unitLine ⟨9223372036854775807, .gbp⟩]
    [⟨9223372036854775807, .gbp⟩, ⟨9223372036854775807, .gbp⟩] _
    (.cons ⟨rfl, rfl, rfl⟩ (.cons ⟨rfl, rfl, rfl⟩ .nil)) rfl
  exact absurd hsum (by decide)

end Retail
