import Retail.Proofs.Line.Failure
import Retail.Proofs.Money.Exact
import Retail.Proofs.Promotion.Offer

/-!
# The prices of a line over time

Prices of a unit are set and amounts are taken off, in any order and any number of times. A change
works out the total from the price of a unit, or that price from the total, and never from a price
that was rounded before. So the price of a unit is off by at most half a minor unit, whatever
happened to the line until then.

## Main definitions

* `Line.PriceChange`, `Line.Repriced`: changes of the prices, and the lines that they lead to
* `Line.WellPriced`: a total and a price of a unit that belong together

## Main results

* `Line.WellPriced.step`: what each change keeps
* `Line.Repriced.wellPriced`: what any number of them keep
* `Line.consistent_of_repriced`: a line at its full price after any history
-/

namespace Retail

namespace Money

variable {price part : Money} {quantity : Nat}

/-- The price of a part is the exact quotient, rounded once, for less than ten thousand million
parts. -/
theorem divide_eq_divRound (price : Money) (hpos : 0 < quantity)
    (hquantity : quantity < 10000000000) :
    price.divide quantity =
      .ok ⟨divRound .awayFromZero price.minorUnits quantity, price.currency⟩ := by
  have hunits := fitsMinor_iff.1 price.fitsMinor_minorUnits
  have hlimit : Decimal.limit = 79228162514264337593543950336 := rfl
  have hten : Decimal.tenPow 1 = 10 := rfl
  have hten' : Decimal.tenPow 10 = 10000000000 := rfl
  rw [divRound_eq_nearest _ hpos]
  -- A whole price leaves no room for ten places, and a half of it does.
  rcases Nat.lt_or_ge quantity 2 with hone | htwo
  · refine price.divide_of_fine 1 (by decide) hpos (by omega) (by omega) ?_
    rw [hten, hlimit]
    omega
  · refine price.divide_of_fine 10 (by decide) hpos (by omega) (by omega) ?_
    rw [hten', hlimit]
    omega

/-- All parts together are off by at most one half of a minor unit for each. -/
theorem two_mul_divide_sub_le (h : price.divide quantity = .ok part) (hpos : 0 < quantity)
    (hquantity : quantity < 10000000000) :
    2 * |part.minor * quantity - price.minorUnits| ≤ quantity := by
  rw [divide_eq_divRound price hpos hquantity] at h
  obtain rfl := Except.ok.inj h
  rw [Int.abs_eq_natAbs]
  exact_mod_cast two_mul_divRound_sub_le .awayFromZero price.minorUnits hpos

end Money

namespace Line

/-! ## Changes -/

/-- A change of the prices of a line. -/
inductive PriceChange where
  | set (price : Money)
  | takeOff (amount : Money)

/-- The change is made. -/
def PriceChange.step : PriceChange → Step Line PricingError Unit
  | .set price => setDiscountedUnitPrice price
  | .takeOff amount => applyDiscount amount

/-- The change names an amount of 64 bits, and nothing below zero is taken off. -/
def PriceChange.Proper : PriceChange → Prop
  | .set price => fitsMinor price.minor
  | .takeOff amount => fitsMinor amount.minor ∧ 0 ≤ amount.minor

/-- The lines that changes lead to, each of which succeeds. -/
inductive Repriced (start : Line) : List PriceChange → Line → Prop
  | nil : Repriced start [] start
  | snoc {changes : List PriceChange} {line line' : Line} {change : PriceChange}
      (led : Repriced start changes line) (proper : change.Proper)
      (made : change.step.runOn line = (.ok (), line')) : Repriced start (changes ++ [change]) line'

/-! ## What changes keep -/

/-- The total is an amount of 64 bits in the currency of the line, at least zero, and the price of a
unit is a part of it, rounded. -/
structure WellPriced (line : Line) : Prop where
  currency_eq : line.totalPrice.currency = line.currency
  fits : fitsMinor line.totalPrice.minor
  nonneg : 0 ≤ line.totalPrice.minor
  base_eq : line.baseUnitPrice = line.unitPrice
  near : 2 * |line.unitPrice.minor * line.quantity - line.totalPrice.minor| ≤ line.quantity

variable {key : LineKey} {variant : VariantKey} {quantity : Nat} {price amount : Money}
  {start line line' : Line} {change : PriceChange} {changes : List PriceChange} {u : Unit}

theorem wellPriced_create (h : create key variant quantity price = .ok line)
    (hfits : fitsMinor price.minor) (hnonneg : 0 ≤ price.minor) : line.WellPriced := by
  obtain ⟨hproduct, rfl⟩ := create_eq_ok.1 h
  rw [Money.minorUnits_of_fits hfits] at hproduct ⊢
  exact ⟨rfl, hproduct, Int.mul_nonneg hnonneg (Int.natCast_nonneg _), rfl, by simp⟩

/-- A price that is set is at least zero, and the total is its multiple. -/
theorem wellPriced_setDiscountedUnitPrice (hfits : fitsMinor price.minor)
    (h : (setDiscountedUnitPrice price).runOn line = (.ok u, line')) : line'.WellPriced := by
  obtain ⟨hcurrency, total, htotal, rfl⟩ := setDiscountedUnitPrice_eq_ok.1 h
  obtain ⟨hproduct, rfl⟩ := Money.times_eq_ok.1 htotal
  have hminor := Money.minor_floorAtZero_of_fits hfits
  have hfloored : fitsMinor price.floorAtZero.minor := by
    rw [fitsMinor_iff] at hfits ⊢
    omega
  rw [Money.minorUnits_of_fits hfloored] at hproduct ⊢
  refine ⟨(Money.currency_floorAtZero price).trans hcurrency.symm, hproduct, ?_, rfl, by simp⟩
  exact Int.mul_nonneg (by omega) (Int.natCast_nonneg _)

/-- What is taken off leaves a total between zero and the one before, of which the price of a unit
is a part. -/
theorem WellPriced.applyDiscount (hline : line.WellPriced) (hpos : 0 < line.quantity)
    (hquantity : line.quantity < 10000000000) (hfits : fitsMinor amount.minor)
    (hnonneg : 0 ≤ amount.minor)
    (h : (applyDiscount amount).runOn line = (.ok u, line')) : line'.WellPriced := by
  obtain ⟨hcurrency, total, unitPrice, unitDiscount, rfl, hunit, -, rfl⟩ := applyDiscount_eq_ok.1 h
  have htotal := hline.nonneg
  have hrange := fitsMinor_iff.1 hline.fits
  have hrange' := fitsMinor_iff.1 hfits
  have hleft := Money.floorAtZero_of_le
    (m := ⟨line.totalPrice.minor - amount.minor, line.totalPrice.currency⟩) (by dsimp only; omega)
  rw [hleft] at hunit ⊢
  have hleftFits : fitsMinor (max 0 (line.totalPrice.minor - amount.minor)) := by
    rw [fitsMinor_iff]
    omega
  have hnear := Money.two_mul_divide_sub_le hunit hpos hquantity
  rw [Money.minorUnits_of_fits hleftFits] at hnear
  exact ⟨hline.currency_eq, hleftFits, le_max_left _ _, rfl, hnear⟩

theorem sameGoods_step (h : change.step.runOn line = (.ok u, line')) : line.SameGoods line' := by
  cases change with
  | set price =>
    obtain ⟨-, _, -, rfl⟩ := setDiscountedUnitPrice_eq_ok.1 h
    exact ⟨rfl, rfl, rfl, rfl, rfl⟩
  | takeOff amount =>
    obtain ⟨-, _, _, _, -, -, -, rfl⟩ := applyDiscount_eq_ok.1 h
    exact ⟨rfl, rfl, rfl, rfl, rfl⟩

theorem WellPriced.step (hline : line.WellPriced) (hpos : 0 < line.quantity)
    (hquantity : line.quantity < 10000000000) (hproper : change.Proper)
    (h : change.step.runOn line = (.ok u, line')) : line'.WellPriced := by
  cases change with
  | set price => exact wellPriced_setDiscountedUnitPrice hproper h
  | takeOff amount => exact hline.applyDiscount hpos hquantity hproper.1 hproper.2 h

theorem Repriced.sameGoods (h : Repriced start changes line) : start.SameGoods line := by
  induction h with
  | nil => exact .refl start
  | snoc _ _ made ih => exact ih.trans (sameGoods_step made)

theorem Repriced.wellPriced (h : Repriced start changes line) (hstart : start.WellPriced)
    (hpos : 0 < start.quantity) (hquantity : start.quantity < 10000000000) : line.WellPriced := by
  induction h with
  | nil => exact hstart
  | snoc led proper made ih =>
    have hsame := led.sameGoods.quantity
    exact ih.step (hsame ▸ hpos) (hsame ▸ hquantity) proper made

/-- However often the prices of a line were changed, its total is at least zero, the price of a unit
is that of its part up to one half of a minor unit, and what it was offered for is as it was. An
amount can be taken off unless it is in another currency, and then the line is left as it is. -/
theorem consistent_of_repriced (hcreate : create key variant quantity price = .ok start)
    (hpos : 0 < quantity) (hquantity : quantity < 4294967296) (hfits : fitsMinor price.minor)
    (hnonneg : 0 ≤ price.minor) (h : Repriced start changes line) :
    0 ≤ line.totalPrice.minor ∧ line.baseUnitPrice = line.unitPrice ∧
      2 * |line.unitPrice.minor * quantity - line.totalPrice.minor| ≤ quantity ∧
      (line.key = key ∧ line.variant = variant ∧ line.quantity = quantity ∧
        line.undiscountedUnitPrice = price ∧
        line.undiscountedTotalPrice = ⟨price.minor * quantity, price.currency⟩) ∧
      ∀ amount e line', (applyDiscount amount).runOn line = (.error e, line') ↔
        price.currency ≠ amount.currency ∧
          e = .currencyMismatch price.currency amount.currency ∧ line' = line := by
  have hstart := wellPriced_create hcreate hfits hnonneg
  obtain ⟨-, rfl⟩ := create_eq_ok.1 hcreate
  obtain ⟨hkey, hvariant, hsame, hprice, htotal⟩ := h.sameGoods
  rw [Money.minorUnits_of_fits hfits] at htotal
  have hline := h.wellPriced hstart hpos (by dsimp only; omega)
  have hcurrency : line.totalPrice.currency = price.currency := by
    rw [hline.currency_eq, currency, hprice]
  have hnear := hline.near
  rw [hsame] at hnear
  have hlimit : line.quantity < Decimal.limit := by
    rw [hsame]
    exact hquantity.trans (by decide)
  refine ⟨hline.nonneg, hline.base_eq, hnear, ⟨hkey, hvariant, hsame, hprice, htotal⟩,
    fun amount e line' => ?_⟩
  rw [applyDiscount_eq_error hlimit, hcurrency]

/-- Three units of one pound. -/
def threeUnits : Line :=
  { twoUnits with
    quantity := 3
    totalPrice := ⟨300, .gbp⟩
    undiscountedTotalPrice := ⟨300, .gbp⟩ }

/-- A price of 99p is set, and then a penny is taken off all three together. -/
theorem consistent_of_repriced_thrice : ∃ line line',
    create ⟨1⟩ ⟨1⟩ 3 ⟨100, .gbp⟩ = .ok threeUnits ∧
      Repriced threeUnits [.set ⟨99, .gbp⟩, .takeOff ⟨1, .gbp⟩] line ∧
      line.totalPrice = ⟨296, .gbp⟩ ∧ line.unitPrice = ⟨99, .gbp⟩ ∧
      2 * |line.unitPrice.minor * (3 : Nat) - line.totalPrice.minor| ≤ (3 : Nat) ∧
      (applyDiscount ⟨1, .jpy⟩).runOn line =
        (.error (.currencyMismatch .gbp .jpy), line') ∧ line' = line := by
  have hset : Repriced threeUnits [.set ⟨99, .gbp⟩]
      ((PriceChange.set ⟨99, .gbp⟩).step.runOn threeUnits).2 := .snoc .nil rfl rfl
  have hrun : Repriced threeUnits [.set ⟨99, .gbp⟩, .takeOff ⟨1, .gbp⟩]
      ((PriceChange.takeOff ⟨1, .gbp⟩).step.runOn
        ((PriceChange.set ⟨99, .gbp⟩).step.runOn threeUnits).2).2 :=
    .snoc hset ⟨rfl, by decide⟩ rfl
  have hcreate : create ⟨1⟩ ⟨1⟩ 3 ⟨100, .gbp⟩ = .ok threeUnits := rfl
  obtain ⟨-, -, hnear, -, hfails⟩ :=
    consistent_of_repriced hcreate (by decide) (by decide) rfl (by decide) hrun
  exact ⟨_, _, hcreate, hrun, rfl, rfl, hnear, (hfails ⟨1, .jpy⟩ _ _).2 ⟨by decide, rfl, rfl⟩, rfl⟩

end Line

end Retail
