import Retail.Line.Basic
import Retail.Proofs.Money

/-!
# Changes of a line

What the operations on a line leave behind, in full, so that what they do not mention stays as it
was.

## Main definitions

* `Line.SameRecords`: a line that kept its key and its records
* `Line.SameButRecords`: lines that are the same but for their records
* `Line.Recharged`: a line for which something else is charged

## Main results

* `Line.create_eq_ok`: a line at its full price
* `Line.applyDiscount_eq_ok`: the line after an amount was taken off
* `Line.setDiscountedUnitPrice_eq_ok`: the line at a catalogue price
* `baseSubtotal_congr`: lines of the same totals
-/

namespace Retail

namespace Line

variable {amount price : Money} {line line' : Line} {u : Unit}

/-- A line at its full price costs its quantity times that, if this is an amount of 64 bits. -/
theorem create_eq_ok {key : LineKey} {variant : VariantKey} {quantity : Nat} :
    create key variant quantity price = .ok line ↔
      fitsMinor (price.minorUnits * quantity) ∧ line = {
        key
        variant
        quantity
        undiscountedUnitPrice := price
        discountedUnitPrice := price
        baseUnitPrice := price
        unitPrice := price
        unitDiscount := .zero price.currency
        totalPrice := ⟨price.minorUnits * quantity, price.currency⟩
        undiscountedTotalPrice := ⟨price.minorUnits * quantity, price.currency⟩
        discounts := []
        rules := [] } := by
  simp only [create, bind_eq_ok, pure_eq_ok, Money.times_eq_ok]
  constructor
  · rintro ⟨_, ⟨hfits, rfl⟩, rfl⟩
    exact ⟨hfits, rfl⟩
  · rintro ⟨hfits, rfl⟩
    exact ⟨_, ⟨hfits, rfl⟩, rfl⟩

/-- An amount taken off a line changes the total, the price of a unit and the discount of a unit. -/
theorem applyDiscount_eq_ok :
    (applyDiscount amount).runOn line = (.ok u, line') ↔
      line.totalPrice.currency = amount.currency ∧ ∃ totalPrice unitPrice unitDiscount : Money,
        totalPrice = (Money.floorAtZero
          ⟨line.totalPrice.minor - amount.minor, line.totalPrice.currency⟩) ∧
        totalPrice.divide line.quantity = .ok unitPrice ∧
        amount.divide line.quantity = .ok unitDiscount ∧
        line' = { line with totalPrice, baseUnitPrice := unitPrice, unitPrice, unitDiscount } := by
  simp only [applyDiscount, Step.runOn_of]
  cases hsub : line.totalPrice.sub amount with
  | error e =>
    simp only [Prod.mk.injEq, reduceCtorEq, false_and, false_iff]
    rintro ⟨hc, -⟩
    exact (Money.sub_eq_error.1 hsub).1 hc
  | ok difference =>
    obtain ⟨hc, rfl⟩ := Money.sub_eq_ok.1 hsub
    rw [and_iff_right hc]
    simp only [exists_and_left, exists_eq_left]
    cases hunit : Money.divide _ line.quantity with
    | error e => simp
    | ok unitPrice =>
      cases hdiscount : amount.divide line.quantity with
      | error e => simp
      | ok unitDiscount =>
        simp only [Prod.mk.injEq, true_and, Except.ok.injEq, exists_eq_left']
        exact eq_comm

/-- The lines are the same but for their records. -/
def SameButRecords (line other : Line) : Prop :=
  other = { line with discounts := other.discounts }

/-- What is taken off a line does not depend on its records. -/
theorem applyDiscount_congr {other : Line} (hsame : line.SameButRecords other)
    (h : (applyDiscount amount).runOn line = (.ok u, line')) :
    (applyDiscount amount).runOn other = (.ok u, { line' with discounts := other.discounts }) := by
  obtain ⟨hcurrency, totalPrice, unitPrice, unitDiscount, htotal, hunit, hdiscount, rfl⟩ :=
    applyDiscount_eq_ok.1 h
  rw [hsame]
  exact applyDiscount_eq_ok.2
    ⟨hcurrency, totalPrice, unitPrice, unitDiscount, htotal, hunit, hdiscount, rfl⟩

/-- At most what is charged for the line changed, not what it is offered for. -/
def Recharged (line line' : Line) : Prop :=
  line' = { line with
    baseUnitPrice := line'.baseUnitPrice
    unitPrice := line'.unitPrice
    unitDiscount := line'.unitDiscount
    totalPrice := line'.totalPrice }

theorem Recharged.refl (line : Line) : line.Recharged line := rfl

/-- Taking an amount off changes at most what is charged, also where it fails on its way. -/
theorem recharged_applyDiscount {result : Except PricingError Unit}
    (h : (applyDiscount amount).runOn line = (result, line')) : line.Recharged line' := by
  obtain rfl : ((applyDiscount amount).runOn line).2 = line' := by rw [h]
  rw [applyDiscount, Step.runOn_of]
  split
  · rfl
  · dsimp only
    split
    · rfl
    · split <;> rfl

/-- The line kept its key and its records. -/
structure SameRecords (line line' : Line) : Prop where
  key : line'.key = line.key
  discounts : line'.discounts = line.discounts

theorem Recharged.sameRecords (h : line.Recharged line') : line.SameRecords line' := by
  rw [h]
  exact ⟨rfl, rfl⟩

/-- The price of a unit after catalogue promotions is floored at zero. -/
theorem setDiscountedUnitPrice_eq_ok :
    (setDiscountedUnitPrice price).runOn line = (.ok u, line') ↔
      line.undiscountedUnitPrice.currency = price.currency ∧ ∃ totalPrice,
        price.floorAtZero.times line.quantity = .ok totalPrice ∧
        line' = { line with
          unitDiscount := ⟨line.undiscountedUnitPrice.minor - price.floorAtZero.minor,
            line.undiscountedUnitPrice.currency⟩
          discountedUnitPrice := price.floorAtZero
          baseUnitPrice := price.floorAtZero
          unitPrice := price.floorAtZero
          totalPrice } := by
  simp only [setDiscountedUnitPrice, Step.runOn_of]
  cases hsub : line.undiscountedUnitPrice.sub price.floorAtZero with
  | error e =>
    simp only [Prod.mk.injEq, reduceCtorEq, false_and, false_iff]
    rintro ⟨hc, -⟩
    rw [← Money.currency_floorAtZero price] at hc
    exact (Money.sub_eq_error.1 hsub).1 hc
  | ok difference =>
    obtain ⟨hc, rfl⟩ := Money.sub_eq_ok.1 hsub
    rw [Money.currency_floorAtZero] at hc
    rw [and_iff_right hc]
    cases htotal : price.floorAtZero.times line.quantity with
    | error e => simp
    | ok totalPrice =>
      simp only [Prod.mk.injEq, true_and, Except.ok.injEq, exists_eq_left']
      exact eq_comm

theorem SameButRecords.baseTotal {other : Line} (h : line.SameButRecords other) :
    other.baseTotal = line.baseTotal := by
  rw [h]
  rfl

end Line

/-- Lines of the same totals have the same sum. -/
theorem baseSubtotal_congr {lines others : List Line} {currency : Currency}
    (h : List.Forall₂ (fun line other : Line => other.baseTotal = line.baseTotal) lines others) :
    baseSubtotal others currency = baseSubtotal lines currency := by
  rw [baseSubtotal, baseSubtotal, mapM_congr h]

end Retail
