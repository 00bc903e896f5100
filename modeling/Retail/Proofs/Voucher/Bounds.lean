import Retail.Proofs.Arithmetic.Checkout
import Retail.Proofs.Discount.Bounds

/-!
# Bounds of vouchers

A voucher that lists no value below zero takes off what it is redeemed for at most, whether that is
one price or the products of a checkout. Products of which none is bought do not count.

## Main definitions

* `Voucher.Nonnegative`, `Voucher.NonnegativeIn`: a voucher that lists no value below zero, in any
  channel or in one
* `Voucher.costMinor`: what products cost

## Main results

* `Voucher.exists_cheapest_of_productsDiscount`, `Voucher.exists_each_of_productsDiscount`: what is
  taken off products
* `Voucher.NonnegativeIn.discountAmount_bounds`: bounds of what is taken off a price
* `Voucher.NonnegativeIn.productsDiscount_bounds`: bounds of what is taken off products
-/

namespace Retail

namespace Voucher

variable {voucher : Voucher} {price off : Money} {channel : ChannelKey} {currency : Currency}
  {units : List (Nat × Money)}

/-- The voucher lists no value below zero. -/
def Nonnegative (voucher : Voucher) : Prop :=
  ∀ entry ∈ voucher.listings, 0 ≤ entry.2.value.mantissa

/-- The voucher lists no value below zero in the channel. -/
def NonnegativeIn (channel : ChannelKey) (voucher : Voucher) : Prop :=
  ∀ listing ∈ voucher.listing? channel, 0 ≤ listing.value.mantissa

theorem Nonnegative.nonnegativeIn (h : voucher.Nonnegative) (channel : ChannelKey) :
    voucher.NonnegativeIn channel :=
  fun _ hlisting => h _ (exists_mem_of_lookup hlisting)

theorem NonnegativeIn.discountAmount_bounds (h : voucher.NonnegativeIn channel)
    (hprice : 0 ≤ price.minor) (hoff : voucher.discountAmount price channel = .ok off) :
    0 ≤ off.minor ∧ off.minor ≤ price.minor := by
  obtain ⟨value, hvalue, hamount⟩ := discountAmount_eq_ok.1 hoff
  unfold discountIn at hvalue
  cases hlisting : voucher.listing? channel with
  | none => simp [hlisting] at hvalue
  | some listing =>
    simp only [hlisting, Except.ok.injEq] at hvalue
    subst hvalue
    exact DiscountValue.amountOff_bounds (h listing hlisting) hprice hamount

/-! ### The cheapest of some prices -/

theorem mem_of_cheapest?_eq_some {prices : List Money} (h : cheapest? prices = some price) :
    price ∈ prices := by
  induction prices with
  | nil => contradiction
  | cons first rest ih =>
    rw [cheapest?] at h
    split at h
    · rename_i other hother
      split at h
      · exact Option.some.inj h ▸ List.mem_cons_self
      · exact List.mem_cons_of_mem _ (ih (hother.trans h))
    · exact Option.some.inj h ▸ List.mem_cons_self

theorem cheapest?_eq_none {prices : List Money} : cheapest? prices = none ↔ prices = [] := by
  constructor
  · intro h
    cases prices with
    | nil => rfl
    | cons first rest =>
      rw [cheapest?] at h
      split at h
      · split at h <;> contradiction
      · contradiction
  · rintro rfl
    rfl

theorem minorUnits_le_of_cheapest? {prices : List Money} (h : cheapest? prices = some price) :
    ∀ other ∈ prices, price.minorUnits ≤ other.minorUnits := by
  induction prices generalizing price with
  | nil => contradiction
  | cons first rest ih =>
    rw [cheapest?] at h
    rw [List.forall_mem_cons]
    split at h
    · rename_i lowest hlowest
      have hrest := ih hlowest
      split at h
      · rename_i hle
        obtain rfl := Option.some.inj h
        exact ⟨le_rfl, fun other hother => hle.trans (hrest other hother)⟩
      · rename_i hlt
        obtain rfl := Option.some.inj h
        exact ⟨(not_le.1 hlt).le, hrest⟩
    · rename_i hnone
      obtain rfl := Option.some.inj h
      rw [cheapest?_eq_none.1 hnone]
      exact ⟨le_rfl, List.forall_mem_nil _⟩

/-! ### Products -/

theorem mem_bought {unit : Nat × Money} :
    unit ∈ units.filter (·.1 != 0) ↔ unit ∈ units ∧ unit.1 ≠ 0 := by
  rw [List.mem_filter, bne_iff_ne]

/-- Products of which none is bought add nothing to a sum. -/
theorem sum_filter_bought (amount : Money → Int) (units : List (Nat × Money)) :
    ((units.filter (·.1 != 0)).map fun unit => amount unit.2 * (unit.1 : Int)).sum =
      (units.map fun unit => amount unit.2 * (unit.1 : Int)).sum := by
  induction units with
  | nil => rfl
  | cons unit rest ih =>
    by_cases hzero : unit.1 = 0
    · rw [List.filter_cons_of_neg (by simpa using hzero), ih, List.map_cons, List.sum_cons, hzero,
        Int.natCast_zero, Int.mul_zero, Int.zero_add]
    · rw [List.filter_cons_of_pos (by simpa using hzero), List.map_cons, List.map_cons,
        List.sum_cons, List.sum_cons, ih]

/-- A voucher that applies once per order is taken off one of the cheapest products that are
bought. -/
theorem exists_cheapest_of_productsDiscount (honce : voucher.oncePerOrder)
    (h : voucher.productsDiscount units channel currency = .ok off) :
    (∀ unit ∈ units, unit.1 = 0) ∧ off = .zero currency ∨
      ∃ unit ∈ units, unit.1 ≠ 0 ∧
        (∀ other ∈ units, other.1 ≠ 0 → unit.2.minorUnits ≤ other.2.minorUnits) ∧
        voucher.discountAmount unit.2 channel = .ok off := by
  unfold productsDiscount at h
  rw [if_pos honce] at h
  split at h
  · rename_i price hcheapest
    refine .inr ?_
    obtain ⟨unit, hunit, rfl⟩ := List.mem_map.1 (mem_of_cheapest?_eq_some hcheapest)
    obtain ⟨hmem, hquantity⟩ := mem_bought.1 hunit
    refine ⟨unit, hmem, hquantity, fun other hother hbought => ?_, h⟩
    apply minorUnits_le_of_cheapest? hcheapest
    exact List.mem_map_of_mem (mem_bought.2 ⟨hother, hbought⟩)
  · rename_i hnone
    refine .inl ⟨fun unit hunit => ?_, (Except.ok.inj h).symm⟩
    by_contra hquantity
    have hmem := mem_bought.2 ⟨hunit, hquantity⟩
    rw [List.map_eq_nil_iff.1 (cheapest?_eq_none.1 hnone)] at hmem
    contradiction

/-- Otherwise it is taken off each product, as often as that is bought. -/
theorem exists_each_of_productsDiscount (honce : ¬ voucher.oncePerOrder)
    (h : voucher.productsDiscount units channel currency = .ok off) :
    ∃ each : Money → Money,
      (∀ unit ∈ units, unit.1 ≠ 0 →
        voucher.discountAmount unit.2 channel = .ok (each unit.2)) ∧
      off = ⟨(units.map fun unit => (each unit.2).minor * (unit.1 : Int)).sum, currency⟩ := by
  unfold productsDiscount at h
  rw [if_neg honce] at h
  obtain ⟨discounts, hdiscounts, htotal⟩ := bind_eq_ok.1 h
  obtain ⟨-, rfl⟩ := Money.total_eq_ok.1 (mapError_eq_ok.1 htotal)
  rw [mapM_eq_ok] at hdiscounts
  -- Products that are bought have an amount; it does not matter what is said of other prices.
  let each : Money → Money := fun price =>
    (voucher.discountAmount price channel).toOption.getD (.zero currency)
  have heach : ∀ {price amount : Money},
      voucher.discountAmount price channel = .ok amount → each price = amount := by
    intro price amount hamount
    simp only [each, hamount, Except.toOption, Option.getD_some]
  refine ⟨each, fun unit hunit hquantity => ?_, ?_⟩
  · obtain ⟨discount, -, hdiscount⟩ :=
      exists_right_of_forall₂ hdiscounts (mem_bought.2 ⟨hunit, hquantity⟩)
    obtain ⟨amount, hamount, -⟩ := bind_eq_ok.1 hdiscount
    rw [hamount, heach hamount]
  · rw [Money.mk.injEq, ← sum_filter_bought fun price => (each price).minor]
    refine ⟨congrArg List.sum (map_eq_of_forall₂ hdiscounts ?_).symm, rfl⟩
    intro unit discount hdiscount
    simp only [bind_eq_ok, pure_eq_ok] at hdiscount
    obtain ⟨amount, hamount, rfl⟩ := hdiscount
    rw [heach hamount]

/-- What products cost, given as quantities and unit prices. -/
def costMinor (units : List (Nat × Money)) : Int :=
  (units.map fun unit => unit.2.minor * (unit.1 : Int)).sum

theorem costMinor_nonneg (h : ∀ unit ∈ units, 0 ≤ unit.2.minor) : 0 ≤ costMinor units :=
  sum_nonneg_of_forall fun unit hunit => Int.mul_nonneg (h unit hunit) (Int.natCast_nonneg _)

theorem le_costMinor {unit : Nat × Money}
    (h : ∀ unit ∈ units, 0 ≤ unit.2.minor) (hmem : unit ∈ units) (hquantity : unit.1 ≠ 0) :
    unit.2.minor ≤ costMinor units := by
  have hone : unit.2.minor * 1 ≤ unit.2.minor * (unit.1 : Int) :=
    Int.mul_le_mul_of_nonneg_left (by omega) (h unit hmem)
  rw [Int.mul_one] at hone
  refine hone.trans (List.single_le_sum ?_ _ (List.mem_map_of_mem hmem))
  exact List.forall_mem_map.2 fun other hother =>
    Int.mul_nonneg (h other hother) (Int.natCast_nonneg _)

/-- What is taken off products is not more than they cost. -/
theorem NonnegativeIn.productsDiscount_bounds (h : voucher.NonnegativeIn channel)
    (hunits : ∀ unit ∈ units, unit.2.currency = currency)
    (hprices : ∀ unit ∈ units, 0 ≤ unit.2.minor)
    (hoff : voucher.productsDiscount units channel currency = .ok off) :
    off.currency = currency ∧ 0 ≤ off.minor ∧ off.minor ≤ costMinor units := by
  by_cases honce : voucher.oncePerOrder
  · rcases exists_cheapest_of_productsDiscount honce hoff with
      ⟨-, rfl⟩ | ⟨unit, hunit, hquantity, -, hamount⟩
    · exact ⟨rfl, le_rfl, costMinor_nonneg hprices⟩
    · obtain ⟨hnonneg, hle⟩ := h.discountAmount_bounds (hprices unit hunit) hamount
      exact ⟨(currency_discountAmount hamount).trans (hunits unit hunit), hnonneg,
        hle.trans (le_costMinor hprices hunit hquantity)⟩
  · obtain ⟨each, heach, rfl⟩ := exists_each_of_productsDiscount honce hoff
    have hbounds : ∀ unit ∈ units, 0 ≤ (each unit.2).minor * (unit.1 : Int) ∧
        (each unit.2).minor * (unit.1 : Int) ≤ unit.2.minor * (unit.1 : Int) := by
      intro unit hunit
      by_cases hquantity : unit.1 = 0
      · rw [hquantity, Int.natCast_zero, Int.mul_zero, Int.mul_zero]
        exact ⟨le_rfl, le_rfl⟩
      · obtain ⟨hnonneg, hle⟩ :=
          h.discountAmount_bounds (hprices unit hunit) (heach unit hunit hquantity)
        exact ⟨Int.mul_nonneg hnonneg (Int.natCast_nonneg _),
          Int.mul_le_mul_of_nonneg_right hle (Int.natCast_nonneg _)⟩
    exact ⟨rfl, sum_nonneg_of_forall fun unit hunit => (hbounds unit hunit).1,
      List.sum_le_sum fun unit hunit => (hbounds unit hunit).2⟩

end Voucher

end Retail
