import Retail.Proofs.Line.Failure
import Retail.Proofs.Line.Redistribution

/-!
# How fair a spread discount is

Of a subtotal up to ten million million minor units, quotients have more places than it has digits.
So each share is the exact proportion rounded once, and is off by at most one half of a minor unit.
The last line takes what is left, and with it what all the others are off by.

## Main definitions

* `Redistribution.proportion`: the exact share of a line

## Main results

* `Money.share_of_le`: a share of a part, in full
* `Redistribution.exists_spread`: a discount that can be spread
* `redistribute_fair`: how far the shares are from the exact ones
-/

namespace Retail

/-! ## Success -/

/-- The share of a part of a whole is the exact proportion, rounded half up. -/
theorem Money.share_of_le {amount part whole : Money} (hpart : amount.currency = part.currency)
    (hwhole : amount.currency = whole.currency) (hpos : 0 < whole.minor)
    (hsmall : whole.minor ≤ 10000000000000) (hamount : 0 ≤ amount.minor)
    (hamountLe : amount.minor ≤ whole.minor) (hnonneg : 0 ≤ part.minor)
    (hle : part.minor ≤ whole.minor) :
    amount.share part whole =
      .ok ⟨divRound .awayFromZero (amount.minor * part.minor) whole.minor.natAbs,
        amount.currency⟩ := by
  have hunits (m : Money) (hlow : 0 ≤ m.minor) (hhigh : m.minor ≤ whole.minor) :
      m.minorUnits = m.minor := minorUnits_of_fits (fitsMinor_iff.2 (by omega))
  have hden : 0 < whole.minor.natAbs := Int.natAbs_pos.2 hpos.ne'
  have hwholeAbs : (whole.minor.natAbs : Int) = whole.minor := Int.natAbs_of_nonneg hpos.le
  have hproduct : 0 ≤ amount.minor * part.minor := Int.mul_nonneg hamount hnonneg
  have hproductLe : amount.minor * part.minor ≤ part.minor * whole.minor := by
    rw [Int.mul_comm]
    exact Int.mul_le_mul_of_nonneg_left hamountLe hnonneg
  have hbound : part.minor * whole.minor ≤ 10000000000000 * whole.minor :=
    Int.mul_le_mul_of_nonneg_right (by omega) hpos.le
  -- Fourteen places are more than the whole has digits, and the quotient leaves room for them.
  have hshare := share_of_fine 14 hpart hwhole
  rw [hunits amount hamount hamountLe, hunits part hnonneg hle, hunits whole hpos.le le_rfl]
    at hshare
  have hten : (Decimal.tenPow 14 : Int) = 100000000000000 := rfl
  have hlimit : Decimal.limit = 79228162514264337593543950336 := rfl
  refine hshare hpos (by omega) (by decide) (by omega) ?_ ?_
  · have hquotient := natAbs_divRound_le .toEven (amount.minor * part.minor * Decimal.tenPow 14)
      (k := 1000000000000000000000000000) hden (by rw [hten]; omega)
    omega
  · have hlow : 0 ≤ divRound .awayFromZero (amount.minor * part.minor) whole.minor.natAbs :=
      le_divRound _ hden (by omega)
    have hhigh : divRound .awayFromZero (amount.minor * part.minor) whole.minor.natAbs ≤
        part.minor := divRound_le _ hden (by rwa [hwholeAbs])
    exact fitsMinor_iff.2 (by omega)

namespace Redistribution

variable {subtotal discount : Money} {portion : Portion} {portions : List Portion}

/-- A discount is spread where every share is found. -/
theorem exists_spread {lines : List Line} {assigned : Money}
    (hassigned : assigned.currency = discount.currency)
    (hlines : ∀ line ∈ lines, line.totalPrice.currency = discount.currency ∧
      line.quantity < Decimal.limit)
    (hshares : ∀ line ∈ lines, ∃ share, discount.share line.totalPrice subtotal = .ok share) :
    ∃ shares lines', spread subtotal discount assigned lines = (.ok shares, lines') := by
  induction lines generalizing assigned with
  | nil => exact ⟨_, _, rfl⟩
  | cons line rest ih =>
    obtain ⟨hline, hrest⟩ := List.forall_mem_cons.1 hlines
    obtain ⟨⟨share, hshare⟩, hothers⟩ := List.forall_mem_cons.1 hshares
    cases rest with
    | nil =>
      have hsub := Money.sub_eq_ok.2 ⟨hassigned.symm, rfl⟩
      obtain ⟨line', hrun⟩ := Line.exists_applyDiscount
        ⟨discount.minor - assigned.minor, discount.currency⟩ hline.1 hline.2
      exact ⟨_, _, spread_singleton_eq_ok.2 ⟨_, line', hsub, hrun, rfl, rfl⟩⟩
    | cons next rest =>
      have hcurrency : share.currency = discount.currency := (Money.share_eq_ok hshare).2.2.1
      obtain ⟨line', hrun⟩ := Line.exists_applyDiscount share (hline.1.trans hcurrency.symm) hline.2
      obtain ⟨assigned', hadd⟩ : ∃ assigned', assigned.add share = .ok assigned' :=
        ⟨_, Money.add_eq_ok.2 ⟨hassigned.trans hcurrency.symm, rfl⟩⟩
      have hassigned' : assigned'.currency = discount.currency := by
        rw [(Money.add_eq_ok.1 hadd).2]
        exact hassigned
      obtain ⟨shares', rest', hspread⟩ := ih hassigned' hrest hothers
      exact ⟨_, _, spread_cons_cons_eq_ok.2
        ⟨share, line', assigned', shares', rest', hshare, hrun, hadd, hspread, rfl, rfl⟩⟩

/-! ## Exact proportions -/

/-- The exact share of a line. -/
def proportion (subtotal discount : Money) (line : Line) : ℚ :=
  discount.minor * line.totalPrice.minor / subtotal.minor

/-- A portion is off by at most one half of a minor unit. -/
theorem Portion.Proportional.abs_sub_le (hp : portion.Proportional subtotal discount)
    (hpos : 0 < subtotal.minor) (hsmall : subtotal.minor ≤ 10000000000000)
    (hlow : 0 ≤ discount.minor) (hhigh : discount.minor ≤ subtotal.minor)
    (hline : 0 ≤ portion.line.totalPrice.minor)
    (hpart : portion.line.totalPrice.minor ≤ subtotal.minor) :
    |portion.share.minor - proportion subtotal discount portion.line| ≤ 1 / 2 := by
  obtain ⟨hcurrency, hwhole, -, -⟩ := Money.share_eq_ok hp.share_eq
  have hshare := Money.share_of_le hcurrency hwhole hpos hsmall hlow hhigh hline hpart
  rw [hp.share_eq] at hshare
  have hden : (subtotal.minor.natAbs : ℚ) = subtotal.minor := by
    rw [Nat.cast_natAbs, abs_of_pos hpos]
  rw [Except.ok.inj hshare, proportion]
  simpa [hden] using abs_divRound_sub_le .awayFromZero
    (discount.minor * portion.line.totalPrice.minor) (Int.natAbs_pos.2 hpos.ne')

/-- What the shares of several portions are off by. -/
theorem abs_sum_sub_le
    (h : ∀ portion ∈ portions,
      |portion.share.minor - proportion subtotal discount portion.line| ≤ 1 / 2) :
    |(((portions.map (·.share.minor)).sum : Int) : ℚ) -
        discount.minor * ((portions.map (·.line.totalPrice.minor)).sum : Int) / subtotal.minor| ≤
      (portions.length : ℚ) / 2 := by
  induction portions with
  | nil => simp
  | cons portion rest ih =>
    obtain ⟨hfirst, hrest⟩ := List.forall_mem_cons.1 h
    simp only [List.map_cons, List.sum_cons, List.length_cons, Int.cast_add, Nat.cast_add,
      Nat.cast_one]
    calc _ = |(portion.share.minor - proportion subtotal discount portion.line) +
          ((((rest.map (·.share.minor)).sum : Int) : ℚ) - discount.minor *
            ((rest.map (·.line.totalPrice.minor)).sum : Int) / subtotal.minor)| := by
          rw [proportion]
          congr 1
          ring
      _ ≤ 1 / 2 + (rest.length : ℚ) / 2 := (abs_add_le _ _).trans (add_le_add hfirst (ih hrest))
      _ = (rest.length + 1) / 2 := by ring

/-- What is left for the last line is off by what all the others are off by. -/
theorem abs_remainder_sub_le {last : Line} {remainder : Int} (hpos : 0 < subtotal.minor)
    (h : ∀ portion ∈ portions,
      |portion.share.minor - proportion subtotal discount portion.line| ≤ 1 / 2)
    (hsubtotal : (portions.map (·.line.totalPrice.minor)).sum + last.totalPrice.minor =
      subtotal.minor)
    (hremainder : remainder = discount.minor - (portions.map (·.share.minor)).sum) :
    |remainder - proportion subtotal discount last| ≤ (portions.length : ℚ) / 2 := by
  have hS : (subtotal.minor : ℚ) ≠ 0 := by exact_mod_cast hpos.ne'
  have hlast : (last.totalPrice.minor : ℚ) =
      subtotal.minor - ((portions.map (·.line.totalPrice.minor)).sum : Int) := by
    rw [← hsubtotal, Int.cast_add, add_sub_cancel_left]
  have hoff : (remainder : ℚ) - proportion subtotal discount last =
      discount.minor * ((portions.map (·.line.totalPrice.minor)).sum : Int) / subtotal.minor -
        ((portions.map (·.share.minor)).sum : Int) := by
    rw [proportion, hremainder, Int.cast_sub, hlast]
    field_simp
    ring
  rw [hoff, abs_sub_comm]
  exact abs_sum_sub_le h

end Redistribution

open Redistribution

/-- A discount within the subtotal of the lines is spread in shares that are off by at most one half
of a minor unit, and between zero and the total of the line; the last line makes up for all of
them. -/
theorem redistribute_fair {subtotal discount : Money} {lines : List Line} (hne : lines ≠ [])
    (hlines : ∀ line ∈ lines, 0 ≤ line.totalPrice.minor ∧ line.quantity < 4294967296)
    (hsubtotal : Money.total subtotal.currency (lines.map (·.totalPrice)) = .ok subtotal)
    (hcurrency : discount.currency = subtotal.currency) (hpos : 0 < subtotal.minor)
    (hsmall : subtotal.minor ≤ 10000000000000) (hlow : 0 ≤ discount.minor)
    (hhigh : discount.minor ≤ subtotal.minor) :
    ∃ init last shares remainder lines', lines = init ++ [last] ∧
      (redistribute subtotal discount).runOn lines = (.ok (shares ++ [remainder]), lines') ∧
      List.Forall₂ (fun (line : Line) (share : Money) =>
        |share.minor - proportion subtotal discount line| ≤ 1 / 2 ∧
          0 ≤ share.minor ∧ share.minor ≤ line.totalPrice.minor) init shares ∧
      |remainder.minor - proportion subtotal discount last| ≤ ((lines.length : ℚ) - 1) / 2 := by
  obtain ⟨hcurrencies, hsum⟩ := Money.total_eq_ok.1 hsubtotal
  rw [← hcurrency, List.forall_mem_map] at hcurrencies
  replace hsum := congrArg Money.minor hsum
  rw [List.map_map, Function.comp_def] at hsum
  have hle : ∀ line ∈ lines, line.totalPrice.minor ≤ subtotal.minor := by
    intro line hline
    rw [hsum]
    exact List.single_le_sum (List.forall_mem_map.2 fun other ho => (hlines other ho).1) _
      (List.mem_map_of_mem hline)
  obtain ⟨shares, lines', hrun⟩ : ∃ shares lines',
      (redistribute subtotal discount).runOn lines = (.ok shares, lines') := exists_spread rfl
    (fun line hline => ⟨hcurrencies line hline, (hlines line hline).2.trans (by decide)⟩)
    fun line hline => ⟨_, Money.share_of_le (hcurrencies line hline).symm hcurrency hpos hsmall
      hlow hhigh (hlines line hline).1 (hle line hline)⟩
  obtain ⟨portions, last, rfl, rfl, rfl, hportions, -, -, hremainder⟩ := exists_portions hrun hne
  simp only [List.map_append, List.map_map, List.map_cons, List.map_nil, List.sum_append,
    List.sum_singleton, List.mem_append, List.mem_singleton, or_imp, forall_and, forall_eq,
    List.forall_mem_map, Function.comp_def] at hlines hle hsum
  have hnear : ∀ portion ∈ portions,
      |portion.share.minor - proportion subtotal discount portion.line| ≤ 1 / 2 :=
    fun portion hp => (hportions portion hp).abs_sub_le hpos hsmall hlow hhigh
      (hlines.1.1 portion hp) (hle.1 portion hp)
  refine ⟨_, last.line, _, last.share, _, rfl, hrun, ?_, ?_⟩
  · rw [List.forall₂_map_left_iff, List.forall₂_map_right_iff, List.forall₂_same]
    intro portion hp
    have hfair := (hportions portion hp).fair (fitsMinor_iff.2 (by omega)) hlow hhigh
      (hlines.1.1 portion hp) (hle.1 portion hp)
    exact ⟨hnear portion hp, hfair.nonneg, hfair.le⟩
  · rw [List.length_append, List.length_map, List.length_singleton, Nat.cast_add, Nat.cast_one,
      add_sub_cancel_right]
    refine abs_remainder_sub_le hpos hnear hsum.symm ?_
    rw [hremainder, Money.minor_zero, Int.zero_add]

/-- Two pence spread over four pennies: the first three are rounded up, so the last one is off by as
much as it can be. -/
theorem redistribute_fair_of_four_pennies :
    ∃ shares remainder lines', (redistribute ⟨4, .gbp⟩ ⟨2, .gbp⟩).runOn
        (List.replicate 4 (unitLine ⟨1, .gbp⟩)) = (.ok (shares ++ [remainder]), lines') ∧
      shares ++ [remainder] = [⟨1, .gbp⟩, ⟨1, .gbp⟩, ⟨1, .gbp⟩, ⟨-1, .gbp⟩] ∧
      ∃ last ∈ List.replicate 4 (unitLine ⟨1, .gbp⟩),
        |(remainder.minor : ℚ) - proportion ⟨4, .gbp⟩ ⟨2, .gbp⟩ last| ≤ (4 - 1) / 2 := by
  obtain ⟨init, last, shares, remainder, lines', hlines, hrun, -, hlast⟩ :=
    @redistribute_fair ⟨4, .gbp⟩ ⟨2, .gbp⟩ (List.replicate 4 (unitLine ⟨1, .gbp⟩)) (by decide)
      (by decide) rfl rfl (by decide) (by decide) (by decide) (by decide)
  refine ⟨shares, remainder, lines', hrun, ?_, last, ?_, hlast⟩
  · exact (Except.ok.inj (congrArg Prod.fst hrun)).symm
  · rw [hlines]
    exact List.mem_append_right _ (List.mem_singleton_self last)

end Retail
