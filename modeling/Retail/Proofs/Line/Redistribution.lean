import Mathlib.Algebra.Order.BigOperators.Group.List
import Retail.Line.Redistribution
import Retail.Proofs.Line.Basic
import Retail.Proofs.Rounding

/-!
# What a spread discount leaves

Every line but the last takes a share in proportion to its total, and the last line takes what is
left of the discount. The shares therefore lose nothing. The totals may: each share is rounded for
itself, so what is left for the last line can be negative or more than the line is worth, and no
total goes below zero.

## Main definitions

* `Redistribution.Portion`: a line with the share that it takes
* `Redistribution.InStep`: totals that together lose the discount, none of them rising

## Main results

* `Redistribution.exists_portions`: a spread discount, line by line
* `recharged_redistribute`, `redistribute_congr`: what changes, and on what it depends
* `redistribute_shares`: the shares are the discount
* `redistribute_totals`: the totals, with what the last line cannot bear
-/

namespace Retail

namespace Redistribution

variable {subtotal discount assigned : Money} {line next : Line} {rest lines lines' : List Line}
  {shares : List Money}

/-! ## Line by line -/

theorem spread_singleton_eq_ok :
    spread subtotal discount assigned [line] = (.ok shares, lines') ↔
      ∃ remainder line', discount.sub assigned = .ok remainder ∧
        (Line.applyDiscount remainder).runOn line = (.ok (), line') ∧
        shares = [remainder] ∧ lines' = [line'] := by
  rw [spread]
  cases discount.sub assigned with
  | error e => simp
  | ok remainder =>
    rcases hrun : (Line.applyDiscount remainder).runOn line with ⟨_ | _, line'⟩
    · simp [hrun]
    · simp [hrun, eq_comm]

theorem spread_cons_cons_eq_ok :
    spread subtotal discount assigned (line :: next :: rest) = (.ok shares, lines') ↔
      ∃ share line' assigned' shares' rest', discount.share line.totalPrice subtotal = .ok share ∧
        (Line.applyDiscount share).runOn line = (.ok (), line') ∧
        assigned.add share = .ok assigned' ∧
        spread subtotal discount assigned' (next :: rest) = (.ok shares', rest') ∧
        shares = share :: shares' ∧ lines' = line' :: rest' := by
  rw [spread]
  cases discount.share line.totalPrice subtotal with
  | error e => simp
  | ok share =>
    rcases hrun : (Line.applyDiscount share).runOn line with ⟨_ | _, line'⟩
    · simp [hrun]
    · cases hadd : assigned.add share with
      | error e => simp [hrun, hadd]
      | ok assigned' =>
        rcases hspread : spread subtotal discount assigned' (next :: rest) with ⟨_ | shares', rest'⟩
        · simp [hrun, hadd, hspread]
        · simp [hrun, hadd, hspread, eq_comm]

/-- A line before and after it took a share. -/
structure Portion where
  line : Line
  share : Money
  line' : Line

/-- A portion in proportion to the total of its line. -/
structure Portion.Proportional (subtotal discount : Money) (portion : Portion) : Prop where
  share_eq : discount.share portion.line.totalPrice subtotal = .ok portion.share
  line_eq : (Line.applyDiscount portion.share).runOn portion.line = (.ok (), portion.line')

/-- A discount is spread in proportional portions, and the last line takes what they leave. -/
theorem exists_portions (h : spread subtotal discount assigned lines = (.ok shares, lines'))
    (hne : lines ≠ []) :
    ∃ (portions : List Portion) (last : Portion),
      lines = portions.map (·.line) ++ [last.line] ∧
      shares = portions.map (·.share) ++ [last.share] ∧
      lines' = portions.map (·.line') ++ [last.line'] ∧
      (∀ portion ∈ portions, portion.Proportional subtotal discount) ∧
      (Line.applyDiscount last.share).runOn last.line = (.ok (), last.line') ∧
      discount.currency = assigned.currency ∧
      last.share = ⟨discount.minor - (assigned.minor + (portions.map (·.share.minor)).sum),
        discount.currency⟩ := by
  induction lines generalizing assigned shares lines' with
  | nil => contradiction
  | cons line rest ih =>
    cases rest with
    | nil =>
      obtain ⟨remainder, line', hsub, hline, rfl, rfl⟩ := spread_singleton_eq_ok.1 h
      obtain ⟨hcurrency, rfl⟩ := Money.sub_eq_ok.1 hsub
      refine ⟨[], ⟨line, _, line'⟩, rfl, rfl, rfl, by simp, hline, hcurrency, ?_⟩
      simp
    | cons next rest =>
      obtain ⟨share, line', _, _, _, hshare, hline, hadd, hspread, rfl, rfl⟩ :=
        spread_cons_cons_eq_ok.1 h
      obtain ⟨hcurrency, rfl⟩ := Money.add_eq_ok.1 hadd
      obtain ⟨portions, last, hlines, rfl, rfl, hportions, hlast, hassigned, hremainder⟩ :=
        ih hspread (List.cons_ne_nil _ _)
      refine ⟨⟨line, share, line'⟩ :: portions, last, by simp [hlines], rfl, rfl,
        List.forall_mem_cons.2 ⟨⟨hshare, hline⟩, hportions⟩, hlast, hassigned, ?_⟩
      rw [hremainder]
      simp only [List.map_cons, List.sum_cons]
      rw [Int.add_assoc]

/-- Each line takes its share and the last one what is left to take. Those behind a failure stay. -/
theorem recharged_spread (subtotal discount assigned : Money) (lines : List Line) :
    List.Forall₂ Line.Recharged lines (spread subtotal discount assigned lines).2 := by
  have hsame (rest : List Line) : List.Forall₂ Line.Recharged rest rest :=
    List.forall₂_same.2 fun line _ => .refl line
  fun_induction spread subtotal discount assigned lines with
  | case1 => exact .nil
  | case2 | case5 => exact hsame _
  | case3 _ _ _ _ _ _ hrun | case4 _ _ _ _ _ hrun =>
    exact .cons (Line.recharged_applyDiscount hrun) .nil
  | case6 _ _ _ _ _ _ _ _ hrun | case7 _ _ _ _ _ _ _ hrun =>
    exact .cons (Line.recharged_applyDiscount hrun) (hsame _)
  | case8 _ _ _ _ _ _ _ hrun _ _ _ _ hspread ih | case9 _ _ _ _ _ _ _ hrun _ _ _ _ hspread ih =>
    rw [hspread] at ih
    exact .cons (Line.recharged_applyDiscount hrun) ih

end Redistribution

/-- Spreading a discount changes what is charged for the lines, also where it fails on its way. -/
theorem recharged_redistribute {subtotal discount : Money} {lines lines' : List Line}
    {result : Except PricingError (List Money)}
    (h : (redistribute subtotal discount).runOn lines = (result, lines')) :
    List.Forall₂ Line.Recharged lines lines' := by
  obtain rfl : ((redistribute subtotal discount).runOn lines).2 = lines' := by rw [h]
  exact Redistribution.recharged_spread subtotal discount _ lines

theorem sameRecords_redistribute {subtotal discount : Money} {lines lines' : List Line}
    {shares : List Money}
    (h : (redistribute subtotal discount).runOn lines = (.ok shares, lines')) :
    List.Forall₂ Line.SameRecords lines lines' :=
  (recharged_redistribute h).imp fun _ _ => Line.Recharged.sameRecords

/-- Spreading a discount does not depend on the records of the lines. -/
theorem redistribute_congr {subtotal discount : Money} {lines lines' others : List Line}
    {shares : List Money} (hsame : List.Forall₂ Line.SameButRecords lines others)
    (h : (redistribute subtotal discount).runOn lines = (.ok shares, lines')) :
    ∃ others', (redistribute subtotal discount).runOn others = (.ok shares, others') ∧
      List.Forall₂ Line.SameButRecords lines' others' := by
  suffices hspread : ∀ assigned, Redistribution.spread subtotal discount assigned lines =
      (.ok shares, lines') → ∃ others', Redistribution.spread subtotal discount assigned others =
        (.ok shares, others') ∧ List.Forall₂ Line.SameButRecords lines' others' from
    hspread _ h
  clear h
  induction hsame generalizing shares lines' with
  | nil =>
    intro assigned h
    obtain ⟨hshares, rfl⟩ := Prod.mk.inj h
    exact ⟨[], Prod.ext hshares rfl, .nil⟩
  | @cons line other rest others hline hrest ih =>
    intro assigned h
    cases hrest with
    | nil =>
      obtain ⟨remainder, line', hsub, hrun, rfl, rfl⟩ := Redistribution.spread_singleton_eq_ok.1 h
      exact ⟨_, Redistribution.spread_singleton_eq_ok.2
        ⟨remainder, _, hsub, Line.applyDiscount_congr hline hrun, rfl, rfl⟩, .cons rfl .nil⟩
    | cons hnext hmore =>
      obtain ⟨share, line', assigned', shares', rest', hshare, hrun, hadd, hspread, rfl, rfl⟩ :=
        Redistribution.spread_cons_cons_eq_ok.1 h
      obtain ⟨others', hothers, hsame'⟩ := ih assigned' hspread
      have hshare' : discount.share other.totalPrice subtotal = .ok share := by
        rw [hline]
        exact hshare
      exact ⟨_, Redistribution.spread_cons_cons_eq_ok.2 ⟨share, _, assigned', shares', others',
        hshare', Line.applyDiscount_congr hline hrun, hadd, hothers, rfl, rfl⟩, .cons rfl hsame'⟩

/-! ## Shares -/

/-- A line of one unit. -/
def unitLine (price : Money) : Line where
  key := ⟨1⟩
  variant := ⟨1⟩
  quantity := 1
  undiscountedUnitPrice := price
  discountedUnitPrice := price
  baseUnitPrice := price
  unitPrice := price
  unitDiscount := .zero price.currency
  totalPrice := price
  undiscountedTotalPrice := price
  discounts := []
  rules := []

section Shares

variable {subtotal discount : Money} {lines lines' : List Line} {shares : List Money}

/-- Each line has a share, in proportion to its total but for the last one, which is what the others
leave: the shares are the discount. -/
theorem redistribute_shares
    (h : (redistribute subtotal discount).runOn lines = (.ok shares, lines'))
    (hne : lines ≠ []) :
    shares.length = lines.length ∧
      List.Forall₂ (fun charge line' =>
        (Line.applyDiscount charge.2).runOn charge.1 = (.ok (), line')) (lines.zip shares) lines' ∧
      lines.dropLast.mapM (fun line => discount.share line.totalPrice subtotal) =
        .ok shares.dropLast ∧
      Money.total discount.currency shares = .ok discount ∧
      ∃ assigned last, Money.total discount.currency shares.dropLast = .ok assigned ∧
        discount.sub assigned = .ok last ∧ shares.getLast? = some last := by
  obtain ⟨portions, last, rfl, rfl, rfl, hportions, hlast, -, hremainder⟩ :=
    Redistribution.exists_portions h hne
  have hcurrency : ∀ share ∈ portions.map (·.share), share.currency = discount.currency := by
    simp only [List.forall_mem_map]
    exact fun portion hp => (Money.share_eq_ok (hportions portion hp).share_eq).2.2.1
  have hassigned : Money.total discount.currency (portions.map (·.share)) =
      .ok ⟨(portions.map (·.share.minor)).sum, discount.currency⟩ := by
    refine Money.total_eq_ok.2 ⟨hcurrency, ?_⟩
    rw [List.map_map]
    rfl
  simp only [List.dropLast_concat, List.getLast?_concat]
  refine ⟨by simp, ?_, ?_, ?_, _, last.share, hassigned, ?_, rfl⟩
  · rw [List.zip_append (by simp), List.zip_map']
    refine List.rel_append ?_ (.cons hlast .nil)
    rw [List.forall₂_map_left_iff, List.forall₂_map_right_iff, List.forall₂_same]
    exact fun portion hp => (hportions portion hp).line_eq
  · rw [mapM_eq_ok, List.forall₂_map_left_iff, List.forall₂_map_right_iff, List.forall₂_same]
    exact fun portion hp => (hportions portion hp).share_eq
  · refine Money.total_eq_ok.2 ⟨?_, ?_⟩
    · simp only [List.mem_append, List.mem_singleton]
      rintro share (hs | rfl)
      · exact hcurrency share hs
      · rw [hremainder]
    · simp [hremainder, Function.comp_def]
  · rw [Money.sub_eq_ok, hremainder]
    simp

/-- The subtotal need not be that of the lines. -/
theorem redistribute_shares_of_negative_subtotal :
    ∃ lines', (redistribute ⟨-7, .gbp⟩ ⟨10, .gbp⟩).runOn
        [unitLine ⟨1, .gbp⟩, unitLine ⟨2, .gbp⟩] = (.ok [⟨-1, .gbp⟩, ⟨11, .gbp⟩], lines') ∧
      Money.total .gbp [⟨-1, .gbp⟩, ⟨11, .gbp⟩] = .ok ⟨10, .gbp⟩ :=
  ⟨_, rfl, (@redistribute_shares ⟨-7, .gbp⟩ ⟨10, .gbp⟩
    [unitLine ⟨1, .gbp⟩, unitLine ⟨2, .gbp⟩] _ _ rfl (List.cons_ne_nil _ _)).2.2.2.1⟩

end Shares

/-! ## Totals

A discount that is no more than the subtotal takes from each line but the last at most its total.
The shares are rounded one by one, so the last line may find up to one minor unit too much or too
little for every other line but one. -/

namespace Redistribution

/-- The total of the line stays between zero and what it was. -/
def Lowered (line line' : Line) : Prop :=
  0 ≤ line'.totalPrice.minor ∧ line'.totalPrice.minor ≤ line.totalPrice.minor

/-- The totals together lose the discount, and none of them rises or becomes negative. -/
def InStep (subtotal discount : Money) (lines lines' : List Line) : Prop :=
  Money.total subtotal.currency (lines'.map (·.totalPrice)) = subtotal.sub discount ∧
    List.Forall₂ Lowered lines lines'

/-- A portion that leaves its line a total between zero and what it was, and that is less than one
minor unit away from the exact proportion. -/
structure Portion.Fair (subtotal discount : Money) (portion : Portion) : Prop where
  nonneg : 0 ≤ portion.share.minor
  le : portion.share.minor ≤ portion.line.totalPrice.minor
  total_eq : portion.line'.totalPrice =
    ⟨portion.line.totalPrice.minor - portion.share.minor, portion.line.totalPrice.currency⟩
  near : 0 < subtotal.minor →
    discount.minor * portion.line.totalPrice.minor - (subtotal.minor - 1) ≤
        subtotal.minor * portion.share.minor ∧
      subtotal.minor * portion.share.minor ≤
        discount.minor * portion.line.totalPrice.minor + (subtotal.minor - 1)

variable {subtotal discount : Money} {portion : Portion} {portions : List Portion}

theorem Portion.Fair.lowered (h : portion.Fair subtotal discount) :
    Lowered portion.line portion.line' := by
  have hnonneg := h.nonneg
  have hle := h.le
  rw [Lowered, h.total_eq]
  simp only
  omega

theorem Portion.Proportional.fair (hp : portion.Proportional subtotal discount)
    (hfits : fitsMinor subtotal.minor) (hlow : 0 ≤ discount.minor)
    (hhigh : discount.minor ≤ subtotal.minor) (hline : 0 ≤ portion.line.totalPrice.minor)
    (hpart : portion.line.totalPrice.minor ≤ subtotal.minor) :
    portion.Fair subtotal discount := by
  have hrange := fitsMinor_iff.1 hfits
  have hS : subtotal.minorUnits = subtotal.minor := Money.minorUnits_of_fits hfits
  have hD : discount.minorUnits = discount.minor :=
    Money.minorUnits_of_fits (fitsMinor_iff.2 (by omega))
  have ht : portion.line.totalPrice.minorUnits = portion.line.totalPrice.minor :=
    Money.minorUnits_of_fits (fitsMinor_iff.2 (by omega))
  have hshare : 0 ≤ portion.share.minor ∧
      portion.share.minor ≤ portion.line.totalPrice.minor := by
    rcases Int.le_iff_lt_or_eq.1 (show 0 ≤ subtotal.minor by omega) with hpos | hzero
    · constructor
      · refine Money.le_share hp.share_eq (hS ▸ hpos) ?_
        rw [hD, ht, Int.zero_mul]
        exact Int.mul_nonneg hlow hline
      · refine Money.share_le hp.share_eq (hS ▸ hpos) ?_
        rw [hD, ht, hS, Int.mul_comm]
        exact Int.mul_le_mul_of_nonneg_left hhigh hline
    · obtain ⟨-, -, -, ⟨-, hshare⟩ | ⟨_, hne, -⟩⟩ := Money.share_eq_ok hp.share_eq <;> omega
  obtain ⟨-, _, _, _, htotal, -, -, hline'⟩ := Line.applyDiscount_eq_ok.1 hp.line_eq
  refine ⟨hshare.1, hshare.2, ?_, fun hpos => ?_⟩
  · have hleft : 0 ≤ portion.line.totalPrice.minor - portion.share.minor := by omega
    rw [hline', htotal, Money.floorAtZero_of_le (by simp only; omega), max_eq_right hleft]
  · have hnear := Money.share_near hp.share_eq (hS ▸ hpos)
    rw [hD, ht, hS, Int.sub_mul, Int.add_mul, Int.mul_comm portion.share.minor] at hnear
    omega

/-- Less than one minor unit for each portion. -/
theorem sum_near (h : ∀ portion ∈ portions, portion.Fair subtotal discount)
    (hpos : 0 < subtotal.minor) :
    discount.minor * (portions.map (·.line.totalPrice.minor)).sum -
          portions.length * (subtotal.minor - 1) ≤
        subtotal.minor * (portions.map (·.share.minor)).sum ∧
      subtotal.minor * (portions.map (·.share.minor)).sum ≤
        discount.minor * (portions.map (·.line.totalPrice.minor)).sum +
          portions.length * (subtotal.minor - 1) := by
  induction portions with
  | nil => simp
  | cons portion rest ih =>
    have hfirst := (h portion List.mem_cons_self).near hpos
    have hrest := ih fun other ho => h other (List.mem_cons_of_mem _ ho)
    simp only [List.map_cons, List.sum_cons, List.length_cons, Nat.cast_add, Nat.cast_one,
      Int.mul_add, Int.add_mul, Int.one_mul]
    omega

theorem sum_share_bounds (h : ∀ portion ∈ portions, portion.Fair subtotal discount) :
    0 ≤ (portions.map (·.share.minor)).sum ∧
      (portions.map (·.share.minor)).sum ≤ (portions.map (·.line.totalPrice.minor)).sum := by
  refine ⟨List.sum_nonneg ?_, List.sum_le_sum fun portion hp => (h portion hp).le⟩
  rw [List.forall_mem_map]
  exact fun portion hp => (h portion hp).nonneg

theorem sum_line'_total (h : ∀ portion ∈ portions, portion.Fair subtotal discount) :
    (portions.map (·.line'.totalPrice.minor)).sum =
      (portions.map (·.line.totalPrice.minor)).sum - (portions.map (·.share.minor)).sum := by
  induction portions with
  | nil => rfl
  | cons portion rest ih =>
    have hrest := ih fun other ho => h other (List.mem_cons_of_mem _ ho)
    simp only [List.map_cons, List.sum_cons, (h portion List.mem_cons_self).total_eq, hrest]
    omega

/-- What is left for the last line is off by at most one minor unit for every other line but one. -/
theorem remainder_bounds (h : ∀ portion ∈ portions, portion.Fair subtotal discount)
    {last remainder : Int} (hlast : 0 ≤ last)
    (hsubtotal : (portions.map (·.line.totalPrice.minor)).sum + last = subtotal.minor)
    (hlow : 0 ≤ discount.minor) (hhigh : discount.minor ≤ subtotal.minor)
    (hremainder : remainder = discount.minor - (portions.map (·.share.minor)).sum) :
    -(portions.length - 1 : Nat) ≤ remainder ∧
      remainder ≤ last + (portions.length - 1 : Nat) := by
  obtain ⟨hshares, hsum⟩ := sum_share_bounds h
  rcases portions.eq_nil_or_concat with rfl | ⟨_, _, hne⟩
  · simp only [List.map_nil, List.sum_nil, List.length_nil] at *
    omega
  have hlength : 1 ≤ portions.length := by simp [hne]
  rcases Int.le_iff_lt_or_eq.1 (show 0 ≤ subtotal.minor by omega) with hpos | hzero
  · -- Scaled by the subtotal, each of the shares is off by less than the subtotal. The remainder is
    -- a whole number, so strictly less than one unit for each of them leaves one unit less in all.
    obtain ⟨hfrom, hto⟩ := sum_near h hpos
    have hleft := Int.mul_nonneg hlow hlast
    have hright := Int.mul_le_mul_of_nonneg_right hhigh hlast
    generalize (portions.map (·.share.minor)).sum = taken at *
    generalize (portions.map (·.line.totalPrice.minor)).sum = before at *
    generalize subtotal.minor = whole at *
    rw [Nat.cast_sub hlength, Nat.cast_one]
    subst hremainder hsubtotal
    constructor
    · by_contra hlt
      have hscaled : (before + last) * (discount.minor - taken) ≤
          (before + last) * -portions.length :=
        Int.mul_le_mul_of_nonneg_left (by omega) hpos.le
      nlinarith
    · by_contra hlt
      have hscaled : (before + last) * (last + portions.length) ≤
          (before + last) * (discount.minor - taken) :=
        Int.mul_le_mul_of_nonneg_left (by omega) hpos.le
      nlinarith
  · omega

/-- A discount within the subtotal of the lines is spread in fair portions. -/
theorem exists_fair_portions {lines lines' : List Line} {shares : List Money}
    (h : (redistribute subtotal discount).runOn lines = (.ok shares, lines')) (hne : lines ≠ [])
    (hlines : ∀ line ∈ lines, 0 ≤ line.totalPrice.minor)
    (hsubtotal : Money.total subtotal.currency (lines.map (·.totalPrice)) = .ok subtotal)
    (hfits : fitsMinor subtotal.minor) (hlow : 0 ≤ discount.minor)
    (hhigh : discount.minor ≤ subtotal.minor) :
    ∃ (portions : List Portion) (last : Portion),
      lines = portions.map (·.line) ++ [last.line] ∧
      shares = portions.map (·.share) ++ [last.share] ∧
      lines' = portions.map (·.line') ++ [last.line'] ∧
      (∀ portion ∈ portions, portion.Fair subtotal discount) ∧
      (∀ portion ∈ portions, portion.line.totalPrice.currency = subtotal.currency) ∧
      subtotal.currency = discount.currency ∧ 0 ≤ last.line.totalPrice.minor ∧
      (portions.map (·.line.totalPrice.minor)).sum + last.line.totalPrice.minor =
        subtotal.minor ∧
      last.share.minor = discount.minor - (portions.map (·.share.minor)).sum ∧
      last.line'.totalPrice = ⟨max 0 (last.line.totalPrice.minor - last.share.minor),
        subtotal.currency⟩ := by
  have hrange := fitsMinor_iff.1 hfits
  obtain ⟨portions, last, rfl, rfl, rfl, hportions, hlast, -, hremainder⟩ := exists_portions h hne
  obtain ⟨hcurrency, hsum⟩ := Money.total_eq_ok.1 hsubtotal
  replace hsum := congrArg Money.minor hsum
  simp only [List.map_append, List.map_map, List.map_cons, List.map_nil, List.sum_append,
    List.sum_singleton, List.mem_append, List.mem_singleton, or_imp, forall_and, forall_eq,
    List.forall_mem_map, Function.comp_def] at hlines hcurrency hsum
  have hfair : ∀ portion ∈ portions, portion.Fair subtotal discount := by
    intro portion hp
    have hle : portion.line.totalPrice.minor ≤ (portions.map (·.line.totalPrice.minor)).sum :=
      List.single_le_sum (List.forall_mem_map.2 hlines.1) _ (List.mem_map_of_mem hp)
    exact (hportions portion hp).fair hfits hlow hhigh (hlines.1 portion hp) (by omega)
  have hshares := (sum_share_bounds hfair).1
  obtain ⟨hsame, _, _, _, htotal, -, -, hline'⟩ := Line.applyDiscount_eq_ok.1 hlast
  rw [hcurrency.2, hremainder] at hsame
  refine ⟨portions, last, rfl, rfl, rfl, hfair, hcurrency.1, hsame, hlines.2, hsum.symm, ?_, ?_⟩
  · rw [hremainder]
    simp
  · -- The last line loses no more than the whole discount, so its floor at zero is a true one.
    have hmin : -9223372036854775808 ≤ last.line.totalPrice.minor - last.share.minor := by
      rw [hremainder]
      simp only [Money.minor_zero]
      omega
    rw [hline', htotal, Money.floorAtZero_of_le hmin, hcurrency.2]

end Redistribution

section Totals

open Redistribution

variable {subtotal discount : Money} {lines lines' : List Line} {shares : List Money}

/-- A discount within the subtotal of the lines lowers every line but the last. The last line takes
what is left down to zero, so the totals lose the discount but for what the last line is not worth;
they stay in step exactly when what is left is between zero and the total of the last line. -/
theorem redistribute_totals
    (h : (redistribute subtotal discount).runOn lines = (.ok shares, lines')) (hne : lines ≠ [])
    (hlines : ∀ line ∈ lines, 0 ≤ line.totalPrice.minor)
    (hsubtotal : Money.total subtotal.currency (lines.map (·.totalPrice)) = .ok subtotal)
    (hfits : fitsMinor subtotal.minor) (hlow : 0 ≤ discount.minor)
    (hhigh : discount.minor ≤ subtotal.minor) :
    ∃ init last init' last' remainder, lines = init ++ [last] ∧ lines' = init' ++ [last'] ∧
      shares.getLast? = some remainder ∧ List.Forall₂ Lowered init init' ∧
      last'.totalPrice.minor = max 0 (last.totalPrice.minor - remainder.minor) ∧
      Money.total subtotal.currency (lines'.map (·.totalPrice)) =
        .ok ⟨subtotal.minor - discount.minor + max 0 (remainder.minor - last.totalPrice.minor),
          subtotal.currency⟩ ∧
      (InStep subtotal discount lines lines' ↔
        0 ≤ remainder.minor ∧ remainder.minor ≤ last.totalPrice.minor) ∧
      -(lines.length - 2 : Nat) ≤ remainder.minor ∧
      remainder.minor ≤ last.totalPrice.minor + (lines.length - 2 : Nat) := by
  obtain ⟨portions, last, rfl, rfl, rfl, hfair, hcurrency, hsame, hlast, hsum, hremainder,
    hlast'⟩ := exists_fair_portions h hne hlines hsubtotal hfits hlow hhigh
  have hlowered : ∀ portion ∈ portions, Lowered portion.line portion.line' :=
    fun portion hp => (hfair portion hp).lowered
  have htotal : Money.total subtotal.currency
      ((portions.map (·.line') ++ [last.line']).map (·.totalPrice)) =
        .ok ⟨subtotal.minor - discount.minor +
          max 0 (last.share.minor - last.line.totalPrice.minor), subtotal.currency⟩ := by
    refine Money.total_eq_ok.2 ⟨?_, ?_⟩
    · simp only [List.map_append, List.map_map, List.map_cons, List.map_nil, List.mem_append,
        List.mem_singleton, or_imp, forall_and, forall_eq, List.forall_mem_map]
      refine ⟨fun portion hp => ?_, by rw [hlast']⟩
      simp only [Function.comp_apply, (hfair portion hp).total_eq, hcurrency portion hp]
    · have hsum' := sum_line'_total hfair
      simp only [List.map_append, List.map_map, List.map_cons, List.map_nil, List.sum_append,
        List.sum_singleton, Function.comp_def, hlast', hsum', Money.mk.injEq, and_true]
      omega
  refine ⟨_, last.line, _, last.line', last.share, rfl, rfl, List.getLast?_concat, ?_,
    by rw [hlast'], htotal, ?_, ?_⟩
  · rw [List.forall₂_map_left_iff, List.forall₂_map_right_iff, List.forall₂_same]
    exact hlowered
  · have hlines' : List.Forall₂ Lowered (portions.map (·.line) ++ [last.line])
        (portions.map (·.line') ++ [last.line']) ↔ Lowered last.line last.line' := by
      rw [← List.map_singleton, ← List.map_singleton, ← List.map_append, ← List.map_append,
        List.forall₂_map_left_iff, List.forall₂_map_right_iff, List.forall₂_same]
      simp only [List.mem_append, List.mem_singleton, or_imp, forall_and, forall_eq]
      exact and_iff_right hlowered
    rw [InStep, htotal, Money.sub_eq_ok.2 ⟨hsame, rfl⟩, hlines', Lowered, hlast']
    simp only [Except.ok.injEq, Money.mk.injEq, and_true]
    omega
  · simpa using remainder_bounds hfair hlast hsum hlow hhigh hremainder

/-- With three lines the last one finds at most one minor unit too much or too little. -/
theorem redistribute_totals_of_three_lines :
    ∃ shares lines' remainder, (redistribute ⟨600, .gbp⟩ ⟨100, .gbp⟩).runOn
        [unitLine ⟨100, .gbp⟩, unitLine ⟨200, .gbp⟩, unitLine ⟨300, .gbp⟩] =
          (.ok shares, lines') ∧
      shares.getLast? = some remainder ∧ -1 ≤ remainder.minor := by
  obtain ⟨_, _, _, _, remainder, -, -, hlast, -, -, -, -, hle, -⟩ :=
    @redistribute_totals ⟨600, .gbp⟩ ⟨100, .gbp⟩
      [unitLine ⟨100, .gbp⟩, unitLine ⟨200, .gbp⟩, unitLine ⟨300, .gbp⟩] _ _
      rfl (by decide) (by decide) rfl (by decide) (by decide) (by decide)
  exact ⟨_, _, remainder, rfl, hlast, hle⟩

/-- Two pence spread over five pennies: the shares of the first four are rounded down to nothing,
and the last penny is not worth the two pence that are left for it. -/
theorem redistribute_not_always_inStep :
    ¬ ∀ (subtotal discount : Money) (lines lines' : List Line) (shares : List Money), lines ≠ [] →
      (∀ line ∈ lines, 0 ≤ line.totalPrice.minor) →
      Money.total subtotal.currency (lines.map (·.totalPrice)) = .ok subtotal →
      fitsMinor subtotal.minor → 0 ≤ discount.minor → discount.minor ≤ subtotal.minor →
      (redistribute subtotal discount).runOn lines = (.ok shares, lines') →
      InStep subtotal discount lines lines' := by
  intro h
  have hstep := h ⟨5, .gbp⟩ ⟨2, .gbp⟩ (List.replicate 5 (unitLine ⟨1, .gbp⟩)) _ _ (by decide)
    (by decide) rfl (by decide) (by decide) (by decide) rfl
  exact absurd (Except.ok.inj hstep.1) (by decide)

/-- A penny spread over two pennies and a line that costs nothing: a half is rounded up for each of
the pennies, and the last line is charged the penny that was taken off too much. -/
example : ∃ lines', (redistribute ⟨2, .gbp⟩ ⟨1, .gbp⟩).runOn
      [unitLine ⟨1, .gbp⟩, unitLine ⟨1, .gbp⟩, unitLine ⟨0, .gbp⟩] =
        (.ok [⟨1, .gbp⟩, ⟨1, .gbp⟩, ⟨-1, .gbp⟩], lines') ∧
    lines'.map (·.totalPrice) = [⟨0, .gbp⟩, ⟨0, .gbp⟩, ⟨1, .gbp⟩] :=
  ⟨_, rfl, rfl⟩

end Totals

end Retail
