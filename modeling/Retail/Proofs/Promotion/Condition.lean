import Retail.Assembly.Offers
import Retail.Proofs.Arithmetic.Basic
import Retail.Proofs.Decimal.Precision

/-!
# What a written condition means

A condition of an order rule is written as a tree of entries and translated into a tree of
conditions. Both trees say the same of any prices, but they do not have the same form: an entry
without alternatives sets none, where a choice between no conditions never holds, and an entry that
gives a single condition becomes this condition.

## Main definitions

* `ConditionEntry.Mentions`: the numbers that stand anywhere in an entry
* `BoundsEntry.Admits`, `ConditionEntry.Met`: what entries say of prices
* `OrderPredicate.given`: what an entry becomes, from what its parts become

## Main results

* `ConditionEntry.induction`: induction over an entry and the entries below it
* `OrderPredicate.holds_joined`, `OrderPredicate.holds_given`: several conditions, whatever the form
  they are given
* `ConditionEntry.predicate_faithful`: the translation fails only for a number that is not one, and
  says what the entry says
-/

namespace Retail

/-! ## Entries -/

/-- A number stands in the bounds. -/
def BoundsEntry.Mentions (bounds : BoundsEntry) (text : String) : Prop :=
  text ∈ bounds.atLeast ∨ text ∈ bounds.atMost ∨ text ∈ bounds.exactly

/-- The price is within the numbers that the bounds are written as. -/
structure BoundsEntry.Admits (bounds : BoundsEntry) (price : Money) : Prop where
  atLeast : ∀ text ∈ bounds.atLeast, ∃ bound, readNumber text = .ok bound ∧
    bound.toRat ≤ price.major
  atMost : ∀ text ∈ bounds.atMost, ∃ bound, readNumber text = .ok bound ∧
    price.major ≤ bound.toRat
  exactly : ∀ text ∈ bounds.exactly, ∃ bound, readNumber text = .ok bound ∧
    price.major = bound.toRat

namespace ConditionEntry

/-- A number stands in the bounds of the entry or anywhere below it. -/
inductive Mentions (text : String) : ConditionEntry → Prop where
  | all {all any subtotal total entry} (mem : entry ∈ all) (h : Mentions text entry) :
    Mentions text (.mk all any subtotal total)
  | any {all any subtotal total entry} (mem : entry ∈ any) (h : Mentions text entry) :
    Mentions text (.mk all any subtotal total)
  | subtotal {all any subtotal total bounds} (mem : bounds ∈ subtotal)
    (h : bounds.Mentions text) : Mentions text (.mk all any subtotal total)
  | total {all any subtotal total bounds} (mem : bounds ∈ total) (h : bounds.Mentions text) :
    Mentions text (.mk all any subtotal total)

/-- Everything that is given holds: all conditions, one of the alternatives if there are any, and
the bounds. -/
def Met (prices : BasePrices) : ConditionEntry → Prop
  | .mk all any subtotal total =>
    (∀ entry, entry ∈ all → entry.Met prices) ∧
      (any = [] ∨ ∃ entry, ∃ _ : entry ∈ any, entry.Met prices) ∧
      (∀ bounds ∈ subtotal, bounds.Admits prices.subtotal) ∧
      ∀ bounds ∈ total, bounds.Admits prices.total

/-- What holds of an entry where it holds of those right below it, holds of every entry. -/
@[elab_as_elim]
theorem induction {motive : ConditionEntry → Prop}
    (mk : ∀ all any subtotal total, (∀ entry ∈ all, motive entry) →
      (∀ entry ∈ any, motive entry) → motive (.mk all any subtotal total)) :
    ∀ entry, motive entry
  | .mk all any subtotal total =>
    mk all any subtotal total (fun entry _ => induction mk entry) fun entry _ => induction mk entry

end ConditionEntry

/-! ## Bounds -/

theorem PriceRange.contains_iff {range : PriceRange} {price : Money} :
    range.contains price = true ↔ (∀ bound ∈ range.atLeast, bound.toRat ≤ price.major) ∧
      (∀ bound ∈ range.atMost, price.major ≤ bound.toRat) ∧
      ∀ bound ∈ range.exactly, price.major = bound.toRat := by
  simp only [contains, Bool.and_eq_true, Option.all_eq_true, Decimal.le_iff,
    Decimal.sameValue_iff_toRat_eq, Money.toRat_toMajor, and_assoc, Option.mem_def]

namespace BoundsEntry

variable {bounds : BoundsEntry} {range : PriceRange} {text : String}

theorem range_eq_ok :
    bounds.range = .ok range ↔ bounds.atLeast.mapM readNumber = .ok range.atLeast ∧
      bounds.atMost.mapM readNumber = .ok range.atMost ∧
      bounds.exactly.mapM readNumber = .ok range.exactly := by
  simp only [BoundsEntry.range, bind_eq_ok, pure_eq_ok]
  constructor
  · rintro ⟨atLeast, hatLeast, atMost, hatMost, exactly, hexactly, rfl⟩
    exact ⟨hatLeast, hatMost, hexactly⟩
  · rintro ⟨hatLeast, hatMost, hexactly⟩
    exact ⟨_, hatLeast, _, hatMost, _, hexactly, rfl⟩

/-- The range contains the prices that the written bounds admit. -/
theorem contains_iff_admits {price : Money} (h : bounds.range = .ok range) :
    range.contains price = true ↔ bounds.Admits price := by
  obtain ⟨hatLeast, hatMost, hexactly⟩ := range_eq_ok.1 h
  have hbound {q : Decimal → Prop} {o : Option String} {o' : Option Decimal}
      (h : o.mapM readNumber = .ok o') :
      (∀ bound ∈ o', q bound) ↔ ∀ text ∈ o, ∃ bound, readNumber text = .ok bound ∧ q bound := by
    refine (forall_mem_iff_of_optionMapM_eq_ok h fun text bound hread => ?_).symm
    simp [hread]
  rw [PriceRange.contains_iff, hbound hatLeast, hbound hatMost, hbound hexactly]
  exact ⟨fun ⟨hlow, hhigh, hexact⟩ => ⟨hlow, hhigh, hexact⟩,
    fun h => ⟨h.atLeast, h.atMost, h.exactly⟩⟩

theorem exists_readNumber_of_mentions (h : bounds.range = .ok range) (hm : bounds.Mentions text) :
    ∃ number, readNumber text = .ok number := by
  obtain ⟨hatLeast, hatMost, hexactly⟩ := range_eq_ok.1 h
  rcases hm with hm | hm | hm
  · obtain ⟨number, -, hread⟩ := exists_of_mem_of_optionMapM_eq_ok hatLeast hm
    exact ⟨number, hread⟩
  · obtain ⟨number, -, hread⟩ := exists_of_mem_of_optionMapM_eq_ok hatMost hm
    exact ⟨number, hread⟩
  · obtain ⟨number, -, hread⟩ := exists_of_mem_of_optionMapM_eq_ok hexactly hm
    exact ⟨number, hread⟩

theorem failsOnly_range (bounds : BoundsEntry) :
    FailsOnly (fun e => ∃ text, bounds.Mentions text ∧ readNumber text = .error e)
      bounds.range := by
  refine .bind (failsOnly_optionMapM fun text hmem e he => ?_) fun _ _ => ?_
  · exact ⟨text, .inl hmem, he⟩
  refine .bind (failsOnly_optionMapM fun text hmem e he => ?_) fun _ _ => ?_
  · exact ⟨text, .inr (.inl hmem), he⟩
  refine .map (failsOnly_optionMapM fun text hmem e he => ?_)
  exact ⟨text, .inr (.inr hmem), he⟩

end BoundsEntry

/-! ## Conditions -/

namespace OrderPredicate

variable {prices : BasePrices} {conditions : List OrderPredicate}

theorem holds_all_iff :
    (OrderPredicate.all conditions).holds prices = true ↔
      ∀ condition ∈ conditions, condition.holds prices = true := by
  rw [holds]
  induction conditions with
  | nil => simp [allHold]
  | cons condition rest ih => rw [allHold, Bool.and_eq_true, ih, List.forall_mem_cons]

theorem holds_any_iff :
    (OrderPredicate.any conditions).holds prices = true ↔
      ∃ condition ∈ conditions, condition.holds prices = true := by
  rw [holds]
  induction conditions with
  | nil => simp [anyHolds]
  | cons condition rest ih => rw [anyHolds, Bool.or_eq_true, ih, List.exists_mem_cons_iff]

/-- Several conditions must all hold, whatever the form they are given. -/
theorem holds_joined :
    (joined conditions).holds prices = true ↔
      ∀ condition ∈ conditions, condition.holds prices = true := by
  unfold joined
  split
  · rw [List.forall_mem_singleton]
  · exact holds_all_iff

/-- What an entry becomes, from what its parts become. -/
def given (alls anys : List OrderPredicate) (subtotal total : Option PriceRange) :
    OrderPredicate :=
  joined ((if alls.isEmpty then [] else [.all alls]) ++ (if anys.isEmpty then [] else [.any anys])
    ++ (subtotal.map .subtotal).toList ++ (total.map .total).toList)

/-- Parts without conditions do not bind. -/
theorem holds_given {alls anys : List OrderPredicate} {subtotal total : Option PriceRange} :
    (given alls anys subtotal total).holds prices = true ↔
      (∀ condition ∈ alls, condition.holds prices = true) ∧
      (anys = [] ∨ ∃ condition ∈ anys, condition.holds prices = true) ∧
      (∀ range ∈ subtotal, range.contains prices.subtotal = true) ∧
      ∀ range ∈ total, range.contains prices.total = true := by
  rw [given, holds_joined]
  simp only [List.forall_mem_append, and_assoc]
  refine and_congr ?_ (and_congr ?_ (and_congr ?_ ?_))
  · cases alls with
    | nil => simp
    | cons condition rest =>
      rw [List.isEmpty_cons, if_neg Bool.false_ne_true, List.forall_mem_singleton, holds_all_iff]
  · cases anys with
    | nil => simp
    | cons condition rest =>
      rw [List.isEmpty_cons, if_neg Bool.false_ne_true, List.forall_mem_singleton, holds_any_iff,
        or_iff_right (List.cons_ne_nil _ _)]
  · cases subtotal <;> simp [holds]
  · cases total <;> simp [holds]

end OrderPredicate

namespace ConditionEntry

variable {entry : ConditionEntry} {all any : List ConditionEntry}
  {subtotal total : Option BoundsEntry} {predicate : OrderPredicate} {prices : BasePrices}
  {text : String}

theorem predicates_eq_mapM (entries : List ConditionEntry) :
    predicates entries = entries.mapM ConditionEntry.predicate := by
  induction entries with
  | nil => rw [predicates, List.mapM_nil]; rfl
  | cons entry rest ih => rw [predicates, List.mapM_cons, ih]

theorem predicate_eq_ok :
    (ConditionEntry.mk all any subtotal total).predicate = .ok predicate ↔
      ∃ alls anys sub tot,
        List.Forall₂ (fun entry condition => entry.predicate = .ok condition) all alls ∧
        List.Forall₂ (fun entry condition => entry.predicate = .ok condition) any anys ∧
        subtotal.mapM BoundsEntry.range = .ok sub ∧ total.mapM BoundsEntry.range = .ok tot ∧
        OrderPredicate.given alls anys sub tot = predicate := by
  simp only [ConditionEntry.predicate, predicates_eq_mapM, bind_eq_ok, pure_eq_ok, mapM_eq_ok,
    exists_and_left, OrderPredicate.given]

theorem failsOnly_predicate (entry : ConditionEntry) :
    FailsOnly (fun e => ∃ text, entry.Mentions text ∧ readNumber text = .error e)
      entry.predicate := by
  induction entry using ConditionEntry.induction with
  | mk all any subtotal total hall hany =>
    rw [ConditionEntry.predicate, predicates_eq_mapM, predicates_eq_mapM]
    -- The parts one after the other, each with the numbers that stand in it.
    refine .bind (failsOnly_mapM fun entry hmem e he => ?_) fun _ _ => ?_
    · obtain ⟨text, hm, hread⟩ := hall entry hmem e he
      exact ⟨text, .all hmem hm, hread⟩
    refine .bind (failsOnly_mapM fun entry hmem e he => ?_) fun _ _ => ?_
    · obtain ⟨text, hm, hread⟩ := hany entry hmem e he
      exact ⟨text, .any hmem hm, hread⟩
    refine .bind (failsOnly_optionMapM fun bounds hmem e he => ?_) fun _ _ => ?_
    · obtain ⟨text, hm, hread⟩ := bounds.failsOnly_range e he
      exact ⟨text, .subtotal hmem hm, hread⟩
    refine .map (failsOnly_optionMapM fun bounds hmem e he => ?_)
    obtain ⟨text, hm, hread⟩ := bounds.failsOnly_range e he
    exact ⟨text, .total hmem hm, hread⟩

theorem exists_readNumber_of_mentions (h : entry.predicate = .ok predicate)
    (hm : entry.Mentions text) : ∃ number, readNumber text = .ok number := by
  induction hm generalizing predicate with
  | all mem _ ih =>
    obtain ⟨_, _, _, _, hall, -⟩ := predicate_eq_ok.1 h
    obtain ⟨_, -, hentry⟩ := exists_right_of_forall₂ hall mem
    exact ih hentry
  | any mem _ ih =>
    obtain ⟨_, _, _, _, -, hany, -⟩ := predicate_eq_ok.1 h
    obtain ⟨_, -, hentry⟩ := exists_right_of_forall₂ hany mem
    exact ih hentry
  | subtotal mem hm =>
    obtain ⟨_, _, _, _, -, -, hsubtotal, -⟩ := predicate_eq_ok.1 h
    obtain ⟨_, -, hrange⟩ := exists_of_mem_of_optionMapM_eq_ok hsubtotal mem
    exact BoundsEntry.exists_readNumber_of_mentions hrange hm
  | total mem hm =>
    obtain ⟨_, _, _, _, -, -, -, htotal, -⟩ := predicate_eq_ok.1 h
    obtain ⟨_, -, hrange⟩ := exists_of_mem_of_optionMapM_eq_ok htotal mem
    exact BoundsEntry.exists_readNumber_of_mentions hrange hm

theorem holds_iff_met (h : entry.predicate = .ok predicate) :
    predicate.holds prices = true ↔ entry.Met prices := by
  induction entry using ConditionEntry.induction generalizing predicate with
  | mk all any subtotal total hall hany =>
    obtain ⟨alls, anys, sub, tot, halls, hanys, hsub, htot, rfl⟩ := predicate_eq_ok.1 h
    have halls' := forall₂_imp_of_mem halls (S := fun entry condition =>
      entry.Met prices ↔ condition.holds prices = true) fun entry hmem _ _ h =>
        (hall entry hmem h).symm
    have hanys' := forall₂_imp_of_mem hanys (S := fun entry condition =>
      entry.Met prices ↔ condition.holds prices = true) fun entry hmem _ _ h =>
        (hany entry hmem h).symm
    have hempty : anys = [] ↔ any = [] := by
      rw [← List.length_eq_zero_iff, ← List.length_eq_zero_iff, hanys.length_eq]
    rw [OrderPredicate.holds_given, Met, hempty,
      ← forall_mem_iff_of_forall₂ halls' fun _ _ h => h,
      ← exists_mem_iff_of_forall₂ hanys' fun _ _ h => h,
      ← forall_mem_iff_of_optionMapM_eq_ok hsub fun _ _ h =>
        (BoundsEntry.contains_iff_admits h).symm,
      ← forall_mem_iff_of_optionMapM_eq_ok htot fun _ _ h =>
        (BoundsEntry.contains_iff_admits h).symm]
    simp only [exists_prop]

/-- The translation fails exactly where a number that is written anywhere in the entry is none, and
names such a number. Otherwise the condition holds of the prices of which everything holds that the
entry gives. -/
theorem predicate_faithful (entry : ConditionEntry) :
    ((∃ e, entry.predicate = .error e) ↔
      ∃ text, entry.Mentions text ∧ ∃ e, readNumber text = .error e) ∧
    (∀ e, entry.predicate = .error e →
      ∃ text, entry.Mentions text ∧ readNumber text = .error e) ∧
    ∀ predicate, entry.predicate = .ok predicate →
      ∀ prices, predicate.holds prices = true ↔ entry.Met prices := by
  refine ⟨⟨?_, ?_⟩, entry.failsOnly_predicate, fun predicate h prices => holds_iff_met h⟩
  · rintro ⟨e, he⟩
    obtain ⟨text, hm, hread⟩ := entry.failsOnly_predicate e he
    exact ⟨text, hm, e, hread⟩
  · rintro ⟨text, hm, e, hread⟩
    cases hpredicate : entry.predicate with
    | error e => exact ⟨e, rfl⟩
    | ok predicate =>
      obtain ⟨number, hnumber⟩ := exists_readNumber_of_mentions hpredicate hm
      rw [hread] at hnumber
      exact nomatch hnumber

/-- A single bound becomes a condition by itself, and what is not a number becomes none. -/
theorem predicate_faithful_of_minimum :
    (∃ predicate,
      (ConditionEntry.mk [] [] (some ⟨some "10", none, none⟩) none).predicate = .ok predicate ∧
      predicate.holds ⟨⟨1000, .gbp⟩, ⟨1000, .gbp⟩⟩ = true ∧
      Met ⟨⟨1000, .gbp⟩, ⟨1000, .gbp⟩⟩ (.mk [] [] (some ⟨some "10", none, none⟩) none)) ∧
    ∃ e, (ConditionEntry.mk [] [] (some ⟨some "ten", none, none⟩) none).predicate = .error e :=
  ⟨⟨_, rfl, rfl, ((predicate_faithful _).2.2 _ rfl _).1 rfl⟩,
    (predicate_faithful _).1.2 ⟨"ten", .subtotal rfl (.inl rfl), _, rfl⟩⟩

example (prices : BasePrices) : Met prices (.mk [] [] none none) := by simp [Met]

end ConditionEntry

end Retail
