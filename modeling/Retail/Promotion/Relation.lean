import Retail.Key

/-!
# Rules and their variants

The relation between catalogue rules and the variants that they select, kept as a list of pairs in
ascending order without repetitions.

## Main definitions

* `RuleVariant`: a pair of a rule and a variant
* `VariantRelation`: a set of pairs
* `VariantRelation.insert`, `VariantRelation.filter`: the set with a pair, and part of the set
-/

namespace Retail

/-- A rule and a variant that it selects. -/
abbrev RuleVariant := RuleKey × VariantKey

/-- The order by rule, then by variant. -/
def RuleVariant.before (a b : RuleVariant) : Prop :=
  a.1.index < b.1.index ∨ a.1.index = b.1.index ∧ a.2.index < b.2.index

instance (a b : RuleVariant) : Decidable (a.before b) :=
  inferInstanceAs (Decidable (_ ∨ _))

theorem RuleVariant.eq_of_not_before {a b : RuleVariant} (hab : ¬ a.before b) (hba : ¬ b.before a) :
    a = b := by
  obtain ⟨⟨r⟩, ⟨v⟩⟩ := a
  obtain ⟨⟨r'⟩, ⟨v'⟩⟩ := b
  simp only [before] at hab hba
  obtain rfl : r = r' := by omega
  obtain rfl : v = v' := by omega
  rfl

theorem RuleVariant.before_trans {a b c : RuleVariant} (hab : a.before b) (hbc : b.before c) :
    a.before c := by
  simp only [before] at *
  omega

/-- A set of pairs in ascending order. -/
structure VariantRelation where
  toList : List RuleVariant
  ascending : toList.Pairwise RuleVariant.before

namespace VariantRelation

/-- No rule is for any variant. -/
def empty : VariantRelation := ⟨[], .nil⟩

instance : Inhabited VariantRelation := ⟨empty⟩

/-- An ascending list with a pair at its place. -/
def insertInto (pair : RuleVariant) : List RuleVariant → List RuleVariant
  | [] => [pair]
  | first :: rest =>
    if pair.before first then pair :: first :: rest
    else if first.before pair then first :: insertInto pair rest
    else first :: rest

theorem mem_insertInto {pair x : RuleVariant} {pairs : List RuleVariant} :
    x ∈ insertInto pair pairs ↔ x = pair ∨ x ∈ pairs := by
  induction pairs with
  | nil => simp [insertInto]
  | cons first rest ih =>
    unfold insertInto
    split
    · simp
    · split
      · simp only [List.mem_cons, ih]
        grind
      · rename_i h h'
        obtain rfl := RuleVariant.eq_of_not_before h h'
        simp

theorem pairwise_insertInto {pair : RuleVariant} {pairs : List RuleVariant}
    (h : pairs.Pairwise RuleVariant.before) :
    (insertInto pair pairs).Pairwise RuleVariant.before := by
  induction pairs with
  | nil => simp [insertInto]
  | cons first rest ih =>
    obtain ⟨hfirst, hrest⟩ := List.pairwise_cons.1 h
    unfold insertInto
    split
    · rename_i hp
      refine List.pairwise_cons.2 ⟨fun x hx => ?_, h⟩
      rcases List.mem_cons.1 hx with rfl | hx
      · exact hp
      · exact RuleVariant.before_trans hp (hfirst x hx)
    · split
      · rename_i hp
        refine List.pairwise_cons.2 ⟨fun x hx => ?_, ih hrest⟩
        rcases mem_insertInto.1 hx with rfl | hx
        · exact hp
        · exact hfirst x hx
      · exact h

/-- Whether a pair is in the relation. -/
def contains (relation : VariantRelation) (pair : RuleVariant) : Bool :=
  relation.toList.contains pair

/-- The number of pairs. -/
def size (relation : VariantRelation) : Nat := relation.toList.length

/-- The relation with one more pair, or the same one if the pair is in it. -/
def insert (relation : VariantRelation) (pair : RuleVariant) : VariantRelation :=
  ⟨insertInto pair relation.toList, pairwise_insertInto relation.ascending⟩

/-- The relation with more pairs. -/
def insertAll (relation : VariantRelation) (pairs : List RuleVariant) : VariantRelation :=
  pairs.foldl insert relation

/-- The relation of the listed pairs, in whatever order and how often they are listed. -/
def ofList (pairs : List RuleVariant) : VariantRelation := empty.insertAll pairs

/-- The pairs that pass a test. -/
def filter (relation : VariantRelation) (p : RuleVariant → Bool) : VariantRelation :=
  ⟨relation.toList.filter p, relation.ascending.filter _⟩

/-- The rules of a variant, in the order of their keys. -/
def rulesOf (relation : VariantRelation) (variant : VariantKey) : List RuleKey :=
  (relation.toList.filter (·.2 == variant)).map Prod.fst

/-- The variants of a rule. -/
def variantsOf (relation : VariantRelation) (rule : RuleKey) : List VariantKey :=
  (relation.toList.filter (·.1 == rule)).map Prod.snd

end VariantRelation

end Retail
