import Mathlib.Data.Finset.Card
import Mathlib.Data.List.Dedup
import Retail.Promotion.Book
import Retail.Step

/-!
# Replacing the variants of rules

An update of the relation gives the rules that it lists the variants of its pairs, and leaves all
other rules alone. It is refused before anything changes where a rule is missed: where a listed rule
is not in the book, or a pair names a rule that is not listed.

## Main definitions

* `Promotions.Relates`: the book has a variant for a rule
* `Promotions.Misses`: what an update is refused for
* `Promotions.Replaced`: the book after an update
* `Promotions.Request`, `Promotions.Request.serve`: what is asked of the book

## Main results

* `VariantRelation.mem_ofList` and its like: the pairs of a relation
* `Promotions.updateRelation_cases`: an update is refused or done as a whole
* `Promotions.replaced_or_unchanged`: the same with the book that is left
-/

namespace Retail

/-! ## Sets of pairs -/

namespace VariantRelation

variable {relation other : VariantRelation} {pair : RuleVariant} {pairs : List RuleVariant}

theorem nodup_toList (relation : VariantRelation) : relation.toList.Nodup := by
  refine relation.ascending.imp fun {a b} hbefore heq => ?_
  subst heq
  simp only [RuleVariant.before] at hbefore
  omega

theorem contains_iff : relation.contains pair = true ↔ pair ∈ relation.toList := by
  simp [contains]

theorem mem_filter {p : RuleVariant → Bool} :
    pair ∈ (relation.filter p).toList ↔ pair ∈ relation.toList ∧ p pair := List.mem_filter

theorem mem_insertAll :
    pair ∈ (relation.insertAll pairs).toList ↔ pair ∈ relation.toList ∨ pair ∈ pairs := by
  induction pairs generalizing relation with
  | nil => simp [insertAll]
  | cons first rest ih =>
    have hrest : relation.insertAll (first :: rest) = (relation.insert first).insertAll rest := rfl
    have hfirst : pair ∈ (relation.insert first).toList ↔ pair = first ∨ pair ∈ relation.toList :=
      mem_insertInto
    rw [hrest, ih, hfirst, List.mem_cons]
    tauto

theorem mem_ofList : pair ∈ (ofList pairs).toList ↔ pair ∈ pairs := by
  rw [ofList, mem_insertAll]
  simp [empty]

/-- Relations of the same pairs are the same, since the pairs are in order. -/
theorem eq_of_forall_mem_iff (h : ∀ pair, pair ∈ relation.toList ↔ pair ∈ other.toList) :
    relation = other := by
  have hperm : relation.toList.Perm other.toList :=
    (List.perm_ext_iff_of_nodup relation.nodup_toList other.nodup_toList).2 h
  have heq : relation.toList = other.toList := by
    refine hperm.eq_of_pairwise (fun a b _ _ hab hba => ?_) relation.ascending other.ascending
    simp only [RuleVariant.before] at hab hba
    omega
  cases relation
  cases other
  obtain rfl := heq
  rfl

/-- As many pairs are lost as do not pass. -/
theorem size_sub_size_filter (p : RuleVariant → Bool) :
    relation.size - (relation.filter p).size = (relation.filter (!p ·)).size := by
  have hsplit : relation.toList.length =
      (relation.toList.filter p).length + (relation.toList.filter (!p ·)).length :=
    List.length_eq_length_filter_add p
  simp only [size, filter]
  omega

/-- The number of pairs is that of the set. -/
theorem size_eq_card : relation.size = relation.toList.toFinset.card :=
  (List.toFinset_card_of_nodup relation.nodup_toList).symm

end VariantRelation

/-! ## Updates -/

namespace Promotions

variable {book book' : Promotions} {rules : List RuleKey} {pairs : List RuleVariant}
  {rule missing : RuleKey} {variant : VariantKey} {changes : RelationChanges}

/-- The variant is one of those that the book has for the rule. -/
def Relates (book : Promotions) (rule : RuleKey) (variant : VariantKey) : Prop :=
  (rule, variant) ∈ book.relation.toList

/-- The pairs that the book has for the listed rules. -/
def pairsOf (book : Promotions) (rules : List RuleKey) : Finset RuleVariant :=
  book.relation.toList.toFinset.filter (·.1 ∈ rules)

/-- The rule is listed and not in the book, or a pair names it and it is not listed. -/
def Misses (book : Promotions) (rules : List RuleKey) (pairs : List RuleVariant) (rule : RuleKey) :
    Prop :=
  rule ∈ rules ∧ book.rules.get? rule = none ∨ rule ∉ rules ∧ ∃ variant, (rule, variant) ∈ pairs

/-- The listed rules have the variants of the pairs, and all other rules those that they had. -/
structure Replaced (book : Promotions) (rules : List RuleKey) (pairs : List RuleVariant)
    (book' : Promotions) (changes : RelationChanges) : Prop where
  promotions_eq : book'.promotions = book.promotions
  rules_eq : book'.rules = book.rules
  relates_listed : ∀ rule ∈ rules, ∀ variant, book'.Relates rule variant ↔ (rule, variant) ∈ pairs
  relates_other : ∀ rule, rule ∉ rules →
    ∀ variant, book'.Relates rule variant ↔ book.Relates rule variant
  added_eq : changes.added = (pairs.toFinset \ book.pairsOf rules).card
  removed_eq : changes.removed = (book.pairsOf rules \ pairs.toFinset).card

/-- Pairs of listed rules are put in the place of those that the rules had. -/
theorem replaced_of_listed (book : Promotions) (hlisted : ∀ pair ∈ pairs, pair.1 ∈ rules) :
    let wanted := VariantRelation.ofList pairs
    let kept := book.relation.filter fun pair => !rules.contains pair.1 || wanted.contains pair
    let added := wanted.filter (!book.relation.contains ·)
    book.Replaced rules pairs { book with relation := kept.insertAll added.toList }
      ⟨added.size, book.relation.size - kept.size⟩ := by
  intro wanted kept added
  have hadded (pair : RuleVariant) :
      pair ∈ added.toList ↔ pair ∈ pairs ∧ pair ∉ book.relation.toList := by
    rw [VariantRelation.mem_filter, VariantRelation.mem_ofList, Bool.not_eq_true',
      ← Bool.not_eq_true, VariantRelation.contains_iff]
  have hkept (pair : RuleVariant) :
      pair ∈ kept.toList ↔ pair ∈ book.relation.toList ∧ (pair.1 ∉ rules ∨ pair ∈ pairs) := by
    rw [VariantRelation.mem_filter, Bool.or_eq_true, VariantRelation.contains_iff,
      VariantRelation.mem_ofList]
    simp
  have hmem (pair : RuleVariant) : pair ∈ (kept.insertAll added.toList).toList ↔
      pair ∈ pairs ∨ pair.1 ∉ rules ∧ pair ∈ book.relation.toList := by
    rw [VariantRelation.mem_insertAll, hkept, hadded]
    tauto
  refine ⟨rfl, rfl, fun rule hrule variant => ?_, fun rule hrule variant => ?_, ?_, ?_⟩
  · rw [Relates, hmem]
    simp [hrule]
  · have hnone : (rule, variant) ∉ pairs := fun hpair => hrule (hlisted _ hpair)
    rw [Relates, Relates, hmem]
    simp [hrule, hnone]
  · show added.size = _
    rw [VariantRelation.size_eq_card]
    apply congrArg
    ext pair
    rw [List.mem_toFinset, hadded, Finset.mem_sdiff, List.mem_toFinset, pairsOf, Finset.mem_filter,
      List.mem_toFinset]
    have hpair := hlisted pair
    tauto
  · show book.relation.size - kept.size = _
    rw [VariantRelation.size_sub_size_filter, VariantRelation.size_eq_card]
    apply congrArg
    ext pair
    rw [List.mem_toFinset, VariantRelation.mem_filter, Finset.mem_sdiff, List.mem_toFinset, pairsOf,
      Finset.mem_filter, List.mem_toFinset, Bool.not_eq_true', Bool.or_eq_false_iff,
      ← Bool.not_eq_true (VariantRelation.contains _ _), VariantRelation.contains_iff,
      VariantRelation.mem_ofList]
    simp [and_assoc]

/-- An update is refused for a rule that it misses, or else it is done. -/
theorem updateRelation_cases (book : Promotions) (rules : List RuleKey) (pairs : List RuleVariant) :
    (∃ missing, book.Misses rules pairs missing ∧
        book.updateRelation rules pairs = .error (.ruleNotFound missing)) ∨
      (∀ rule, ¬ book.Misses rules pairs rule) ∧ ∃ book' changes,
        book.updateRelation rules pairs = .ok (book', changes) ∧
        book.Replaced rules pairs book' changes := by
  have hcontains (rule : RuleKey) :
      (!book.rules.contains rule) = true ↔ book.rules.get? rule = none := by
    rw [Registry.contains_eq_isSome]
    simp
  cases hunknown : rules.find? (!book.rules.contains ·) with
  | some missing =>
    have hmissing := List.find?_some hunknown
    refine .inl ⟨missing, .inl ⟨List.mem_of_find?_eq_some hunknown, (hcontains _).1 hmissing⟩, ?_⟩
    simp only [updateRelation, hunknown]
  | none =>
    cases hunlisted : (VariantRelation.ofList pairs).toList.find? (!rules.contains ·.1) with
    | some pair =>
      have hpair := VariantRelation.mem_ofList.1 (List.mem_of_find?_eq_some hunlisted)
      have hrule : pair.1 ∉ rules := by simpa using List.find?_some hunlisted
      refine .inl ⟨pair.1, .inr ⟨hrule, pair.2, hpair⟩, ?_⟩
      simp only [updateRelation, hunknown, hunlisted]
    | none =>
      rw [List.find?_eq_none] at hunknown hunlisted
      have hlisted : ∀ pair ∈ pairs, pair.1 ∈ rules := by
        intro pair hpair
        simpa using hunlisted pair (VariantRelation.mem_ofList.2 hpair)
      refine .inr ⟨?_, _, _, ?_, replaced_of_listed book hlisted⟩
      · rintro rule (⟨hrule, hnone⟩ | ⟨hrule, variant, hpair⟩)
        · exact hunknown rule hrule ((hcontains rule).2 hnone)
        · exact hrule (hlisted _ hpair)
      · rw [← List.find?_eq_none] at hunknown hunlisted
        simp only [updateRelation, hunknown, hunlisted]

/-! ## Requests -/

/-- What is asked of the book. -/
inductive Request where
  | addPromotion (promotion : Promotion)
  | addRule (rule : Rule)
  | updateRelation (rules : List RuleKey) (pairs : List RuleVariant)
  | assignVariants (catalogue : Catalogue)

/-- What is answered to a request that is not refused. -/
inductive Answer where
  | promotion (key : PromotionKey)
  | rule (key : RuleKey)
  | changes (changes : RelationChanges)

/-- What a request makes of the book, with the answer. -/
def Request.result (book : Promotions) : Request → Except PromotionError (Promotions × Answer)
  | .addPromotion promotion => .ok ((book.addPromotion promotion).map id .promotion)
  | .addRule rule => (book.addRule rule).map (·.map id .rule)
  | .updateRelation rules pairs => (book.updateRelation rules pairs).map (·.map id .changes)
  | .assignVariants catalogue => (book.assignVariants catalogue).map (·.map id .changes)

/-- The book serves a request; one that is refused leaves the book as it is. -/
def Request.serve (request : Request) : Step Promotions PromotionError Answer := .of fun book =>
  match request.result book with
  | .error e => (.error e, book)
  | .ok (book, answer) => (.ok answer, book)

section Serve

variable {request : Request} {answer : Answer} {e : PromotionError}

theorem Request.runOn_serve_of_error (h : request.result book = .error e) :
    request.serve.runOn book = (.error e, book) := by
  rw [serve, Step.runOn_of, h]

theorem Request.runOn_serve_of_ok (h : request.result book = .ok (book', answer)) :
    request.serve.runOn book = (.ok answer, book') := by
  rw [serve, Step.runOn_of, h]

end Serve

/-- An update of the relation is refused exactly where it misses a rule, and then nothing changes.
Where it is not, the listed rules have the variants of the pairs and nothing else changes; what is
answered is how many pairs are new and how many are gone. -/
theorem replaced_or_unchanged (book : Promotions) (rules : List RuleKey)
    (pairs : List RuleVariant) :
    (∃ missing, book.Misses rules pairs missing ∧
        (Request.updateRelation rules pairs).serve.runOn book =
          (.error (.ruleNotFound missing), book)) ∨
      (∀ rule, ¬ book.Misses rules pairs rule) ∧ ∃ book' changes,
        (Request.updateRelation rules pairs).serve.runOn book = (.ok (.changes changes), book') ∧
        book.Replaced rules pairs book' changes := by
  rcases book.updateRelation_cases rules pairs with
    ⟨missing, hmisses, hresult⟩ | ⟨hmisses, book', changes, hresult, hreplaced⟩
  · refine .inl ⟨missing, hmisses, Request.runOn_serve_of_error ?_⟩
    rw [Request.result, hresult]
    rfl
  · refine .inr ⟨hmisses, book', changes, Request.runOn_serve_of_ok ?_, hreplaced⟩
    rw [Request.result, hresult]
    rfl

end Promotions

end Retail
