import Retail.Proofs.Failure
import Retail.Proofs.Key
import Retail.Proofs.Promotion.Relation

/-!
# Variants found from the catalogue

When the variants of all rules are found from the catalogue, each rule has those that its predicate
lists, whatever variants it had before. No old pair is left over: every pair is one of a rule that
is in the book, because rules stay in the book and an update names known rules only, and all rules
of the book are updated at once.

## Main definitions

* `CataloguePredicate.Lists`: a variant that a predicate lists, itself or through its product
* `Promotions.Selects`: a variant that a rule of the book is for
* `Promotions.Known`: every rule that has variants is in the book
* `Promotions.after`: the book after requests

## Main results

* `Promotions.Known.serve`, `Promotions.known_after`: a request, and any number of them
* `Promotions.selected_of_assignVariants`: what is found
-/

namespace Retail

variable {catalogue : Catalogue} {key : VariantKey}

/-- The variant is in the catalogue, and the predicate lists it or its product, the category of its
product or one of the collections. What is not in the catalogue is not the product of a variant. -/
def CataloguePredicate.Lists (p : CataloguePredicate) (catalogue : Catalogue) (key : VariantKey) :
    Prop :=
  ∃ variant, catalogue.variants.get? key = some variant ∧
    (key ∈ p.variants ∨ ∃ product, catalogue.products.get? variant.product = some product ∧
      (variant.product ∈ p.products ∨ (∃ category ∈ product.category, category ∈ p.categories) ∨
        ∃ collection ∈ product.collections, collection ∈ p.collections))

theorem CataloguePredicate.selectsProduct_iff {p : CataloguePredicate} {key : ProductKey}
    {product : Product} :
    p.selectsProduct key product = true ↔
      key ∈ p.products ∨ (∃ category ∈ product.category, category ∈ p.categories) ∨
        ∃ collection ∈ product.collections, collection ∈ p.collections := by
  simp [selectsProduct, Option.any_eq_true, or_assoc]

/-- Of the variants of the catalogue those are selected that are listed. -/
theorem CataloguePredicate.lists_iff {p : CataloguePredicate} :
    p.Lists catalogue key ↔ key ∈ catalogue.variants.keys ∧ p.selects catalogue key = true := by
  have hkey : key ∈ catalogue.variants.keys ↔
      ∃ variant, catalogue.variants.get? key = some variant := by
    simp [Registry.keys, Registry.get?_eq_some]
  have hselects {variant : Variant} (h : catalogue.variants.get? key = some variant) :
      p.selects catalogue key = true ↔ key ∈ p.variants ∨
        ∃ product, catalogue.products.get? variant.product = some product ∧
          p.selectsProduct variant.product product = true := by
    simp [selects, h, Option.any_eq_true]
  simp only [Lists, hkey, ← selectsProduct_iff]
  constructor
  · rintro ⟨variant, hvariant, hlisted⟩
    exact ⟨⟨variant, hvariant⟩, (hselects hvariant).2 hlisted⟩
  · rintro ⟨⟨variant, hvariant⟩, hlisted⟩
    exact ⟨variant, hvariant, (hselects hvariant).1 hlisted⟩

/-- A predicate that lists a variant is not empty. -/
theorem CataloguePredicate.Lists.isEmpty_eq_false {p : CataloguePredicate}
    (h : p.Lists catalogue key) : p.isEmpty = false := by
  obtain ⟨variant, -, hvariant | ⟨product, -, hproduct | ⟨category, -, hcategory⟩ |
    ⟨collection, -, hcollection⟩⟩⟩ := h
  · simp [isEmpty, List.ne_nil_of_mem hvariant]
  · simp [isEmpty, List.ne_nil_of_mem hproduct]
  · simp [isEmpty, List.ne_nil_of_mem hcategory]
  · simp [isEmpty, List.ne_nil_of_mem hcollection]

namespace Promotions

variable {book book' : Promotions} {rules : List RuleKey} {pairs : List RuleVariant}
  {rule : RuleKey} {variant : VariantKey} {changes : RelationChanges} {request : Request}

/-- The rule is in the book, and its predicate lists the variant. An empty predicate lists none. -/
def Selects (book : Promotions) (catalogue : Catalogue) (rule : RuleKey) (variant : VariantKey) :
    Prop :=
  ∃ terms, book.rules.get? rule = some terms ∧ terms.cataloguePredicate.Lists catalogue variant

theorem mem_selectedPairs :
    (rule, variant) ∈ book.selectedPairs catalogue ↔ book.Selects catalogue rule variant := by
  simp only [selectedPairs, List.mem_flatMap, Prod.exists, Selects, ← Registry.get?_eq_some]
  constructor
  · rintro ⟨key, terms, hterms, hpair⟩
    split at hpair
    · contradiction
    · simp only [List.mem_map, List.mem_filter, Prod.mk.injEq] at hpair
      obtain ⟨_, hlisted, rfl, rfl⟩ := hpair
      exact ⟨terms, hterms, CataloguePredicate.lists_iff.2 hlisted⟩
  · rintro ⟨terms, hterms, hlists⟩
    refine ⟨rule, terms, hterms, ?_⟩
    rw [if_neg (by simp [hlists.isEmpty_eq_false])]
    refine List.mem_map_of_mem (List.mem_filter.2 ?_)
    exact CataloguePredicate.lists_iff.1 hlists

/-- What a rule selects does not depend on what is replaced. -/
theorem Replaced.selects_iff (h : book.Replaced rules pairs book' changes) :
    book'.Selects catalogue rule variant ↔ book.Selects catalogue rule variant := by
  rw [Selects, h.rules_eq, Selects]

/-! ## Known rules -/

/-- Every rule that has variants is in the book. -/
def Known (book : Promotions) : Prop :=
  ∀ rule variant, book.Relates rule variant → ∃ terms, book.rules.get? rule = some terms

theorem known_empty : Known .empty := fun _ _ h => nomatch h

/-- The rules of new pairs are listed, and so they are in the book. -/
theorem Known.replaced (h : book.Known) (hmisses : ∀ rule, ¬ book.Misses rules pairs rule)
    (hreplaced : book.Replaced rules pairs book' changes) : book'.Known := by
  intro rule variant hrelates
  rw [hreplaced.rules_eq]
  by_cases hrule : rule ∈ rules
  · have hknown : book.rules.get? rule ≠ none := fun hnone => hmisses rule (.inl ⟨hrule, hnone⟩)
    exact Option.ne_none_iff_exists'.1 hknown
  · exact h rule variant ((hreplaced.relates_other rule hrule variant).1 hrelates)

theorem Known.updateRelation (h : book.Known)
    (hresult : book.updateRelation rules pairs = .ok (book', changes)) : book'.Known := by
  rcases book.updateRelation_cases rules pairs with
    ⟨missing, -, herror⟩ | ⟨hmisses, _, _, hok, hreplaced⟩
  · rw [hresult] at herror
    contradiction
  · obtain ⟨rfl, -⟩ := Prod.mk.inj (Except.ok.inj (hresult.symm.trans hok))
    exact h.replaced hmisses hreplaced

/-- Rules stay in the book. -/
theorem Known.addRule {terms : Rule} (h : book.Known)
    (hresult : book.addRule terms = .ok (book', rule)) : book'.Known := by
  rw [Promotions.addRule] at hresult
  split at hresult
  · obtain ⟨rfl, -⟩ := Prod.mk.inj (Except.ok.inj hresult)
    intro other variant hrelates
    obtain ⟨terms, hterms⟩ := h other variant hrelates
    exact ⟨terms, Registry.get?_push_of_eq_some hterms⟩
  · contradiction

/-- A request keeps rules known, whether it is refused or not. -/
theorem Known.serve (request : Request) : Step.Keeps Known request.serve := by
  intro book h
  cases hresult : request.result book with
  | error e => rwa [Request.runOn_serve_of_error hresult]
  | ok served =>
    obtain ⟨book', answer⟩ := served
    rw [Request.runOn_serve_of_ok hresult]
    cases request with
    | addPromotion promotion =>
      obtain ⟨rfl, -⟩ := Prod.mk.inj (Except.ok.inj hresult)
      exact h
    | addRule terms =>
      obtain ⟨⟨_, _⟩, hadd, hserved⟩ := map_eq_ok.1 hresult
      obtain ⟨rfl, -⟩ := Prod.mk.inj hserved
      exact h.addRule hadd
    | updateRelation rules pairs =>
      obtain ⟨⟨_, _⟩, hupdate, hserved⟩ := map_eq_ok.1 hresult
      obtain ⟨rfl, -⟩ := Prod.mk.inj hserved
      exact h.updateRelation hupdate
    | assignVariants catalogue =>
      obtain ⟨⟨_, _⟩, hupdate, hserved⟩ := map_eq_ok.1 hresult
      obtain ⟨rfl, -⟩ := Prod.mk.inj hserved
      exact h.updateRelation hupdate

/-- The book that requests lead to from the empty one, whichever of them are refused. -/
def after (requests : List Request) : Promotions :=
  requests.foldl (fun book request => (request.serve.runOn book).2) .empty

theorem known_after (requests : List Request) : (after requests).Known := by
  induction requests using List.reverseRecOn with
  | nil => exact known_empty
  | append_singleton requests request ih =>
    rw [after, List.foldl_append]
    exact Known.serve request _ ih

/-! ## What is found -/

theorem mem_keys_rules :
    rule ∈ book.rules.keys ↔ ∃ terms, book.rules.get? rule = some terms := by
  simp [Registry.keys, Registry.get?_eq_some]

/-- All rules of the book are listed, and no others are named. -/
theorem not_misses_selectedPairs (rule : RuleKey) :
    ¬ book.Misses book.rules.keys (book.selectedPairs catalogue) rule := by
  rintro (⟨hrule, hnone⟩ | ⟨hrule, variant, hpair⟩)
  · obtain ⟨terms, hterms⟩ := mem_keys_rules.1 hrule
    rw [hnone] at hterms
    contradiction
  · obtain ⟨terms, hterms, -⟩ := mem_selectedPairs.1 hpair
    exact hrule (mem_keys_rules.2 ⟨terms, hterms⟩)

/-- The variants of all rules are found, and each rule has those that it selects. -/
theorem Known.exists_assignVariants (h : book.Known) (catalogue : Catalogue) :
    ∃ book' changes,
      (Request.assignVariants catalogue).serve.runOn book = (.ok (.changes changes), book') ∧
      book.Replaced book.rules.keys (book.selectedPairs catalogue) book' changes ∧
      ∀ rule variant, book'.Relates rule variant ↔ book'.Selects catalogue rule variant := by
  rcases book.updateRelation_cases book.rules.keys (book.selectedPairs catalogue) with
    ⟨missing, hmisses, -⟩ | ⟨-, book', changes, hresult, hreplaced⟩
  · exact absurd hmisses (not_misses_selectedPairs missing)
  have hserve : (Request.assignVariants catalogue).serve.runOn book =
      (.ok (.changes changes), book') := by
    apply Request.runOn_serve_of_ok
    rw [Request.result, Promotions.assignVariants, hresult]
    rfl
  refine ⟨book', changes, hserve, hreplaced, fun rule variant => ?_⟩
  rw [hreplaced.selects_iff, ← mem_selectedPairs]
  by_cases hrule : rule ∈ book.rules.keys
  · exact hreplaced.relates_listed rule hrule variant
  · rw [hreplaced.relates_other rule hrule variant]
    constructor
    · exact fun hrelates => absurd (mem_keys_rules.2 (h rule variant hrelates)) hrule
    · intro hpair
      obtain ⟨terms, hterms, -⟩ := mem_selectedPairs.1 hpair
      exact absurd (mem_keys_rules.2 ⟨terms, hterms⟩) hrule

/-- Where each rule has the variants that it selects, there is nothing to find. -/
theorem runOn_assignVariants_of_selected
    (h : ∀ rule variant, book.Relates rule variant ↔ book.Selects catalogue rule variant) :
    (Request.assignVariants catalogue).serve.runOn book = (.ok (.changes ⟨0, 0⟩), book) := by
  have hknown : book.Known := by
    intro rule variant hrelates
    obtain ⟨terms, hterms, -⟩ := (h rule variant).1 hrelates
    exact ⟨terms, hterms⟩
  obtain ⟨book', ⟨added, removed⟩, hserve, hreplaced, hselected⟩ :=
    hknown.exists_assignVariants catalogue
  have hpairs : (book.selectedPairs catalogue).toFinset = book.pairsOf book.rules.keys := by
    ext ⟨rule, variant⟩
    have hrule : book.Relates rule variant → rule ∈ book.rules.keys :=
      fun hrelates => mem_keys_rules.2 (hknown rule variant hrelates)
    rw [List.mem_toFinset, mem_selectedPairs, ← h, pairsOf, Finset.mem_filter, List.mem_toFinset]
    exact (and_iff_left_of_imp hrule).symm
  have hrelation : book'.relation = book.relation := by
    apply VariantRelation.eq_of_forall_mem_iff
    rintro ⟨rule, variant⟩
    exact (hselected rule variant).trans (hreplaced.selects_iff.trans (h rule variant).symm)
  have hbook : book' = book := by
    cases book'
    cases book
    obtain rfl := hreplaced.promotions_eq
    obtain rfl := hreplaced.rules_eq
    obtain rfl := hrelation
    rfl
  have hadded := hreplaced.added_eq
  have hremoved := hreplaced.removed_eq
  rw [hpairs, Finset.sdiff_self, Finset.card_empty] at hadded hremoved
  obtain rfl : added = 0 := hadded
  obtain rfl : removed = 0 := hremoved
  rw [hserve, hbook]

/-- After any requests the variants of all rules can be found from any catalogue. Then a variant is
one of those of a rule exactly when the rule selects it, and finding them again changes nothing. -/
theorem selected_of_assignVariants (requests : List Request) (catalogue : Catalogue) :
    ∃ book' changes,
      (Request.assignVariants catalogue).serve.runOn (after requests) =
        (.ok (.changes changes), book') ∧
      book'.promotions = (after requests).promotions ∧ book'.rules = (after requests).rules ∧
      (∀ rule variant, book'.Relates rule variant ↔ book'.Selects catalogue rule variant) ∧
      (Request.assignVariants catalogue).serve.runOn book' = (.ok (.changes ⟨0, 0⟩), book') := by
  obtain ⟨book', changes, hserve, hreplaced, hselected⟩ :=
    (known_after requests).exists_assignVariants catalogue
  exact ⟨book', changes, hserve, hreplaced.promotions_eq, hreplaced.rules_eq, hselected,
    runOn_assignVariants_of_selected hselected⟩

end Promotions

end Retail
