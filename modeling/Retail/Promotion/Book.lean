import Retail.Promotion.Basic
import Retail.Promotion.Relation

/-!
# The book of promotions

All promotions and rules, and which variants the catalogue rules select.

## Main definitions

* `Promotions`: the book
* `PromotionError`: why an entry fails
* `Promotions.activeRules`: the rules of active promotions
* `Promotions.updateRelation`: the variants of some rules replaced
* `Promotions.assignVariants`: the variants of all rules found from the catalogue
-/

namespace Retail

/-- Why the book refuses: a promotion or a rule is not in it. -/
inductive PromotionError where
  | promotionNotFound (key : PromotionKey)
  | ruleNotFound (key : RuleKey)
  deriving DecidableEq, Repr

/-- All promotions, their rules, and which variants catalogue rules are for. -/
structure Promotions where
  promotions : Registry .promotion Promotion
  rules : Registry .rule Rule
  relation : VariantRelation

/-- How many pairs a relation gained and lost. -/
structure RelationChanges where
  added : Nat
  removed : Nat
  deriving DecidableEq, Repr

namespace Promotions

/-- The book without promotions. -/
def empty : Promotions := ⟨.empty, .empty, .empty⟩

/-- Enters a promotion without rules. -/
def addPromotion (book : Promotions) (promotion : Promotion) : Promotions × PromotionKey :=
  ({ book with promotions := book.promotions.push promotion }, book.promotions.nextKey)

/-- Enters a rule; its promotion must be in the book. -/
def addRule (book : Promotions) (rule : Rule) : Except PromotionError (Promotions × RuleKey) :=
  if book.promotions.contains rule.promotion then
    .ok ({ book with rules := book.rules.push rule }, book.rules.nextKey)
  else .error (.promotionNotFound rule.promotion)

/-- A rule with its promotion. -/
def ruleWithPromotion? (book : Promotions) (key : RuleKey) : Option (Rule × Promotion) := do
  let rule ← book.rules.get? key
  let promotion ← book.promotions.get? rule.promotion
  some (rule, promotion)

/-- The rules whose promotion is active, in the order of their keys. -/
def activeRules (book : Promotions) (now : Instant) : List (RuleKey × Rule) :=
  book.rules.entries.filter fun (_, rule) =>
    (book.promotions.get? rule.promotion).any (·.isActive now)

/-- The active rules that select a variant, in the order of their keys. -/
def activeRulesOf (book : Promotions) (variant : VariantKey) (now : Instant) :
    List (RuleKey × Rule) :=
  (book.relation.rulesOf variant).filterMap fun key => do
    let (rule, promotion) ← book.ruleWithPromotion? key
    if promotion.isActive now then some (key, rule) else none

/-- The order rules that are active in a channel and whose condition holds. -/
def rulesForPrices (book : Promotions) (channel : ChannelKey) (prices : BasePrices)
    (now : Instant) : List (RuleKey × Rule) :=
  (book.activeRules now).filter fun (_, rule) =>
    rule.channels.contains channel && rule.appliesTo prices

/-! ## Variants of rules -/

/-- Replaces the variants of the listed rules. Nothing changes where a listed rule is not in the
book or a pair names a rule that is not listed. -/
def updateRelation (book : Promotions) (rules : List RuleKey) (pairs : List RuleVariant) :
    Except PromotionError (Promotions × RelationChanges) :=
  match rules.find? (!book.rules.contains ·) with
  | some missing => .error (.ruleNotFound missing)
  | none =>
    let wanted := VariantRelation.ofList pairs
    match wanted.toList.find? (!rules.contains ·.1) with
    | some (missing, _) => .error (.ruleNotFound missing)
    | none =>
      let kept := book.relation.filter fun pair => !rules.contains pair.1 || wanted.contains pair
      let added := wanted.filter (!book.relation.contains ·)
      .ok ({ book with relation := kept.insertAll added.toList },
        ⟨added.size, book.relation.size - kept.size⟩)

/-- The pairs of rules and the variants that they select in a catalogue. -/
def selectedPairs (book : Promotions) (catalogue : Catalogue) : List RuleVariant :=
  book.rules.entries.flatMap fun (key, rule) =>
    if rule.cataloguePredicate.isEmpty then []
    else (catalogue.variants.keys.filter (rule.cataloguePredicate.selects catalogue)).map (key, ·)

/-- Finds the variants of all rules from the catalogue. -/
def assignVariants (book : Promotions) (catalogue : Catalogue) :
    Except PromotionError (Promotions × RelationChanges) :=
  book.updateRelation book.rules.keys (book.selectedPairs catalogue)

/-- The products of the variants that some rules select. -/
def productsOf (book : Promotions) (catalogue : Catalogue) (rules : List RuleKey) :
    List ProductKey :=
  ((book.relation.filter (rules.contains ·.1)).toList.filterMap fun (_, variant) =>
    (catalogue.variants.get? variant).map (·.product)).eraseDups

end Promotions

end Retail
