import Retail.Promotion.Offer
import Retail.Proofs.Discount.Value
import Retail.Proofs.Key

/-!
# The rule that is chosen

Among the rules that apply, the first one of the largest amount is chosen. Amounts are compared as
minor units of 64 bits, which an amount beyond them does not have.

## Main definitions

* `Promotions.Offers`: a rule of an active promotion that a channel has
* `Promotions.Nonnegative`: rules whose values are not below zero
* `FirstLargest`: the first of the candidates whose amount is largest

## Main results

* `Promotions.mem_rulesForPrices`, `Promotions.mem_activeRulesOf`: the rules that apply
* `eq_or_firstLargest_of_eq_ok`: the choice among candidates
* `bestReward_eq_some`, `offers_of_bestOffer_eq_ok`: the choice among rules
-/

namespace Retail

/-! ## Rules that apply -/

namespace Promotions

variable {book : Promotions} {key : RuleKey} {rule : Rule} {channel : ChannelKey} {now : Instant}
  {prices : BasePrices} {variant : VariantKey}

/-- The rule belongs to a promotion that is active. -/
structure Active (book : Promotions) (key : RuleKey) (rule : Rule) (now : Instant) : Prop where
  entered : book.rules.get? key = some rule
  active : ∃ promotion, book.promotions.get? rule.promotion = some promotion ∧
    promotion.isActive now

/-- The rule belongs to a promotion that is active, and the channel has it. -/
structure Offers (book : Promotions) (key : RuleKey) (rule : Rule) (channel : ChannelKey)
    (now : Instant) : Prop extends Active book key rule now where
  available : channel ∈ rule.channels

/-- No rule has a value below zero. -/
def Nonnegative (book : Promotions) : Prop :=
  ∀ rule ∈ book.rules.values, 0 ≤ rule.value.value.mantissa

instance (book : Promotions) : Decidable book.Nonnegative :=
  inferInstanceAs (Decidable (∀ rule ∈ book.rules.values, 0 ≤ rule.value.value.mantissa))

theorem Nonnegative.get? (h : book.Nonnegative) (hrule : book.rules.get? key = some rule) :
    0 ≤ rule.value.value.mantissa :=
  h rule (List.mem_map_of_mem (Registry.get?_eq_some.1 hrule))

theorem mem_activeRules : (key, rule) ∈ book.activeRules now ↔ book.Active key rule now := by
  rw [activeRules, List.mem_filter, ← Registry.get?_eq_some, Option.any_eq_true]
  constructor
  · rintro ⟨hentered, promotion, hpromotion, hactive⟩
    exact ⟨hentered, promotion, hpromotion, hactive⟩
  · rintro ⟨hentered, promotion, hpromotion, hactive⟩
    exact ⟨hentered, promotion, hpromotion, hactive⟩

/-- The rules for base prices are the order rules whose condition holds. -/
theorem mem_rulesForPrices :
    (key, rule) ∈ book.rulesForPrices channel prices now ↔
      book.Offers key rule channel now ∧ rule.appliesTo prices := by
  rw [rulesForPrices, List.mem_filter, mem_activeRules, Bool.and_eq_true, List.contains_iff_mem]
  constructor
  · rintro ⟨hactive, havailable, happlies⟩
    exact ⟨⟨hactive, havailable⟩, happlies⟩
  · rintro ⟨⟨hactive, havailable⟩, happlies⟩
    exact ⟨hactive, havailable, happlies⟩

/-- The rules of a variant are those that are active and related to it. -/
theorem mem_activeRulesOf :
    (key, rule) ∈ book.activeRulesOf variant now ↔
      book.Active key rule now ∧ book.relation.contains (key, variant) := by
  simp only [activeRulesOf, VariantRelation.rulesOf, List.mem_filterMap, List.mem_map,
    List.mem_filter, Prod.exists, beq_iff_eq]
  constructor
  · rintro ⟨_, ⟨found, _, ⟨hmem, rfl⟩, rfl⟩, hrule⟩
    obtain ⟨⟨_, promotion⟩, hfound, hif⟩ := Option.bind_eq_some_iff.1 hrule
    obtain ⟨_, hentered, hbind⟩ := Option.bind_eq_some_iff.1 hfound
    obtain ⟨_, hpromotion, hpair⟩ := Option.bind_eq_some_iff.1 hbind
    cases hpair
    simp only at hif
    split at hif
    · rename_i hactive
      cases hif
      exact ⟨⟨hentered, promotion, hpromotion, hactive⟩, List.contains_iff_mem.2 hmem⟩
    · contradiction
  · rintro ⟨⟨hentered, promotion, hpromotion, hactive⟩, hrelated⟩
    refine ⟨key, ⟨key, variant, ⟨List.contains_iff_mem.1 hrelated, rfl⟩, rfl⟩, ?_⟩
    simp [ruleWithPromotion?, hentered, hpromotion, hactive]

/-- The rules of a variant stand in the order of their keys. -/
theorem ascending_activeRulesOf (book : Promotions) (variant : VariantKey) (now : Instant) :
    (book.activeRulesOf variant now).Pairwise fun a b => a.1.index < b.1.index := by
  have hkeys : (book.relation.rulesOf variant).Pairwise fun a b => a.index < b.index := by
    rw [VariantRelation.rulesOf, List.pairwise_map]
    refine (book.relation.ascending.filter _).imp_of_mem fun {a b} ha hb hbefore => ?_
    have hsame : a.2 = b.2 := by
      rw [beq_iff_eq.1 (List.mem_filter.1 ha).2, beq_iff_eq.1 (List.mem_filter.1 hb).2]
    rcases hbefore with hlt | ⟨-, hlt⟩
    · exact hlt
    · exact absurd hlt (hsame ▸ Nat.lt_irrefl _)
  rw [activeRulesOf, List.pairwise_filterMap]
  refine hkeys.imp fun hlt x hx y hy => ?_
  obtain ⟨_, -, hx⟩ := Option.bind_eq_some_iff.1 hx
  obtain ⟨_, -, hy⟩ := Option.bind_eq_some_iff.1 hy
  simp only [Option.ite_none_right_eq_some, Option.some.injEq] at hx hy
  obtain ⟨-, rfl⟩ := hx
  obtain ⟨-, rfl⟩ := hy
  exact hlt

theorem mem_offersIn {rules : List (RuleKey × Rule)} {discount : DiscountValue} :
    (key, discount) ∈ offersIn rules channel ↔
      ∃ rule, (key, rule) ∈ rules ∧ channel ∈ rule.channels ∧ discount = rule.value := by
  simp only [offersIn, List.mem_filterMap, Option.map_eq_some_iff, Rule.discountIn, Prod.exists,
    List.contains_iff_mem]
  constructor
  · rintro ⟨_, rule, hrule, _, hdiscount, hpair⟩
    cases hpair
    split at hdiscount
    · rename_i havailable
      exact ⟨rule, hrule, havailable, (Option.some.inj hdiscount).symm⟩
    · contradiction
  · rintro ⟨rule, hrule, havailable, rfl⟩
    exact ⟨key, rule, hrule, rule.value, by rw [if_pos havailable]; rfl, rfl⟩

theorem ascending_offersIn {rules : List (RuleKey × Rule)}
    (h : rules.Pairwise fun a b => a.1.index < b.1.index) :
    (offersIn rules channel).Pairwise fun a b => a.1.index < b.1.index := by
  rw [offersIn, List.pairwise_filterMap]
  refine h.imp fun hlt x hx y hy => ?_
  obtain ⟨_, -, rfl⟩ := Option.map_eq_some_iff.1 hx
  obtain ⟨_, -, rfl⟩ := Option.map_eq_some_iff.1 hy
  exact hlt

end Promotions

/-! ## The first of the largest -/

section FirstLargest

variable {α : Type} {amount : α → Except PricingError Money} {candidates : List α} {best : α}
  {most : Money} {result : Option (α × Money)}

/-- Among the candidates, all of which have an amount, this one is the first whose amount is
largest, by some measure of amounts. -/
def FirstLargest (size : Money → Int) (amount : α → Except PricingError Money)
    (candidates : List α) (best : α) (most : Money) : Prop :=
  ∃ before after, candidates = before ++ best :: after ∧ amount best = .ok most ∧
    (∀ other ∈ before, ∃ money, amount other = .ok money ∧ size money < size most) ∧
    ∀ other ∈ after, ∃ money, amount other = .ok money ∧ size money ≤ size most

variable {size : Money → Int}

theorem FirstLargest.mem (h : FirstLargest size amount candidates best most) :
    best ∈ candidates := by
  obtain ⟨before, after, rfl, -, -, -⟩ := h
  exact List.mem_append_right _ List.mem_cons_self

theorem FirstLargest.amount_eq (h : FirstLargest size amount candidates best most) :
    amount best = .ok most := by
  obtain ⟨_, _, -, hamount, -, -⟩ := h
  exact hamount

theorem FirstLargest.le_of_mem {other : α} (h : FirstLargest size amount candidates best most)
    (hother : other ∈ candidates) : ∃ money, amount other = .ok money ∧ size money ≤ size most := by
  obtain ⟨before, after, rfl, hamount, hbefore, hafter⟩ := h
  rcases List.mem_append.1 hother with hother | hother
  · obtain ⟨money, hmoney, hlt⟩ := hbefore other hother
    exact ⟨money, hmoney, hlt.le⟩
  · rcases List.mem_cons.1 hother with rfl | hother
    · exact ⟨most, hamount, le_rfl⟩
    · exact hafter other hother

/-- Of the candidates of the largest amount, this one comes first in any order in which they
stand. -/
theorem FirstLargest.first {index : α → Nat} {other : α} {money : Money}
    (h : FirstLargest size amount candidates best most)
    (hascending : candidates.Pairwise fun a b => index a < index b) (hother : other ∈ candidates)
    (hmoney : amount other = .ok money) (hequal : size money = size most) :
    index best ≤ index other := by
  obtain ⟨before, after, rfl, -, hbefore, -⟩ := h
  rcases List.mem_append.1 hother with hother | hother
  · obtain ⟨less, hless, hlt⟩ := hbefore other hother
    obtain rfl := Except.ok.inj (hless.symm.trans hmoney)
    exact absurd hequal hlt.ne
  · rcases List.mem_cons.1 hother with rfl | hother
    · exact le_rfl
    · exact ((List.pairwise_cons.1 (List.pairwise_append.1 hascending).2.1).1 other hother).le

/-- Where the amounts of all candidates are of 64 bits, the largest one is exactly the largest. -/
theorem FirstLargest.exact (h : FirstLargest Money.minorUnits amount candidates best most)
    (hfits : ∀ other ∈ candidates, ∀ money, amount other = .ok money → fitsMinor money.minor) :
    FirstLargest Money.minor amount candidates best most := by
  have hmost := hfits best h.mem most h.amount_eq
  obtain ⟨before, after, rfl, hamount, hbefore, hafter⟩ := h
  refine ⟨before, after, rfl, hamount, fun other hother => ?_, fun other hother => ?_⟩
  · obtain ⟨money, hmoney, hlt⟩ := hbefore other hother
    have hother := hfits other (List.mem_append_left _ hother) money hmoney
    rw [Money.minorUnits_of_fits hother, Money.minorUnits_of_fits hmost] at hlt
    exact ⟨money, hmoney, hlt⟩
  · obtain ⟨money, hmoney, hle⟩ := hafter other hother
    have hother := hfits other (List.mem_append_right _ (List.mem_cons_of_mem _ hother)) money
      hmoney
    rw [Money.minorUnits_of_fits hother, Money.minorUnits_of_fits hmost] at hle
    exact ⟨money, hmoney, hle⟩

/-- Against the best candidate so far, either no other one has more, or the first of the largest
does. -/
theorem eq_or_firstLargest_of_some_eq_ok
    (h : firstLargest amount (some (best, most)) candidates = .ok result) :
    (result = some (best, most) ∧ ∀ other ∈ candidates, ∃ money, amount other = .ok money ∧
        money.minorUnits ≤ most.minorUnits) ∨
      ∃ best' most', result = some (best', most') ∧ most.minorUnits < most'.minorUnits ∧
        FirstLargest Money.minorUnits amount candidates best' most' := by
  -- Induction on the candidates; whoever is best so far has been passed by nobody.
  induction candidates generalizing best most with
  | nil => exact .inl ⟨(Except.ok.inj h).symm, List.forall_mem_nil _⟩
  | cons candidate rest ih =>
    rw [firstLargest] at h
    split at h
    · contradiction
    · rename_i money hmoney
      simp only [Option.all_some, decide_eq_true_eq] at h
      split at h
      · rename_i hlt
        rcases ih h with ⟨rfl, hrest⟩ |
          ⟨best', most', rfl, hlt', before, after, rfl, hbest, hbefore, hafter⟩
        · exact .inr ⟨candidate, money, rfl, hlt, [], rest, rfl, hmoney, List.forall_mem_nil _,
            hrest⟩
        · exact .inr ⟨best', most', rfl, hlt.trans hlt', candidate :: before, after, rfl, hbest,
            List.forall_mem_cons.2 ⟨⟨money, hmoney, hlt'⟩, hbefore⟩, hafter⟩
      · rename_i hle
        have hle : money.minorUnits ≤ most.minorUnits := not_lt.1 hle
        rcases ih h with ⟨rfl, hrest⟩ |
          ⟨best', most', rfl, hlt', before, after, rfl, hbest, hbefore, hafter⟩
        · exact .inl ⟨rfl, List.forall_mem_cons.2 ⟨⟨money, hmoney, hle⟩, hrest⟩⟩
        · exact .inr ⟨best', most', rfl, hlt', candidate :: before, after, rfl, hbest,
            List.forall_mem_cons.2 ⟨⟨money, hmoney, hle.trans_lt hlt'⟩, hbefore⟩, hafter⟩

/-- Without candidates there is no choice, and otherwise it is the first of the largest. -/
theorem eq_or_firstLargest_of_eq_ok (h : firstLargest amount none candidates = .ok result) :
    (candidates = [] ∧ result = none) ∨
      ∃ best most, result = some (best, most) ∧
        FirstLargest Money.minorUnits amount candidates best most := by
  cases candidates with
  | nil => exact .inl ⟨rfl, (Except.ok.inj h).symm⟩
  | cons candidate rest =>
    rw [firstLargest] at h
    split at h
    · contradiction
    · rename_i money hmoney
      simp only [Option.all_none, if_true] at h
      rcases eq_or_firstLargest_of_some_eq_ok h with ⟨rfl, hrest⟩ | ⟨best, most, rfl, hlt, before,
        after, rfl, hbest, hbefore, hafter⟩
      · exact .inr ⟨candidate, money, rfl, [], rest, rfl, hmoney, List.forall_mem_nil _, hrest⟩
      · exact .inr ⟨best, most, rfl, candidate :: before, after, rfl, hbest,
          List.forall_mem_cons.2 ⟨⟨money, hmoney, hlt⟩, hbefore⟩, hafter⟩

end FirstLargest

/-! ## The choice among rules -/

section Rules

variable {rules : List (RuleKey × Rule)} {subtotal amount price saving : Money}
  {currency : Currency} {channel : ChannelKey} {key : RuleKey} {rule : Rule}

theorem bestReward_eq_none (h : bestReward rules subtotal currency = .ok none) : rules = [] := by
  rcases eq_or_firstLargest_of_eq_ok h with ⟨hnone, -⟩ | ⟨_, _, hsome, -⟩
  · exact hnone
  · contradiction

/-- The order rule that is chosen is the first of those that give most. -/
theorem bestReward_eq_some
    (h : bestReward rules subtotal currency = .ok (some ((key, rule), amount))) :
    FirstLargest Money.minorUnits (fun candidate => candidate.2.reward subtotal currency) rules
      (key, rule) amount := by
  rcases eq_or_firstLargest_of_eq_ok h with ⟨-, hnone⟩ | ⟨_, _, hsome, hfirst⟩
  · contradiction
  · cases hsome
    exact hfirst

/-- The best offer is the first of those that save most, and there is one if there are any. -/
theorem offers_of_bestOffer_eq_ok {best : Option (RuleKey × Money)}
    (h : bestOffer price rules channel = .ok best) :
    (offersIn rules channel = [] ∧ best = none) ∨
      ∃ key discount saving, best = some (key, saving) ∧
        FirstLargest Money.minorUnits (fun offer => offer.2.amountOff price)
          (offersIn rules channel) (key, discount) saving := by
  simp only [bestOffer, bind_eq_ok, pure_eq_ok] at h
  obtain ⟨found, hfound, rfl⟩ := h
  rcases eq_or_firstLargest_of_eq_ok hfound with ⟨hnone, rfl⟩ | ⟨⟨key, discount⟩, saving, rfl, hfirst⟩
  · exact .inl ⟨hnone, rfl⟩
  · exact .inr ⟨key, discount, saving, rfl, hfirst⟩

/-- The best offer is one of a rule that the channel has. -/
theorem exists_of_bestOffer_eq_some (h : bestOffer price rules channel = .ok (some (key, saving))) :
    ∃ rule, (key, rule) ∈ rules ∧ channel ∈ rule.channels ∧
      rule.value.amountOff price = .ok saving := by
  rcases offers_of_bestOffer_eq_ok h with ⟨-, hnone⟩ | ⟨_, _, _, hsome, hfirst⟩
  · contradiction
  · cases hsome
    obtain ⟨rule, hrule, havailable, rfl⟩ := Promotions.mem_offersIn.1 hfirst.mem
    exact ⟨rule, hrule, havailable, hfirst.amount_eq⟩

/-- What a rule gives on a subtotal of 64 bits that is not negative is an amount of 64 bits. -/
theorem Rule.fitsMinor_reward (h : rule.reward subtotal currency = .ok amount)
    (hsubtotal : 0 ≤ subtotal.minor) (hfits : fitsMinor subtotal.minor) :
    fitsMinor amount.minor := by
  unfold Rule.reward at h
  split at h
  · exact DiscountValue.fitsMinor_amountOff h hsubtotal hfits
  · exact DiscountValue.fitsMinor_amountOff h le_rfl rfl

end Rules

end Retail
