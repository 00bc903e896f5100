import Retail.Proofs.Line.Redistribution
import Retail.Proofs.Sync.Winner

/-!
# The order promotion and the ledger

Whatever records of order promotions a basket has, bringing the order promotion in step leaves one
of them, or none where no rule applies, and the ledger follows. Amounts beyond 64 bits count as
nothing in the choice of the rule, so on a subtotal below zero the first of the rules that give most
need not be chosen.

## Main results

* `Basket.get?_of_keepOrderPromotion`: the ledger when an order promotion is kept
* `syncOrderPromotion_converges`: the basket and the ledger afterwards
-/

namespace Retail

section Convergence

variable {basket basket' : Basket} {ledger ledger' : Ledger} {shipping : Money} {book : Promotions}
  {now : Instant} {terms : PromotionTerms}

/-- The order promotion that is kept is in the ledger, and the others are not any more. -/
theorem Basket.get?_of_keepOrderPromotion (hnodup : (basket.discounts.map (·.key)).Nodup)
    (hstored : ∀ record ∈ basket.orderPromotions, ledger.get? record.key = some record)
    (h : (keepOrderPromotion terms).runOn (basket, ledger) = (.ok (), (basket', ledger'))) :
    ∃ record, Kept terms basket basket' record ∧ ledger'.get? record.key = some record ∧
      ∀ key, key ≠ record.key → ledger'.get? key =
        if key ∈ basket.orderPromotions.map (·.key) then none else ledger.get? key := by
  obtain ⟨record, hkept, hcreated, hsynced⟩ := exists_kept_of_keepOrderPromotion hnodup h
  refine ⟨record, hkept, ?_⟩
  cases hops : basket.orderPromotions with
  | nil =>
    have hlist := hcreated hops
    refine ⟨?_, fun key hkey => ?_⟩
    · rw [Ledger.get?_of_toList_append hlist, if_pos rfl]
    · rw [Ledger.get?_of_toList_append hlist, if_neg hkey]
      rfl
  | cons first extras =>
    have hlist := (hsynced first extras hops).toList_eq
    obtain rfl : record = first.sync terms := hkept.synced first (hops ▸ rfl)
    have hfirst : ledger.get? first.key = some first :=
      hstored first (hops ▸ List.mem_cons_self)
    have hnot : first.key ∉ extras.map (·.key) := by
      have hsub : (basket.orderPromotions.map (·.key)).Nodup :=
        (List.filter_sublist.map _).nodup hnodup
      rw [hops, List.map_cons, List.nodup_cons] at hsub
      exact hsub.1
    refine ⟨?_, fun key hkey => ?_⟩
    · show ledger'.get? first.key = some (first.sync terms)
      rw [Ledger.get?_of_toList_map (fun _ => DiscountRecord.key_updatedBy) hlist,
        Ledger.get?_without, if_neg hnot, hfirst, Option.map_some,
        DiscountRecord.updatedBy_sync fun _ => UpdatedFields.mem_ofList.2]
    · have hother : key ≠ first.key := hkey
      rw [Ledger.get?_of_toList_map (fun _ => DiscountRecord.key_updatedBy) hlist,
        Ledger.get?_without]
      simp only [List.map_cons, List.mem_cons, hother, false_or]
      split
      · rfl
      · cases hget : ledger.get? key with
        | none => rfl
        | some other =>
          obtain ⟨-, rfl⟩ := Ledger.get?_eq_some.1 hget
          rw [Option.map_some, DiscountRecord.updatedBy_of_ne hkey]

/-- The records of order promotions after the order promotion was brought in step, in the basket and
in the ledger. With a voucher code, or without a rule that applies, there are none; otherwise there
is one, of the first rule that gives most. -/
theorem syncOrderPromotion_converges {answer : Option RuleKey}
    (hnodup : (basket.discounts.map (·.key)).Nodup)
    (hstored : ∀ record ∈ basket.discounts, ledger.get? record.key = some record)
    (h : (syncOrderPromotion shipping book now).runOn (basket, ledger) =
      (.ok answer, (basket', ledger'))) :
    ∃ prices, basket.basePricesWith shipping = .ok prices ∧
      basket'.otherDiscounts = basket.otherDiscounts ∧
      (basket.voucherCode.isSome ∨ basket.rulesFor book now prices = [] →
        answer = none ∧ basket'.orderPromotions = [] ∧
        (if basket.voucherCode.isSome then basket'.discount = basket.discount
          else basket'.discount.isNone) ∧
        ∀ key, ledger'.get? key =
          if key ∈ basket.orderPromotions.map (·.key) then none else ledger.get? key) ∧
      (¬ (basket.voucherCode.isSome ∨ basket.rulesFor book now prices = []) →
        ∃ key rule terms record, answer = some key ∧ basket.Wins book now prices key rule terms ∧
          (0 ≤ prices.subtotal.minor → fitsMinor prices.subtotal.minor →
            FirstLargest Money.minor
              (fun candidate => candidate.2.reward prices.subtotal basket.currency)
              (basket.rulesFor book now prices) (key, rule) terms.amount) ∧
          basket'.orderPromotions = [record] ∧ record.Carries terms ∧
          (∀ first ∈ basket.orderPromotions.head?, record.key = first.key) ∧
          basket'.discount = ⟨terms.amount, terms.name, terms.localizedName⟩ ∧
          ledger'.get? record.key = some record ∧
          ∀ key, key ≠ record.key → ledger'.get? key =
            if key ∈ basket.orderPromotions.map (·.key) then none else ledger.get? key) := by
  obtain ⟨prices, winner, hwinner, rfl, hsettle⟩ := syncOrderPromotion_eq_ok.1 h
  cases winner with
  | none =>
    obtain ⟨hprices, hnone⟩ := Basket.winner_eq_none hwinner
    have hclear := (runOn_clearOrderPromotion _ _).symm.trans hsettle
    simp only [Prod.mk.injEq, true_and] at hclear
    obtain ⟨rfl, rfl⟩ := hclear
    refine ⟨prices, hprices, Basket.otherDiscounts_cleared _, fun _ => ⟨rfl,
      Basket.orderPromotions_cleared _, Basket.discount_cleared _, fun key => ?_⟩,
      fun hno => absurd hnone hno⟩
    exact Ledger.get?_without
  | some terms =>
    obtain ⟨hprices, hcode, rule, hwins⟩ := Basket.winner_eq_some hwinner
    have hkeep : (keepOrderPromotion terms).runOn (basket.withBasePrices prices, ledger) =
        (.ok (), (basket', ledger')) := hsettle
    have hnodup' : ((basket.withBasePrices prices).discounts.map (·.key)).Nodup := hnodup
    have hstored' : ∀ record ∈ (basket.withBasePrices prices).orderPromotions,
        ledger.get? record.key = some record := fun record hrecord =>
      hstored record (List.mem_filter.1 hrecord).1
    obtain ⟨record, hkept, hrecord, hothers⟩ :=
      Basket.get?_of_keepOrderPromotion hnodup' hstored' hkeep
    have happlies : ¬ (basket.voucherCode.isSome ∨ basket.rulesFor book now prices = []) := by
      rintro (hsome | hnone)
      · simp [hcode] at hsome
      · exact absurd (hnone ▸ hwins.largest.mem) List.not_mem_nil
    refine ⟨prices, hprices, hkept.otherDiscounts, fun hno => absurd hno happlies, fun _ =>
      ⟨terms.rule, rule, terms, record, rfl, hwins, hwins.exact, hkept.orderPromotions,
        hkept.carries, fun first hfirst => ?_, ?_, hrecord, hothers⟩⟩
    · rw [hkept.synced first hfirst]
      rfl
    · rw [hkept.eq]

/-- A promotion with an order rule for each of these percentages. -/
def percentRules (percentages : List Decimal) : Promotions where
  promotions := Registry.empty.push
    { id := ⟨1⟩, name := some "Sale", oldSaleId := none, start := ⟨0⟩, finish := none,
      localizations := [] }
  rules := percentages.foldl (fun rules percentage => rules.push
    { promotion := ⟨1⟩, name := none, channels := [⟨1⟩]
      target := .order (.all []) .subtotalDiscount
      value := ⟨percentage, .percentage⟩, localizations := [] }) .empty
  relation := .empty

/-- A basket of one unit. -/
def unitBasket (price : Money) : Basket :=
  { Basket.start ⟨1⟩ price.currency with lines := [unitLine price] }

/-- An order promotion that has taken nothing off. -/
def idlePromotion : Discount where
  scope := .order
  kind := .orderPromotion
  valueType := .percentage
  value := .zero
  amount := .zero .gbp

/-- Of two order promotions the first one is kept, for the rule of the larger percentage. -/
theorem syncOrderPromotion_converges_of_two : ∃ basket' ledger' record,
    (syncOrderPromotion (.zero .gbp) (percentRules [.one, .hundred]) ⟨0⟩).runOn
      ({ unitBasket ⟨500, .gbp⟩ with
        discounts := [idlePromotion.withKey ⟨1⟩, idlePromotion.withKey ⟨2⟩] },
        (Ledger.empty.create [idlePromotion, idlePromotion]).1) =
      (.ok (some ⟨2⟩), (basket', ledger')) ∧
    basket'.orderPromotions = [record] ∧ record.key = ⟨1⟩ ∧ ledger'.get? ⟨1⟩ = some record ∧
    ledger'.get? ⟨2⟩ = none := by
  obtain ⟨prices, hprices, -, -, hwinner⟩ := @syncOrderPromotion_converges
    { unitBasket ⟨500, .gbp⟩ with
      discounts := [idlePromotion.withKey ⟨1⟩, idlePromotion.withKey ⟨2⟩] } _
    (Ledger.empty.create [idlePromotion, idlePromotion]).1 _ (.zero .gbp)
    (percentRules [.one, .hundred]) ⟨0⟩ (some ⟨2⟩) (by decide) (by decide) rfl
  obtain rfl : BasePrices.mk ⟨500, .gbp⟩ ⟨500, .gbp⟩ = prices := Except.ok.inj hprices
  obtain ⟨_, _, _, record, -, -, -, hrecord, -, hkey, -, hstored, hothers⟩ := hwinner (by decide)
  have hfirst : record.key = ⟨1⟩ := hkey _ rfl
  refine ⟨_, _, record, rfl, hrecord, hfirst, hfirst ▸ hstored, ?_⟩
  rw [hothers ⟨2⟩ (by rw [hfirst]; decide)]
  rfl

/-- A discount of one hundred percent takes all of a subtotal below zero off, and one of two hundred
percent twice as much, which is less. But 64 bits do not hold that amount, so it counts as zero and
is chosen. -/
theorem syncOrderPromotion_not_always_largest :
    ¬ ∀ (basket basket' : Basket) (ledger ledger' : Ledger) (shipping : Money) (book : Promotions)
      (now : Instant) (prices : BasePrices) (key : RuleKey), (basket.discounts.map (·.key)).Nodup →
      (∀ record ∈ basket.discounts, ledger.get? record.key = some record) →
      basket.basePricesWith shipping = .ok prices → fitsMinor prices.subtotal.minor →
      (syncOrderPromotion shipping book now).runOn (basket, ledger) =
        (.ok (some key), (basket', ledger')) →
      ∃ rule amount, FirstLargest Money.minor
        (fun candidate => candidate.2.reward prices.subtotal basket.currency)
        (basket.rulesFor book now prices) (key, rule) amount := by
  intro h
  let basket := unitBasket ⟨-6000000000000000000, .gbp⟩
  let book := percentRules [.hundred, ⟨false, 200, 0, by decide, by decide⟩]
  let prices : BasePrices := ⟨⟨-6000000000000000000, .gbp⟩, ⟨-6000000000000000000, .gbp⟩⟩
  have hprices : basket.basePricesWith (.zero .gbp) = .ok prices := by decide +kernel
  have hanswer : ((syncOrderPromotion (.zero .gbp) book ⟨0⟩).runOn (basket, .empty)).1 =
      .ok (some ⟨2⟩) := by decide +kernel
  obtain ⟨rule, amount, before, after, hsplit, hamount, hbefore, -⟩ :=
    h basket _ .empty _ _ book ⟨0⟩ prices ⟨2⟩ (by decide) (by decide) hprices (by decide)
      (Prod.ext hanswer rfl)
  have hrewards : ∀ candidate ∈ basket.rulesFor book ⟨0⟩ prices,
      candidate.2.reward prices.subtotal basket.currency =
        .ok ⟨if candidate.1 = ⟨2⟩ then -12000000000000000000 else -6000000000000000000, .gbp⟩ := by
    decide +kernel
  have hmost := hrewards (⟨2⟩, rule) (hsplit ▸ List.mem_append_right _ List.mem_cons_self)
  obtain rfl := Except.ok.inj (hamount.symm.trans hmost)
  cases before with
  | nil =>
    have hfirst : (basket.rulesFor book ⟨0⟩ prices).head?.map Prod.fst = some ⟨1⟩ := by
      decide +kernel
    rw [hsplit] at hfirst
    simp at hfirst
  | cons first rest =>
    obtain ⟨money, hmoney, hless⟩ := hbefore first List.mem_cons_self
    have hgives := hrewards first (hsplit ▸ List.mem_append_left _ List.mem_cons_self)
    obtain rfl := Except.ok.inj (hmoney.symm.trans hgives)
    simp only [if_true] at hless
    split at hless <;> omega

end Convergence

end Retail
