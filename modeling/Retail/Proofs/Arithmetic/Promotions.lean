import Retail.Proofs.Arithmetic.Basic
import Retail.Proofs.Settled
import Retail.Proofs.Sync.Steady

/-!
# Failures of arithmetic: promotions

The rules of lines that were given their catalogue prices are in the book, and so is the promotion
of a rule that wins. Records that are to be updated are in the ledger. What is left to fail is
arithmetic.

## Main definitions

* `Line.Priced`: a line with prices in a currency and rules of the book
* `Basket.Ready`: a basket whose lines were given their catalogue prices
* `SyncError.IsArithmetic`: a number is too large or a percentage has no value

## Main results

* `failsOnly_cataloguePrices`: the prices of lines
* `Basket.Ready.failsOnly_syncPromotions`: records of lines and of the order promotion
-/

namespace Retail

/-! ## Prices of lines -/

section Prices

variable {α : Type} {P : PricingError → Prop} {book : Promotions} {channel : ChannelKey}
  {now : Instant} {currency : Currency} {line line' : Line} {price : Money}

theorem failsOnly_firstLargest {amount : α → Except PricingError Money} {candidates : List α}
    {best : Option (α × Money)} (h : ∀ candidate ∈ candidates, FailsOnly P (amount candidate)) :
    FailsOnly P (firstLargest amount best candidates) := by
  induction candidates generalizing best with
  | nil => exact failsOnly_ok
  | cons candidate rest ih =>
    rw [List.forall_mem_cons] at h
    unfold firstLargest
    split
    · rename_i e he
      exact failsOnly_error (h.1 e he)
    · split
      · exact ih h.2
      · exact ih h.2

theorem failsOnly_bestOffer (price : Money) (rules : List (RuleKey × Rule)) :
    FailsOnly PricingError.IsArithmetic (bestOffer price rules channel) :=
  (failsOnly_firstLargest fun candidate _ => candidate.2.failsOnly_amountOff price).map

theorem Rule.failsOnly_reward (rule : Rule) (subtotal : Money) :
    FailsOnly PricingError.IsArithmetic (rule.reward subtotal currency) := by
  unfold Rule.reward
  split
  · exact rule.value.failsOnly_amountOff _
  · exact rule.value.failsOnly_amountOff _

theorem failsOnly_bestReward (rules : List (RuleKey × Rule)) (subtotal : Money) :
    FailsOnly PricingError.IsArithmetic (bestReward rules subtotal currency) :=
  failsOnly_firstLargest fun candidate _ => candidate.2.failsOnly_reward subtotal

namespace Line

theorem failsOnly_setDiscountedUnitPrice
    (h : line.undiscountedUnitPrice.currency = price.currency) :
    Step.FailsOnly PricingError.IsArithmetic (setDiscountedUnitPrice price) line := by
  refine Step.failsOnly_of ?_
  dsimp only
  rw [Money.sub_eq_ok.2 ⟨h.trans price.currency_floorAtZero.symm, rfl⟩]
  dsimp only
  split
  · rename_i e he
    exact failsOnly_error (Money.failsOnly_times _ _ e he)
  · exact failsOnly_ok

theorem failsOnly_setCataloguePrice (line : Line) :
    Step.FailsOnly PricingError.IsArithmetic (setCataloguePrice book channel now) line := by
  have hset {price : Money} (rules : List LineRule)
      (h : line.undiscountedUnitPrice.currency = price.currency) :
      Step.FailsOnly PricingError.IsArithmetic
        (do setDiscountedUnitPrice price; setRules rules) line :=
    (failsOnly_setDiscountedUnitPrice h).bind fun _ _ _ => Step.failsOnly_of_runOn rfl
  refine Step.failsOnly_get_bind (Step.failsOnly_answer_bind (failsOnly_bestOffer _ _) ?_)
  rintro (_ | ⟨key, saving⟩) hbest
  · exact hset [] rfl
  · obtain ⟨rule, -, -, hsaving⟩ := exists_of_bestOffer_eq_some hbest
    have hcurrency := DiscountValue.currency_amountOff hsaving
    refine Step.failsOnly_answer_bind (Money.failsOnly_sub hcurrency.symm) fun price hprice => ?_
    rw [(Money.sub_eq_ok.1 hprice).2]
    exact hset _ rfl

/-- All prices of the line are in a currency, and its rules are in the book. -/
structure Priced (book : Promotions) (currency : Currency) (line : Line) : Prop where
  undiscounted : line.undiscountedUnitPrice.currency = currency
  discounted : line.discountedUnitPrice.currency = currency
  base : line.baseUnitPrice.currency = currency
  total : line.totalPrice.currency = currency
  rules : ∀ rule ∈ line.rules, ∃ found, book.ruleWithPromotion? rule.rule = some found

theorem Priced.sameButRecords (h : line.Priced book currency) (hsame : line.SameButRecords line') :
    line'.Priced book currency := by
  rw [hsame]
  exact ⟨h.undiscounted, h.discounted, h.base, h.total, h.rules⟩

theorem priced_setCataloguePrice {u : Unit}
    (hcurrency : line.undiscountedUnitPrice.currency = currency)
    (h : (setCataloguePrice book channel now).runOn line = (.ok u, line')) :
    line'.Priced book currency := by
  obtain ⟨price, rules, totalPrice, hoffer, hprice, htotal, rfl⟩ := setCataloguePrice_eq_ok.1 h
  have hfloored : price.floorAtZero.currency = currency := by
    rw [Money.currency_floorAtZero, ← hprice, hcurrency]
  have htotalPrice : totalPrice.currency = currency := by
    rw [(Money.times_eq_ok.1 htotal).2]
    exact hfloored
  refine ⟨hcurrency, hfloored, hfloored, htotalPrice, ?_⟩
  obtain ⟨-, rfl⟩ | ⟨key, saving, rfl, hoffers⟩ := catalogueOffer_cases hoffer
  · exact List.forall_mem_nil _
  · obtain ⟨rule, ⟨hentered, promotion, hpromotion, -⟩, -⟩ := (hoffers totalPrice).offers
    refine List.forall_mem_singleton.2 ⟨(rule, promotion), ?_⟩
    simp [Promotions.ruleWithPromotion?, hentered, hpromotion]

end Line

theorem failsOnly_cataloguePrices (lines : List Line) :
    Step.FailsOnly PricingError.IsArithmetic (cataloguePrices book channel now) lines :=
  (Step.failsOnly_onEach fun line _ => line.failsOnly_setCataloguePrice).discard

theorem priced_cataloguePrices {lines lines' : List Line} {u : Unit}
    (hcurrency : ∀ line ∈ lines, line.undiscountedUnitPrice.currency = currency)
    (h : (cataloguePrices book channel now).runOn lines = (.ok u, lines')) :
    ∀ line ∈ lines', line.Priced book currency := by
  intro line' hline'
  obtain ⟨line, hline, hpriced⟩ := exists_left_of_forall₂ (cataloguePrices_eq_ok.1 h) hline'
  exact Line.priced_setCataloguePrice (hcurrency line hline) hpriced

end Prices

/-! ## Records of lines -/

/-- A number is too large, or a percentage has no value. -/
def SyncError.IsArithmetic : SyncError → Prop
  | .pricing e => e.IsArithmetic
  | .ledger _ => False
  | .promotion _ => False

namespace Line

variable {book : Promotions} {currency : Currency} {language : Option String} {line : Line}
  {rule : LineRule} {rules : List LineRule}

theorem failsOnly_ruleTerms
    (h : ∃ found, book.ruleWithPromotion? rule.rule = some found) :
    FailsOnly SyncError.IsArithmetic (line.ruleTerms book language rule) := by
  obtain ⟨found, hfound⟩ := h
  have hamount : FailsOnly PricingError.IsArithmetic (line.ruleAmount rule) := by
    unfold ruleAmount
    split
    · exact Money.failsOnly_times _ _
    · exact failsOnly_ok
  have hrenamed : FailsOnly SyncError.IsArithmetic
      ((line.ruleAmount rule).mapError SyncError.pricing) := hamount.mapError fun _ he => he
  rw [ruleTerms, hfound]
  exact hrenamed.map

theorem failsOnly_planRule
    (h : FailsOnly SyncError.IsArithmetic (line.ruleTerms book language rule)) :
    Step.FailsOnly SyncError.IsArithmetic (planRule book language rule) line := by
  refine Step.failsOnly_get_bind (Step.failsOnly_answer_bind h fun terms hterms => ?_)
  dsimp only
  split
  · exact Step.failsOnly_of_runOn rfl
  · exact Step.failsOnly_pure

/-- What the rules of a line grant does not change while they are planned. -/
theorem failsOnly_rules
    (h : ∀ rule ∈ rules, FailsOnly SyncError.IsArithmetic (line.ruleTerms book language rule)) :
    Step.FailsOnly SyncError.IsArithmetic (rules.mapM (planRule book language)) line := by
  induction rules generalizing line with
  | nil => exact Step.failsOnly_pure
  | cons rule rest ih =>
    rw [List.forall_mem_cons] at h
    rw [List.mapM_cons]
    refine (failsOnly_planRule h.1).bind fun plan middle hplan => ?_
    obtain ⟨terms, hterms, -⟩ := planRule_eq_ok.1 hplan
    obtain ⟨_, _, hfirst, hsame⟩ := exists_planRule hterms
    obtain ⟨-, rfl⟩ := Prod.mk.inj (hfirst.symm.trans hplan)
    rw [← hsame.ruleTerms] at h
    exact (ih h.2).bind fun _ _ _ => Step.failsOnly_pure

theorem failsOnly_plan (h : line.Priced book currency) :
    Step.FailsOnly SyncError.IsArithmetic (Line.plan book language) line := by
  have hamount : FailsOnly SyncError.IsArithmetic
      (line.catalogueDiscountAmount.mapError .pricing) :=
    (failsOnly_catalogueDiscountAmount (h.undiscounted.trans h.discounted.symm)).mapError
      fun _ he => he
  refine Step.failsOnly_get_bind (Step.failsOnly_answer_bind hamount fun amount _ => ?_)
  split
  · exact Step.failsOnly_of_runOn rfl
  · refine Step.FailsOnly.bind (Step.failsOnly_of_runOn rfl) fun _ middle hmiddle => ?_
    obtain rfl := (Prod.mk.inj hmiddle).2
    refine (failsOnly_rules fun rule hrule => ?_).bind fun _ _ _ => Step.failsOnly_pure
    exact failsOnly_ruleTerms (h.rules rule hrule)

end Line

namespace Basket

variable {book : Promotions} {currency : Currency} {basket basket' : Basket}
  {ledger : Ledger} {rest : List DiscountRecord} {shipping : Money} {now : Instant}

theorem HeldIn.failsOnly_syncLines (hheld : basket.HeldIn ledger rest)
    (hpriced : ∀ line ∈ basket.lines, line.Priced book currency) :
    Step.FailsOnly SyncError.IsArithmetic (Retail.syncLines book) (basket, ledger) := by
  intro e after hrun
  have h := hrun
  simp only [Retail.syncLines, SyncStep.runOn_basket_bind] at h
  rcases Step.runOn_bind_eq_error.1 h with hplans | ⟨plans, _, hplans, -⟩
  · obtain ⟨_, heach, -⟩ := Step.runOn_on_eq_error.1 hplans
    refine Step.failsOnly_onEach (fun line hline => ?_) e _ heach
    exact Line.failsOnly_plan (hpriced line hline)
  · obtain ⟨_, heach, -⟩ := Step.runOn_on_eq_ok.1 hplans
    obtain ⟨planned, hplanned, -⟩ := Step.runOn_onEach_eq_ok.1 heach
    obtain ⟨_, _, _, hdone⟩ := exists_syncLines_of_planned hplanned
      fun _ hline _ hrecord => hheld.mem_toList_of_mem_lines hline hrecord
    rw [hrun] at hdone
    have hresult := (Prod.mk.inj hdone).1
    contradiction

/-! ## The order promotion -/

theorem failsOnly_basePricesWith
    (hlines : ∀ line ∈ basket.lines, line.baseUnitPrice.currency = basket.currency)
    (hshipping : shipping.currency = basket.currency) :
    FailsOnly PricingError.IsArithmetic (basket.basePricesWith shipping) := by
  refine (failsOnly_baseSubtotal hlines).bind fun subtotal hsubtotal => ?_
  exact (Money.failsOnly_add ((currency_subtotal hsubtotal).trans hshipping.symm)).map

/-- The promotion of a rule that wins is in the book, since it is active. -/
theorem HeldIn.failsOnly_syncOrderPromotion (hheld : basket.HeldIn ledger rest)
    (hlines : ∀ line ∈ basket.lines, line.baseUnitPrice.currency = basket.currency)
    (hshipping : shipping.currency = basket.currency) :
    Step.FailsOnly SyncError.IsArithmetic (Retail.syncOrderPromotion shipping book now)
      (basket, ledger) := by
  refine Step.failsOnly_get_bind ?_
  have hprices : FailsOnly SyncError.IsArithmetic
      ((basket.basePricesWith shipping).mapError .pricing) :=
    (failsOnly_basePricesWith hlines hshipping).mapError fun _ he => he
  refine Step.failsOnly_answer_bind hprices fun prices _ => ?_
  refine Step.failsOnly_modify_bind ?_
  have hclear : Step.FailsOnly SyncError.IsArithmetic
      (do Retail.clearOrderPromotion; pure (none : Option RuleKey) : SyncStep (Option RuleKey))
      (basket.withBasePrices prices, ledger) :=
    (Step.failsOnly_of_runOn (runOn_clearOrderPromotion _ _)).bind
      fun _ _ _ => Step.failsOnly_pure
  split
  · exact hclear
  · have hbest : FailsOnly SyncError.IsArithmetic
        ((bestReward (book.rulesForPrices basket.channel prices now) prices.subtotal
          basket.currency).mapError .pricing) :=
      (failsOnly_bestReward _ _).mapError fun _ he => he
    refine Step.failsOnly_answer_bind hbest fun best hbest => ?_
    rcases best with _ | ⟨⟨key, rule⟩, amount⟩
    · exact hclear
    · have hwins := bestReward_eq_some (mapError_eq_ok.1 hbest)
      obtain ⟨⟨⟨-, promotion, hpromotion, -⟩, -⟩, -⟩ :=
        Promotions.mem_rulesForPrices.1 hwins.mem
      simp only [hpromotion]
      have hpriced : (basket.withBasePrices prices).HeldIn ledger rest :=
        hheld.sameRecords (.of_lines_eq rfl rfl)
      obtain ⟨_, _, hkeep⟩ :=
        hpriced.exists_keepOrderPromotion (rule.terms key promotion amount basket.language)
      exact (Step.failsOnly_of_runOn hkeep).bind fun _ _ _ => Step.failsOnly_pure

/-- The lines of the basket were given their catalogue prices, and its records are held. -/
structure Ready (book : Promotions) (ledger : Ledger) (rest : List DiscountRecord)
    (basket : Basket) : Prop where
  held : basket.HeldIn ledger rest
  regular : basket.Regular
  rules : ∀ line ∈ basket.lines, line.rules.length ≤ 1
  priced : ∀ line ∈ basket.lines, line.Priced book basket.currency

theorem ready_cataloguePrices {lines : List Line} {u : Unit} (hheld : basket.HeldIn ledger rest)
    (hregular : basket.Regular)
    (hcurrency : ∀ line ∈ basket.lines, line.undiscountedUnitPrice.currency = basket.currency)
    (h : (cataloguePrices book basket.channel now).runOn basket.lines = (.ok u, lines)) :
    ({ basket with lines } : Basket).Ready book ledger rest := by
  have hrecords := sameRecords_cataloguePrices h
  exact ⟨hheld.sameRecords ⟨rfl, hrecords⟩,
    hregular.of_eq (forall_tidy hrecords hregular.lines) rfl, rules_length_of_cataloguePrices h,
    priced_cataloguePrices hcurrency h⟩

theorem Ready.of_eq (h : basket.Ready book ledger rest) (hlines : basket'.lines = basket.lines)
    (hdiscounts : basket'.discounts = basket.discounts)
    (hcurrency : basket'.currency = basket.currency) : basket'.Ready book ledger rest := by
  refine ⟨h.held.sameRecords (.of_lines_eq hdiscounts hlines),
    h.regular.of_eq (hlines ▸ h.regular.lines) hdiscounts, ?_, ?_⟩
  · rw [hlines]
    exact h.rules
  · rw [hlines, hcurrency]
    exact h.priced

theorem Ready.failsOnly_syncPromotions (h : basket.Ready book ledger rest)
    (hshipping : shipping.currency = basket.currency) :
    Step.FailsOnly SyncError.IsArithmetic (syncPromotions shipping book now) (basket, ledger) := by
  refine (h.held.failsOnly_syncLines h.priced).bind fun changes middle hlines => ?_
  obtain ⟨middle, ledger'⟩ := middle
  obtain ⟨hmiddle, hsynced⟩ := h.held.synced h.regular h.rules hlines
  have hcurrency : middle.currency = basket.currency := by rw [hmiddle]
  refine ((h.held.syncLines hlines).failsOnly_syncOrderPromotion ?_
    (hshipping.trans hcurrency.symm)).bind fun _ _ _ => Step.failsOnly_pure
  intro line' hline'
  obtain ⟨line, hline, hsame⟩ := exists_left_of_forall₂ hsynced hline'
  exact ((h.priced line hline).sameButRecords hsame.same).base.trans hcurrency.symm

/-- The prices of lines stay when promotions are settled. -/
theorem Settled.priced (h : basket.Settled shipping book now basket')
    (hpriced : ∀ line ∈ basket.lines, line.Priced book basket.currency) :
    ∀ line ∈ basket'.lines, line.Priced book basket'.currency := by
  have hcurrency : basket'.currency = basket.currency := by rw [h.eq]
  intro line' hline'
  obtain ⟨line, hline, hsynced⟩ := exists_left_of_forall₂ h.lines hline'
  exact hcurrency ▸ (hpriced line hline).sameButRecords hsynced.same

end Basket

end Retail
