import Retail.Proofs.Settled

/-!
# Records that are up to date

After a basket was reconciled, its lines have records of promotions exactly where they lose
something to a rule that applies now, and it has a record of an order promotion exactly where an
order rule applies to its base prices and it has no voucher code.

## Main definitions

* `Line.Grants`: a record of what a line loses to a rule
* `Line.UpToDate`: a line whose records are those of what it loses
* `Basket.Qualifies`: an order rule that applies to a basket
* `Basket.UpToDate`: a basket whose promotions are those that apply

## Main results

* `Line.Synced.upToDate`: a line that was given its catalogue price and brought in step
* `Basket.Settled.orderPromotions`: the order promotion
* `Basket.Reconciled.upToDate`: a basket that was reconciled
-/

namespace Retail

variable {book : Promotions} {channel : ChannelKey} {now : Instant} {language : Option String}

/-! ## Lines -/

namespace Line

variable {source line line' : Line} {u : Unit}

/-- The record is of a rule that is active, that the channel has and that is related to the variant
of the line, and it notes what the line loses to catalogue promotions, which is not nothing. -/
structure Grants (book : Promotions) (channel : ChannelKey) (now : Instant) (line : Line)
    (record : DiscountRecord) : Prop where
  rule : ∃ key rule, record.rule = some key ∧ book.Offers key rule channel now ∧
    book.relation.contains (key, line.variant)
  amount : line.catalogueDiscountAmount = .ok record.amount
  ne_zero : record.amount.minor ≠ 0

/-- The records of the line are those of what it loses to catalogue promotions: one if that is
something, and none otherwise. -/
structure UpToDate (book : Promotions) (channel : ChannelKey) (now : Instant) (line : Line) :
    Prop where
  grants : ∀ record ∈ line.discounts, record.kind = .promotion ∧ line.Grants book channel now record
  carries : ∃ amount, line.catalogueDiscountAmount = .ok amount ∧
    (amount.minor ≠ 0 → ∃ record, line.discounts = [record])

theorem SameButRecords.catalogueDiscountAmount (h : line.SameButRecords line') :
    line'.catalogueDiscountAmount = line.catalogueDiscountAmount := by
  rw [h]
  rfl

theorem Recharged.catalogueDiscountAmount (h : line.Recharged line') :
    line'.catalogueDiscountAmount = line.catalogueDiscountAmount := by
  rw [h]
  rfl

/-- What is charged for the line does not matter. -/
theorem UpToDate.recharged (h : line.UpToDate book channel now) (hcharged : line.Recharged line') :
    line'.UpToDate book channel now := by
  have hvariant : line'.variant = line.variant := by rw [hcharged]
  obtain ⟨hgrants, hcarries⟩ := h
  rw [← hcharged.sameRecords.discounts] at hgrants hcarries
  rw [← hcharged.catalogueDiscountAmount] at hcarries
  refine ⟨fun record hrecord => ?_, hcarries⟩
  obtain ⟨hkind, hrule, hamount, hne⟩ := hgrants record hrecord
  exact ⟨hkind, ⟨hvariant ▸ hrule, hcharged.catalogueDiscountAmount.trans hamount, hne⟩⟩

theorem catalogueDiscountAmount_eq_ok {amount : Money} :
    line.catalogueDiscountAmount = .ok amount ↔
      ∃ saving, line.undiscountedUnitPrice.sub line.discountedUnitPrice = .ok saving ∧
        saving.times line.quantity = .ok amount := by
  rw [Line.catalogueDiscountAmount, bind_eq_ok]

theorem fitsMinor_catalogueDiscountAmount {amount : Money}
    (h : line.catalogueDiscountAmount = .ok amount) : fitsMinor amount.minor := by
  obtain ⟨_, -, htimes⟩ := catalogueDiscountAmount_eq_ok.1 h
  obtain ⟨hfits, rfl⟩ := Money.times_eq_ok.1 htimes
  exact hfits

/-- A line without a rule costs its full price, so it loses nothing. -/
theorem minor_catalogueDiscountAmount_of_rules_eq_nil {amount : Money}
    (hpriced : (setCataloguePrice book channel now).runOn source = (.ok u, line))
    (hlisted : 0 ≤ source.undiscountedUnitPrice.minor) (hrules : line.rules = [])
    (h : line.catalogueDiscountAmount = .ok amount) : amount.minor = 0 := by
  obtain ⟨price, rules, totalPrice, hoffer, -, -, rfl⟩ := setCataloguePrice_eq_ok.1 hpriced
  obtain rfl : rules = [] := hrules
  rcases catalogueOffer_cases hoffer with ⟨rfl, -⟩ | ⟨_, _, hrule, -⟩
  · -- A price below zero would have been raised to zero.
    obtain ⟨_, hsaving, htimes⟩ := catalogueDiscountAmount_eq_ok.1 h
    obtain ⟨-, rfl⟩ := Money.sub_eq_ok.1 hsaving
    obtain ⟨-, rfl⟩ := Money.times_eq_ok.1 htimes
    simp only [pricedAt, Money.floorAtZero_of_nonneg hlisted, sub_self]
    exact Int.zero_mul _
  · simp at hrule

/-- The only rule of a line takes off what the line loses. -/
theorem amount_ruleTerms {key : RuleKey} {saving amount : Money} {terms : PromotionTerms}
    (hsaving : line.undiscountedUnitPrice.sub line.discountedUnitPrice = .ok saving)
    (hamount : line.catalogueDiscountAmount = .ok amount)
    (hterms : line.ruleTerms book language ⟨key, some saving⟩ = .ok terms) :
    terms.amount = amount := by
  obtain ⟨_, hsaving', htimes⟩ := catalogueDiscountAmount_eq_ok.1 hamount
  obtain rfl := Except.ok.inj (hsaving.symm.trans hsaving')
  unfold ruleTerms at hterms
  split at hterms
  · contradiction
  · simp only [ruleAmount, htimes, bind_eq_ok, mapError_eq_ok, pure_eq_ok,
      Except.ok.injEq] at hterms
    obtain ⟨_, rfl, rfl⟩ := hterms
    rfl

/-- A line that was given its catalogue price and brought in step is up to date. -/
theorem Synced.upToDate (h : line.Synced book language line') (htidy : line.Tidy)
    (hpriced : (setCataloguePrice book channel now).runOn source = (.ok u, line))
    (hlisted : 0 ≤ source.undiscountedUnitPrice.minor) : line'.UpToDate book channel now := by
  obtain ⟨grants, hgrants, -, hcarries⟩ :=
    h.carries htidy (rules_length_of_setCataloguePrice hpriced)
  obtain ⟨amount, hamount, hgrants⟩ := grants_eq_ok.1 hgrants
  have hamount' : line'.catalogueDiscountAmount = .ok amount :=
    h.same.catalogueDiscountAmount.trans hamount
  have hvariant : line'.variant = line.variant := by rw [h.same]
  rw [Money.minorUnits_of_fits (fitsMinor_catalogueDiscountAmount hamount)] at hgrants
  by_cases hzero : amount.minor = 0
  · rw [if_pos hzero] at hgrants
    subst hgrants
    have hnone : line'.discounts = [] := by simpa using hcarries
    refine ⟨by simp [hnone], amount, hamount', fun hne => absurd hzero hne⟩
  · rw [if_neg hzero] at hgrants
    obtain ⟨price, rules, totalPrice, hoffer, -, -, hline⟩ := setCataloguePrice_eq_ok.1 hpriced
    have hrules : line.rules = rules := by rw [hline]; rfl
    rcases catalogueOffer_cases hoffer with ⟨-, rfl⟩ | ⟨key, saving, rfl, hrule⟩
    · exact absurd
        (minor_catalogueDiscountAmount_of_rules_eq_nil hpriced hlisted hrules hamount) hzero
    · obtain ⟨hoffers, hrelated, hsaving⟩ := hline ▸ hrule totalPrice
      rw [hrules, mapM_eq_ok, List.forall₂_cons_left_iff] at hgrants
      obtain ⟨terms, _, hterms, hnil, rfl⟩ := hgrants
      obtain rfl : _ = [] := by simpa using hnil
      obtain ⟨record, _, hcarry, hrest, hrecords⟩ := List.forall₂_cons_left_iff.1 hcarries
      obtain rfl : _ = [] := by simpa using hrest
      have hnotes : record.amount = amount :=
        hcarry.amount.trans (amount_ruleTerms hsaving hamount hterms)
      refine ⟨?_, amount, hamount', fun _ => ⟨record, hrecords⟩⟩
      rw [hrecords, List.forall_mem_singleton]
      refine ⟨(h.tidy htidy (rules_length_of_setCataloguePrice hpriced)).promotion record
        (hrecords ▸ List.mem_cons_self), ?_, hnotes ▸ hamount', hnotes ▸ hzero⟩
      obtain ⟨rule, hoffers⟩ := hoffers
      exact ⟨key, rule, hcarry.rule.trans (congrArg some (rule_ruleTerms hterms)), hoffers,
        hvariant ▸ hrelated⟩

end Line

/-! ## Baskets -/

namespace Basket

variable {basket basket' settled : Basket} {shipping : Money} {lines : List Line} {u : Unit}

/-- The order rule is active, the channel of the basket has it, and its condition holds for the base
prices of the basket. -/
structure Qualifies (book : Promotions) (now : Instant) (basket : Basket) (key : RuleKey)
    (rule : Rule) : Prop where
  offers : book.Offers key rule basket.channel now
  applies : rule.appliesTo ⟨basket.baseSubtotal, basket.baseTotal⟩

/-- The lines are up to date, and there is one order promotion if there is an order rule that
applies and no voucher code, and none otherwise. -/
structure UpToDate (book : Promotions) (now : Instant) (basket : Basket) : Prop where
  lines : ∀ line ∈ basket.lines, line.UpToDate book basket.channel now
  qualifies : ∀ record ∈ basket.orderPromotions, basket.voucherCode = none ∧
    ∃ key rule, record.rule = some key ∧ basket.Qualifies book now key rule
  carries : basket.voucherCode = none → (∃ key rule, basket.Qualifies book now key rule) →
    ∃ record, basket.orderPromotions = [record]

/-- Whichever order promotion won, the basket has it. -/
theorem Settled.orderPromotions (h : basket.Settled shipping book now settled) :
    (∀ record ∈ settled.orderPromotions, settled.voucherCode = none ∧
      ∃ key rule, record.rule = some key ∧ settled.Qualifies book now key rule) ∧
    (settled.voucherCode = none → (∃ key rule, settled.Qualifies book now key rule) →
      ∃ record, settled.orderPromotions = [record]) := by
  obtain ⟨-, prices, winner, hwinner, hsettles⟩ := h
  generalize settled.lines = lines at hwinner hsettles
  cases winner with
  | none =>
    obtain rfl : settled = _ := hsettles
    obtain ⟨-, hnone⟩ := winner_eq_none hwinner
    refine ⟨by simp [orderPromotions_cleared], fun hcode ⟨key, rule, hoffers, happlies⟩ => ?_⟩
    rcases hnone with hsome | hnone
    · exact absurd (hcode ▸ hsome : (none : Option String).isSome = true) (by decide)
    · have hmem : (key, rule) ∈ ({ basket with lines } : Basket).rulesFor book now prices :=
        Promotions.mem_rulesForPrices.2 ⟨hoffers, happlies⟩
      rw [hnone] at hmem
      exact absurd hmem List.not_mem_nil
  | some terms =>
    obtain ⟨record, hkept⟩ := hsettles
    obtain ⟨-, hcode, rule, hwins⟩ := winner_eq_some hwinner
    obtain ⟨hoffers, happlies⟩ := Promotions.mem_rulesForPrices.1 hwins.largest.mem
    refine ⟨?_, fun _ _ => ⟨record, hkept.orderPromotions⟩⟩
    rw [hkept.orderPromotions, List.forall_mem_singleton]
    refine ⟨by rw [hkept.eq]; exact hcode, terms.rule, rule, hkept.carries.rule, ?_⟩
    rw [hkept.eq]
    exact ⟨hoffers, happlies⟩

/-- A basket whose lines have prices that are not below zero is up to date once it was
reconciled. -/
theorem Reconciled.upToDate (h : basket.Reconciled shipping book now basket')
    (hregular : basket.Regular)
    (hlisted : ∀ line ∈ basket.lines, 0 ≤ line.undiscountedUnitPrice.minor) :
    basket'.UpToDate book now := by
  obtain ⟨lines, settled, hlines, hsettled, hcharged, hamounts, heq⟩ := h
  obtain ⟨hqualifies, hcarries⟩ := hsettled.orderPromotions
  have hchannel : basket'.channel = basket.channel := by rw [heq, hsettled.eq]
  have hops : List.Forall₂ DiscountRecord.SameButAmount settled.orderPromotions
      basket'.orderPromotions :=
    forall₂_filter_kind (· == .orderPromotion) hamounts
  have hsame : basket'.voucherCode = settled.voucherCode ∧ ∀ key rule,
      basket'.Qualifies book now key rule ↔ settled.Qualifies book now key rule := by
    rw [heq]
    exact ⟨rfl, fun _ _ => ⟨fun ⟨ho, ha⟩ => ⟨ho, ha⟩, fun ⟨ho, ha⟩ => ⟨ho, ha⟩⟩⟩
  simp only [← hsame.1, ← hsame.2] at hqualifies hcarries
  refine ⟨fun line hline => ?_, fun record hrecord => ?_, fun hcode hrule => ?_⟩
  · obtain ⟨synced, hsynced, hcharge⟩ := exists_left_of_forall₂ hcharged hline
    obtain ⟨priced, hpriced, hsync⟩ := exists_left_of_forall₂ hsettled.lines hsynced
    obtain ⟨source, hsource, hprice⟩ :=
      exists_left_of_forall₂ (cataloguePrices_eq_ok.1 hlines) hpriced
    have htidy := forall_tidy (sameRecords_cataloguePrices hlines) hregular.lines priced hpriced
    rw [hchannel]
    exact (hsync.upToDate htidy hprice (hlisted source hsource)).recharged hcharge
  · obtain ⟨source, hsource, hamount⟩ := exists_left_of_forall₂ hops hrecord
    rw [hamount]
    exact hqualifies source hsource
  · obtain ⟨record, hrecord⟩ := hcarries hcode hrule
    rw [hrecord, List.forall₂_cons_left_iff] at hops
    obtain ⟨record', _, -, hnil, hrecords⟩ := hops
    obtain rfl : _ = [] := by simpa using hnil
    exact ⟨record', hrecords⟩

end Basket

end Retail
