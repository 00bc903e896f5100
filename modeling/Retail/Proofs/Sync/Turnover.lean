import Retail.Proofs.Line.Redistribution
import Retail.Proofs.Sync.Grants

/-!
# Records kept, entered and removed

Bringing the lines of a basket in step is a difference of three parts: records of rules that still
apply are kept under their keys, those of other rules are removed, and the missing ones are entered.
What was counted on the way is what came and what went.

## Main definitions

* `Line.worth`: what a rule takes off a line
* `Line.Bears`: the one record of a rule on a line
* `Line.Turnover`: the records of a line before and after

## Main results

* `Line.turnover_plan`: a line that was planned, once its new records are attached
* `created_eq`, `deleted_eq`: what is counted
* `Basket.turnover_syncLines`: all lines of a basket and the ledger
-/

namespace Retail

/-! ## What a rule is worth -/

/-- What a rule takes off the units of a line together; nothing where that is not known. -/
def Line.worth (line : Line) (lineRule : LineRule) : Money :=
  match lineRule.unitDiscount with
  | some unitDiscount => ⟨unitDiscount.minorUnits * line.quantity, unitDiscount.currency⟩
  | none => .zero line.currency

namespace Line

variable {book : Promotions} {language : Option String} {line line' middle : Line}
  {plan : LinePlan} {plans : List LinePlan} {new : List DiscountRecord} {terms : PromotionTerms}
  {rule : LineRule} {rules : List LineRule} {amount : Money}

theorem eq_worth_of_ruleAmount (h : line.ruleAmount rule = .ok amount) :
    amount = line.worth rule := by
  unfold ruleAmount at h
  unfold worth
  cases hunit : rule.unitDiscount with
  | none =>
    rw [hunit] at h
    exact (Except.ok.inj h).symm
  | some unitDiscount =>
    rw [hunit] at h
    exact (Money.times_eq_ok.1 h).2

theorem exists_of_ruleTerms_eq_ok (h : line.ruleTerms book language rule = .ok terms) :
    ∃ found promotion, book.ruleWithPromotion? rule.rule = some (found, promotion) ∧
      terms = found.terms rule.rule promotion (line.worth rule) language := by
  unfold ruleTerms at h
  split at h
  · exact nomatch h
  · next found promotion hfound =>
    simp only [bind_eq_ok, mapError_eq_ok, pure_eq_ok] at h
    obtain ⟨amount, hamount, rfl⟩ := h
    exact ⟨found, promotion, hfound, by rw [eq_worth_of_ruleAmount hamount]⟩

/-! ## Records that stay -/

/-- A record of a rule that still applies stays under its key. -/
theorem exists_of_plan {old : DiscountRecord} {key : RuleKey}
    (hnodup : (line.discounts.map (·.key)).Nodup)
    (hamount : line.catalogueDiscountAmount = .ok amount) (hne : amount.minorUnits ≠ 0)
    (h : (Line.plan book language).runOn line = (.ok plan, middle)) (hold : old ∈ line.discounts)
    (hof : old.isOf key) (hkey : key ∈ line.rules.map (·.rule)) :
    ∃ record ∈ middle.discounts, record.isOf key ∧ record.key = old.key := by
  obtain ⟨other, hother, h⟩ := plan_eq_ok.1 h
  obtain rfl := Except.ok.inj (hother.symm.trans hamount)
  rw [if_neg hne] at h
  obtain ⟨plans, hplans, -⟩ := h
  rw [filter_keys_filter hnodup] at hplans
  have hstays : old ∈ line.discounts.filter (!line.isStale ·) := by
    rw [DiscountRecord.isOf_iff] at hof
    rw [List.mem_filter]
    simp only [isStale, hof.1, hof.2, Option.any_some]
    exact ⟨hold, by simpa using hkey⟩
  have hmem := List.mem_map_of_mem (f := fun record => (record.key, record.mark)) hstays
  rw [← keyMarks_rules hplans] at hmem
  obtain ⟨record, hrecord, hsame⟩ := List.mem_map.1 hmem
  simp only [DiscountRecord.mark, Prod.mk.injEq] at hsame
  obtain ⟨hkeys, hkind, hrule, -, -⟩ := hsame
  rw [DiscountRecord.isOf_iff] at hof
  exact ⟨record, hrecord, DiscountRecord.isOf_iff.2 ⟨hkind.trans hof.1, hrule.trans hof.2⟩, hkeys⟩

/-! ## Lines -/

/-- The line has one record of the rule, which carries what the rule grants. If there was one
before, it is still that one. -/
def Bears (book : Promotions) (language : Option String) (line line' : Line)
    (lineRule : LineRule) : Prop :=
  ∃ rule promotion record, book.ruleWithPromotion? lineRule.rule = some (rule, promotion) ∧
    line'.discounts.filter (·.isOf lineRule.rule) = [record] ∧
    record.Carries (rule.terms lineRule.rule promotion (line.worth lineRule) language) ∧
    ∀ old ∈ line.discounts, old.isOf lineRule.rule → record.key = old.key

/-- The records of a line before and after it was brought in step. Without a catalogue discount the
line has no record of a promotion. Otherwise it has one of each of its rules and no others. Records
of other kinds stay as they are. -/
structure Turnover (book : Promotions) (language : Option String) (line line' : Line) : Prop where
  same : line.SameButRecords line'
  others : line'.discounts.filter (·.kind != .promotion) =
    line.discounts.filter (·.kind != .promotion)
  promotions : ∃ amount, line.catalogueDiscountAmount = .ok amount ∧
    if amount.minor = 0 then ∀ record ∈ line'.discounts, record.kind ≠ .promotion
    else
      (∀ record ∈ line'.discounts, record.kind = .promotion →
        ∃ lineRule ∈ line.rules, record.rule = some lineRule.rule) ∧
      ∀ lineRule ∈ line.rules, line.Bears book language line' lineRule

theorem minorUnits_of_catalogueDiscountAmount (h : line.catalogueDiscountAmount = .ok amount) :
    amount.minorUnits = amount.minor := by
  simp only [catalogueDiscountAmount, bind_eq_ok] at h
  obtain ⟨unit, -, htimes⟩ := h
  obtain ⟨hfits, rfl⟩ := Money.times_eq_ok.1 htimes
  exact Money.minorUnits_of_fits hfits

/-- The records of a line that was planned, once the new ones are attached. -/
theorem turnover_plan (hnodup : (line.discounts.map (·.key)).Nodup) (hdistinct : line.Distinct)
    (h : (Line.plan book language).runOn line = (.ok plan, middle))
    (hnew : new.map (·.toDiscount) = plan.creates) :
    line.Turnover book language { middle with discounts := middle.discounts ++ new } := by
  obtain ⟨hsame, ⟨grants, hgrants, hgranted, hcarried⟩, hothers, -⟩ :=
    synced_plan hnodup hdistinct h hnew
  obtain ⟨amount, hamount, hgrants⟩ := grants_eq_ok.1 hgrants
  have hunits := minorUnits_of_catalogueDiscountAmount hamount
  refine ⟨hsame, hothers, amount, hamount, ?_⟩
  by_cases hzero : amount.minor = 0
  · rw [hunits, if_pos hzero] at hgrants
    subst hgrants
    rw [if_pos hzero]
    intro record hrecord hkind
    obtain ⟨terms, hterms, -⟩ := hgranted record hrecord hkind
    exact List.not_mem_nil hterms
  · rw [hunits, if_neg hzero, mapM_eq_ok] at hgrants
    rw [if_neg hzero]
    constructor
    · intro record hrecord hkind
      obtain ⟨terms, hterms, hrule⟩ := hgranted record hrecord hkind
      obtain ⟨lineRule, hlineRule, hgrant⟩ := exists_left_of_forall₂ hgrants hterms
      exact ⟨lineRule, hlineRule, hrule.trans (congrArg some (rule_ruleTerms hgrant))⟩
    · intro lineRule hlineRule
      obtain ⟨terms, hterms, hgrant⟩ := exists_right_of_forall₂ hgrants hlineRule
      obtain ⟨record, hrecord, hcarries⟩ := hcarried terms hterms
      rw [rule_ruleTerms hgrant] at hrecord
      obtain ⟨rule, promotion, hfound, rfl⟩ := exists_of_ruleTerms_eq_ok hgrant
      refine ⟨rule, promotion, record, hfound, hrecord, hcarries, fun old hold hof => ?_⟩
      obtain ⟨heir, hheir, hheirOf, hkey⟩ := exists_of_plan hnodup hamount (hunits ▸ hzero) h hold
        hof (List.mem_map_of_mem hlineRule)
      have hmem : heir ∈ [record] := by
        rw [← hrecord]
        exact List.mem_filter.2 ⟨List.mem_append_left _ hheir, hheirOf⟩
      rw [← List.mem_singleton.1 hmem]
      exact hkey

end Line

/-! ## What is counted -/

section Count

variable {book : Promotions} {basket basket' : Basket} {ledger ledger' : Ledger}
  {changes : LineChanges} {rest : List DiscountRecord}

/-- Where keys are distinct, two lists have equally many records under keys of the other one. -/
theorem length_filter_keys_comm {records others : List DiscountRecord}
    (h : (records.map (·.key)).Nodup) (h' : (others.map (·.key)).Nodup) :
    (records.filter ((others.map (·.key)).contains ·.key)).length =
      (others.filter ((records.map (·.key)).contains ·.key)).length := by
  have hkeys : ((records.filter ((others.map (·.key)).contains ·.key)).map (·.key)).Perm
      ((others.filter ((records.map (·.key)).contains ·.key)).map (·.key)) := by
    rw [List.perm_ext_iff_of_nodup ((List.filter_sublist.map _).nodup h)
      ((List.filter_sublist.map _).nodup h')]
    intro key
    simp only [List.mem_map, List.mem_filter, List.contains_iff_mem]
    constructor
    · rintro ⟨record, ⟨hrecord, other, hother, hsame⟩, rfl⟩
      exact ⟨other, ⟨hother, record, hrecord, hsame.symm⟩, hsame⟩
    · rintro ⟨other, ⟨hother, record, hrecord, hsame⟩, rfl⟩
      exact ⟨record, ⟨hrecord, other, hother, hsame.symm⟩, hsame⟩
  simpa using hkeys.length_eq

/-- As many records are entered as there are afterwards under new keys. -/
theorem created_eq (hholds : ledger.Holds (basket.lineRecords ++ rest))
    (h : (syncLines book).runOn (basket, ledger) = (.ok changes, (basket', ledger'))) :
    changes.created = (basket'.lineRecords.filter
      (!(basket.lineRecords.map (·.key)).contains ·.key)).length := by
  obtain ⟨planned, new, hrun, hnew, rfl, hfresh, -, hcreated, -⟩ := exists_of_syncLines_eq_ok h
  have hnodup := hholds.nodup
  rw [List.map_append, List.nodup_append'] at hnodup
  have hplanned := Line.forall_planned hrun hnodup.1
  have hkept : ((planned.map Prod.snd).flatMap (·.discounts)).filter
      (!(basket.lineRecords.map (·.key)).contains ·.key) = [] := by
    rw [List.filter_eq_nil_iff]
    intro record hrecord
    obtain ⟨line', hline', hmem⟩ := List.mem_flatMap.1 hrecord
    obtain ⟨result, hresult, rfl⟩ := List.mem_map.1 hline'
    obtain ⟨line, hline, hfollows⟩ := exists_left_of_forall₂ hplanned hresult
    have hkey := hfollows.keys_sublist.subset (List.mem_map_of_mem hmem)
    obtain ⟨old, hold, hsame⟩ := List.mem_map.1 hkey
    have hbefore : old ∈ basket.lineRecords := List.mem_flatMap.2 ⟨line, hline, hold⟩
    simpa using ⟨old, hbefore, hsame⟩
  have hfreshKeys : new.filter (!(basket.lineRecords.map (·.key)).contains ·.key) = new := by
    rw [List.filter_eq_self]
    intro record hrecord
    have hnot := notMem_keys_of_nodup_append hfresh hrecord
    have hmiss : record.key ∉ basket.lineRecords.map (·.key) := by
      intro hmem
      obtain ⟨old, hold, hsame⟩ := List.mem_map.1 hmem
      exact hnot (List.mem_map.2 ⟨old, hholds.mem_iff.2 (List.mem_append_left _ hold), hsame⟩)
    simpa using hmiss
  have hattached := (attachRecords_perm hnew).filter
    (!(basket.lineRecords.map (·.key)).contains ·.key)
  rw [List.filter_append, hkept, List.nil_append, hfreshKeys] at hattached
  rw [hcreated]
  exact hattached.length_eq.symm

/-- As many records are removed as there were before under keys that are gone. -/
theorem deleted_eq (hholds : ledger.Holds (basket.lineRecords ++ rest))
    (h : (syncLines book).runOn (basket, ledger) = (.ok changes, (basket', ledger'))) :
    changes.deleted = (basket.lineRecords.filter
      (!(basket'.lineRecords.map (·.key)).contains ·.key)).length := by
  have hcreated := created_eq hholds h
  have hafter := hholds.syncLines h
  obtain ⟨planned, new, -, -, -, -, hlist, hnew, hdeleted⟩ := exists_of_syncLines_eq_ok h
  have hbefore := hholds.nodup
  have hnodup := hafter.nodup
  rw [List.map_append, List.nodup_append'] at hbefore hnodup
  -- The ledger has so many records more as were entered and so many less as were removed.
  have hsize := hafter.length_eq
  have hsize₀ := hholds.length_eq
  have hsplit := (ledger.toList ++ new).length_eq_length_filter_add
    ((LinePlan.joined (planned.map Prod.fst)).removals.contains ·.key)
  rw [hlist, LinePlan.revise, List.length_map] at hsize
  have hstay := length_filter_keys_comm hbefore.1 hnodup.1
  have hgone := basket.lineRecords.length_eq_length_filter_add
    ((basket'.lineRecords.map (·.key)).contains ·.key)
  have hcame := basket'.lineRecords.length_eq_length_filter_add
    ((basket.lineRecords.map (·.key)).contains ·.key)
  rw [List.length_append] at hsize hsize₀ hsplit
  omega

/-- **Lines brought in step.** Each line has one record of each of its rules, under the key that it
had before if there was one, and no other records of promotions, and none at all without a catalogue
discount; records of other kinds stay. The ledger holds the records of the lines afterwards instead
of those before. What is counted is how many records came and how many went. -/
theorem Basket.turnover_syncLines
    (hnodup : ((basket.lines.flatMap (·.discounts)).map (·.key)).Nodup)
    (hdistinct : ∀ line ∈ basket.lines, line.Distinct)
    (hstored : ∀ line ∈ basket.lines, ∀ record ∈ line.discounts,
      ledger.get? record.key = some record)
    (h : (syncLines book).runOn (basket, ledger) = (.ok changes, (basket', ledger'))) :
    basket' = { basket with lines := basket'.lines } ∧
      List.Forall₂ (Line.Turnover book basket.language) basket.lines basket'.lines ∧
      (∀ line ∈ basket'.lines, ∀ record ∈ line.discounts,
        ledger'.get? record.key = some record) ∧
      (∃ rest, ledger.Holds (basket.lineRecords ++ rest) ∧
        ledger'.Holds (basket'.lineRecords ++ rest)) ∧
      changes.created = (basket'.lineRecords.filter
        (!(basket.lineRecords.map (·.key)).contains ·.key)).length ∧
      changes.deleted = (basket.lineRecords.filter
        (!(basket'.lineRecords.map (·.key)).contains ·.key)).length := by
  obtain ⟨hbasket, hlines⟩ :=
    Basket.forall_of_plan (fun _ _ _ _ => Line.turnover_plan) hnodup hdistinct h
  have hstored' : ∀ record ∈ basket.lineRecords, ledger.get? record.key = some record := by
    intro record hrecord
    obtain ⟨line, hline, hmem⟩ := List.mem_flatMap.1 hrecord
    exact hstored line hline record hmem
  obtain ⟨rest, hholds⟩ := Ledger.exists_holds hnodup hstored'
  have hafter := hholds.syncLines h
  refine ⟨hbasket, hlines, ?_, ⟨rest, hholds, hafter⟩, created_eq hholds h, deleted_eq hholds h⟩
  intro line hline record hrecord
  exact hafter.get? (List.mem_append_left _ (List.mem_flatMap.2 ⟨line, hline, hrecord⟩))

/-- A discount that a rule granted to a line. -/
def granted (line : LineKey) (rule : RuleKey) : Discount where
  scope := .line line
  kind := .promotion
  valueType := .percentage
  value := .zero
  amount := .zero .gbp
  rule := some rule

/-- A line of two units at eight pounds, with a record of a rule that applies no more, one of a rule
that applies and one of another kind, and a line at its full price, with a record of a promotion. -/
def markedDown : List Line :=
  [{ unitLine ⟨1000, .gbp⟩ with
      quantity := 2, discountedUnitPrice := ⟨800, .gbp⟩
      rules := [⟨⟨1⟩, some ⟨200, .gbp⟩⟩, ⟨⟨2⟩, none⟩]
      discounts := [(granted ⟨1⟩ ⟨3⟩).withKey ⟨1⟩, (granted ⟨1⟩ ⟨1⟩).withKey ⟨2⟩,
        { granted ⟨1⟩ ⟨3⟩ with kind := .manual, rule := none }.withKey ⟨3⟩] },
    { unitLine ⟨500, .gbp⟩ with
      key := ⟨2⟩, discounts := [(granted ⟨2⟩ ⟨1⟩).withKey ⟨4⟩] }]

/-- A line has one record of each rule at most where the rules of its records are distinct. -/
theorem Line.Distinct.of_nodup {line : Line} (hrules : (line.rules.map (·.rule)).Nodup)
    (hrecords : ((line.discounts.filter (·.kind == .promotion)).map (·.rule)).Nodup) :
    line.Distinct := by
  refine ⟨hrules, fun key => ?_⟩
  have hcount := List.nodup_iff_count_le_one.1 hrecords (some key)
  rw [List.count, List.countP_map, List.countP_filter, List.countP_eq_length_filter] at hcount
  refine le_of_eq_of_le (congrArg List.length (List.filter_congr fun record _ => ?_)) hcount
  simp [DiscountRecord.isOf, Bool.and_comm]

theorem distinct_markedDown : ∀ line ∈ markedDown, line.Distinct := by
  intro line hline
  have hnodup : ∀ line ∈ markedDown, (line.rules.map (·.rule)).Nodup ∧
      ((line.discounts.filter (·.kind == .promotion)).map (·.rule)).Nodup := by decide
  exact .of_nodup (hnodup line hline).1 (hnodup line hline).2

theorem turnover_syncLines_of_two : ∃ basket' ledger',
    (syncLines (catalogueRules [.one, .hundred])).runOn
      ({ Basket.start ⟨1⟩ .gbp with lines := markedDown },
        (Ledger.empty.create ((markedDown.flatMap (·.discounts)).map (·.toDiscount))).1) =
      (.ok ⟨1, 1, 2⟩, (basket', ledger')) ∧
    List.Forall₂ (Line.Turnover (catalogueRules [.one, .hundred]) none) markedDown basket'.lines ∧
    basket'.lineRecords.map (·.key) = [⟨2⟩, ⟨3⟩, ⟨5⟩] ∧
    ∀ line ∈ basket'.lines, ∀ record ∈ line.discounts,
      ledger'.get? record.key = some record := by
  obtain ⟨-, hlines, hstored, -⟩ := @Basket.turnover_syncLines
    (catalogueRules [.one, .hundred]) { Basket.start ⟨1⟩ .gbp with lines := markedDown } _
    (Ledger.empty.create ((markedDown.flatMap (·.discounts)).map (·.toDiscount))).1 _ ⟨1, 1, 2⟩
    (by decide) distinct_markedDown (by decide) rfl
  exact ⟨_, _, rfl, hlines, rfl, hstored⟩

/-- A line of one unit that costs less than nothing, with a rule that takes twice as much off. -/
def debtLine : Line :=
  { unitLine ⟨-9000000000000000000, .gbp⟩ with
    discountedUnitPrice := ⟨0, .gbp⟩
    rules := [⟨⟨1⟩, some ⟨-18000000000000000000, .gbp⟩⟩] }

/-- A unit discount that 64 bits do not hold counts as zero, so the record of its rule says that
nothing was taken off. -/
theorem syncLines_not_always_exact :
    ¬ ∀ (book : Promotions) (basket basket' : Basket) (ledger ledger' : Ledger)
      (changes : LineChanges), ((basket.lines.flatMap (·.discounts)).map (·.key)).Nodup →
      (∀ line ∈ basket.lines, line.Distinct) →
      (∀ line ∈ basket.lines, ∀ record ∈ line.discounts,
        ledger.get? record.key = some record) →
      (syncLines book).runOn (basket, ledger) = (.ok changes, (basket', ledger')) →
      List.Forall₂ (fun line line' : Line => ∀ amount, line.catalogueDiscountAmount = .ok amount →
        amount.minor ≠ 0 → ∀ lineRule ∈ line.rules, ∀ unitDiscount,
          lineRule.unitDiscount = some unitDiscount → ∀ record ∈ line'.discounts,
            record.isOf lineRule.rule → record.amount.minor = unitDiscount.minor * line.quantity)
        basket.lines basket'.lines := by
  intro h
  have hdistinct : ∀ line ∈ [debtLine], line.Distinct :=
    List.forall_mem_singleton.2 (.of_nodup (by decide) (by decide))
  have hlines := h (catalogueRules [⟨false, 200, 0, by decide, by decide⟩])
    { Basket.start ⟨1⟩ .gbp with lines := [debtLine] } _ .empty _ ⟨1, 0, 0⟩
    (by decide) hdistinct (by decide) rfl
  obtain ⟨hline, -⟩ := List.forall₂_cons.1 hlines
  have hamount := hline ⟨-9000000000000000000, .gbp⟩ (by decide) (by decide) _
    List.mem_cons_self _ rfl _ List.mem_cons_self (by decide)
  exact absurd hamount (by decide)

end Count

end Retail
