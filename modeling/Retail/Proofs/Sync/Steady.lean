import Retail.Proofs.Sync.Grants

/-!
# Lines that are in step already

A line whose records carry what its rules grant is planned without any change, so nothing is written
for it. Other lines can be brought in step whenever it is known what their rules grant, because the
ledger has every record that is to be updated.

## Main definitions

* `LinePlan.Idle`: a plan that asks for no write
* `Line.InStep`: a line whose records carry its grants

## Main results

* `Line.plan_of_inStep`, `runOn_syncLines_of_inStep`: lines in step are left as they are
* `Line.exists_plan`, `Basket.HeldIn.exists_syncLines`: lines whose grants are known
* `exists_syncLines_of_planned`: lines that are planned
-/

namespace Retail

/-! ## Nothing to write -/

/-- A plan that asks for no write. -/
structure LinePlan.Idle (plan : LinePlan) : Prop where
  creates : plan.creates = []
  fields : plan.fields = []
  removals : plan.removals = []

theorem LinePlan.idle_joined {plans : List LinePlan} (h : ∀ plan ∈ plans, plan.Idle) :
    (joined plans).Idle := by
  induction plans with
  | nil => exact ⟨rfl, rfl, rfl⟩
  | cons plan rest ih =>
    rw [List.forall_mem_cons] at h
    obtain ⟨⟨hcreates, hfields, hremovals⟩, hrest⟩ := h
    obtain ⟨hcreates', hfields', hremovals'⟩ := ih hrest
    rw [joined_cons]
    exact ⟨List.append_eq_nil_iff.2 ⟨hcreates, hcreates'⟩,
      List.append_eq_nil_iff.2 ⟨hfields, hfields'⟩,
      List.append_eq_nil_iff.2 ⟨hremovals, hremovals'⟩⟩

namespace Line

variable {book : Promotions} {language : Option String} {line line' : Line} {plan : LinePlan}
  {terms : PromotionTerms} {rule : LineRule} {rules : List LineRule}

/-- The records of the line carry what its rules grant. -/
def InStep (book : Promotions) (language : Option String) (line : Line) : Prop :=
  ∃ grants, line.grants book language = .ok grants ∧ Carry line.discounts grants

theorem Synced.inStep (h : line.Synced book language line') : line'.InStep book language := by
  obtain ⟨grants, hgrants, hcarry⟩ := h.carry
  exact ⟨grants, h.same.grants.trans hgrants, hcarry⟩

theorem planRule_of_carries {record : DiscountRecord}
    (hterms : line.ruleTerms book language rule = .ok terms)
    (hrecord : line.discounts.filter (·.isOf rule.rule) = [record])
    (hcarries : record.Carries terms) :
    (planRule book language rule).runOn line = (.ok { updates := [record] }, line) := by
  have hfind : line.discounts.find? (·.isOf rule.rule) = some record := by
    rw [← List.head?_filter, hrecord]
    rfl
  have hsync : record.sync terms = record := by
    rw [DiscountRecord.sync, Discount.sync_of_carries hcarries, DiscountRecord.withKey_key]
  obtain ⟨before, after, hsplit, hchange⟩ :=
    changeFirst?_of_find?_eq_some (f := (·.sync terms)) hfind
  refine planRule_eq_ok.2 ⟨terms, hterms, .inr ⟨record, line.discounts, hfind, ?_, ?_, rfl⟩⟩
  · rw [hchange, hsync, ← hsplit]
  · rw [hsync, Discount.outdatedFields_eq_nil_iff.2 hcarries]

/-- Rules whose records carry what they grant are planned without any change. -/
theorem rules_of_carries
    (h : ∀ rule ∈ rules, ∃ terms record, line.ruleTerms book language rule = .ok terms ∧
      line.discounts.filter (·.isOf rule.rule) = [record] ∧ record.Carries terms) :
    ∃ plans, (rules.mapM (planRule book language)).runOn line = (.ok plans, line) ∧
      ∀ plan ∈ plans, plan.Idle := by
  induction rules with
  | nil => exact ⟨[], rfl, List.forall_mem_nil _⟩
  | cons rule rest ih =>
    rw [List.forall_mem_cons] at h
    obtain ⟨⟨terms, record, hterms, hrecord, hcarries⟩, hrest⟩ := h
    obtain ⟨plans, hplans, hidle⟩ := ih hrest
    refine ⟨{ updates := [record] } :: plans, ?_, List.forall_mem_cons.2 ⟨⟨rfl, rfl, rfl⟩, hidle⟩⟩
    rw [List.mapM_cons, Step.runOn_bind_eq_ok]
    refine ⟨_, line, planRule_of_carries hterms hrecord hcarries, ?_⟩
    rw [Step.runOn_bind_eq_ok]
    exact ⟨_, line, hplans, rfl⟩

/-- Where nothing is selected, everything else is. -/
theorem filter_not_eq_self {α : Type} {p : α → Bool} {xs : List α} (h : xs.filter p = []) :
    xs.filter (!p ·) = xs := by
  rw [List.filter_eq_nil_iff] at h
  exact List.filter_eq_self.2 fun x hx => by simpa using h x hx

/-- A line in step is planned without any change. -/
theorem plan_of_inStep (h : line.InStep book language) :
    ∃ plan, (Line.plan book language).runOn line = (.ok plan, line) ∧ plan.Idle := by
  obtain ⟨grants, hgrants, hcarry⟩ := h
  obtain ⟨amount, hamount, hgrants⟩ := grants_eq_ok.1 hgrants
  simp only [plan_eq_ok, hamount, Except.ok.injEq, exists_eq_left']
  by_cases hzero : amount.minorUnits = 0
  · rw [if_pos hzero] at hgrants
    have hnone : line.discounts.filter (·.kind == .promotion) = [] := by
      rw [List.filter_eq_nil_iff]
      intro record hrecord hkind
      obtain ⟨terms, hterms, -⟩ := hcarry.granted record hrecord (beq_iff_eq.1 hkind)
      rw [hgrants] at hterms
      exact absurd hterms List.not_mem_nil
    simp only [if_pos hzero, hnone, filter_not_eq_self hnone]
    exact ⟨_, ⟨rfl, trivial⟩, ⟨rfl, rfl, rfl⟩⟩
  · rw [if_neg hzero, mapM_eq_ok] at hgrants
    have hstale : line.discounts.filter line.isStale = [] := by
      rw [List.filter_eq_nil_iff]
      intro record hrecord hkept
      rw [isStale, Bool.and_eq_true, beq_iff_eq] at hkept
      obtain ⟨terms, hterms, hkey⟩ := hcarry.granted record hrecord hkept.1
      obtain ⟨rule, hrule, hgranted⟩ := exists_left_of_forall₂ hgrants hterms
      have hmem : terms.rule ∈ line.rules.map (·.rule) :=
        rule_ruleTerms hgranted ▸ List.mem_map_of_mem hrule
      simp [hkey, hmem] at hkept
    have hrules : ∀ rule ∈ line.rules, ∃ terms record,
        line.ruleTerms book language rule = .ok terms ∧
        line.discounts.filter (·.isOf rule.rule) = [record] ∧ record.Carries terms := by
      intro rule hrule
      obtain ⟨terms, hterms, hgranted⟩ := exists_right_of_forall₂ hgrants hrule
      obtain ⟨record, hrecord, hcarries⟩ := hcarry.carried terms hterms
      rw [rule_ruleTerms hgranted] at hrecord
      exact ⟨terms, record, hgranted, hrecord, hcarries⟩
    obtain ⟨plans, hplans, hidle⟩ := rules_of_carries hrules
    obtain ⟨hcreates, hfields, hremovals⟩ := LinePlan.idle_joined hidle
    simp only [if_neg hzero, hstale, List.map_nil, List.contains_nil, Bool.not_false,
      List.filter_true]
    exact ⟨_, ⟨plans, hplans, rfl⟩, ⟨hcreates, hfields, hremovals⟩⟩

/-! ## Grants that are known -/

theorem exists_planRule (h : line.ruleTerms book language rule = .ok terms) :
    ∃ plan line', (planRule book language rule).runOn line = (.ok plan, line') ∧
      line.SameButRecords line' := by
  cases hfind : line.discounts.find? (·.isOf rule.rule) with
  | none => exact ⟨_, line, planRule_eq_ok.2 ⟨terms, h, .inl ⟨hfind, rfl, rfl⟩⟩, rfl⟩
  | some record =>
    obtain ⟨_, _, -, hchange⟩ := changeFirst?_of_find?_eq_some (f := (·.sync terms)) hfind
    exact ⟨_, _, planRule_eq_ok.2 ⟨terms, h, .inr ⟨record, _, hfind, hchange, rfl, rfl⟩⟩, rfl⟩

theorem exists_rules (h : ∀ rule ∈ rules, ∃ terms, line.ruleTerms book language rule = .ok terms) :
    ∃ plans line', (rules.mapM (planRule book language)).runOn line = (.ok plans, line') := by
  induction rules generalizing line with
  | nil => exact ⟨[], line, rfl⟩
  | cons rule rest ih =>
    rw [List.forall_mem_cons] at h
    obtain ⟨⟨terms, hterms⟩, hrest⟩ := h
    obtain ⟨first, middle, hfirst, hsame⟩ := exists_planRule hterms
    rw [← hsame.ruleTerms] at hrest
    obtain ⟨plans, line', hplans⟩ := ih hrest
    refine ⟨first :: plans, line', ?_⟩
    rw [List.mapM_cons, Step.runOn_bind_eq_ok]
    refine ⟨first, middle, hfirst, ?_⟩
    rw [Step.runOn_bind_eq_ok]
    exact ⟨plans, line', hplans, rfl⟩

/-- A line can be planned when it is known what its rules grant. -/
theorem exists_plan {grants : List PromotionTerms} (h : line.grants book language = .ok grants) :
    ∃ plan line', (Line.plan book language).runOn line = (.ok plan, line') := by
  obtain ⟨amount, hamount, hgrants⟩ := grants_eq_ok.1 h
  by_cases hzero : amount.minorUnits = 0
  · simp [plan_eq_ok, hamount, hzero]
  · rw [if_neg hzero, mapM_eq_ok] at hgrants
    have hrules : ∀ rule ∈ line.rules, ∃ terms, line.ruleTerms book language rule = .ok terms := by
      intro rule hrule
      obtain ⟨terms, -, hterms⟩ := exists_right_of_forall₂ hgrants hrule
      exact ⟨terms, hterms⟩
    have hplanned : ∃ plans line', (line.rules.mapM (planRule book language)).runOn { line with
        discounts := line.discounts.filter
          (!((line.discounts.filter line.isStale).map (·.key)).contains ·.key) } =
        (.ok plans, line') :=
      exists_rules hrules
    obtain ⟨plans, line', hplans⟩ := hplanned
    simp only [plan_eq_ok, hamount, Except.ok.injEq, exists_eq_left', if_neg hzero]
    exact ⟨_, line', plans, hplans, rfl⟩

/-! ## What is updated -/

/-- What a rule updates is a record of the line. -/
theorem key_mem_of_mem_updates_planRule
    (h : (planRule book language rule).runOn line = (.ok plan, line')) :
    ∀ update ∈ plan.updates, update.key ∈ line.discounts.map (·.key) := by
  obtain ⟨terms, -, ⟨-, rfl, -⟩ | ⟨record, _, hfind, -, rfl, -⟩⟩ := planRule_eq_ok.1 h
  · exact List.forall_mem_nil _
  · rw [List.forall_mem_singleton]
    exact List.mem_map.2 ⟨record, List.mem_of_find?_eq_some hfind, rfl⟩

theorem key_mem_of_mem_updates_rules {plans : List LinePlan}
    (h : (rules.mapM (planRule book language)).runOn line = (.ok plans, line')) :
    ∀ update ∈ (LinePlan.joined plans).updates, update.key ∈ line.discounts.map (·.key) := by
  -- Induction on the rules; the records stay under their keys from each rule to the next.
  induction rules generalizing line plans with
  | nil =>
    obtain ⟨hplans, -⟩ := Prod.mk.inj h
    obtain rfl := Except.ok.inj hplans
    exact List.forall_mem_nil _
  | cons rule rest ih =>
    rw [List.mapM_cons] at h
    obtain ⟨first, middle, hfirst, h⟩ := Step.runOn_bind_eq_ok.1 h
    obtain ⟨others, _, hothers, h⟩ := Step.runOn_bind_eq_ok.1 h
    simp only [Step.runOn_pure, Prod.mk.injEq, Except.ok.injEq] at h
    obtain ⟨rfl, rfl⟩ := h
    have hkeys : middle.discounts.map (·.key) = line.discounts.map (·.key) := by
      simpa [Function.comp_def] using congrArg (List.map Prod.fst) (keyMarks_planRule hfirst)
    rw [LinePlan.joined_cons]
    exact List.forall_mem_append.2
      ⟨key_mem_of_mem_updates_planRule hfirst, hkeys ▸ ih hothers⟩

theorem key_mem_of_mem_updates_plan
    (h : (Line.plan book language).runOn line = (.ok plan, line')) :
    ∀ update ∈ plan.updates, update.key ∈ line.discounts.map (·.key) := by
  obtain ⟨amount, -, h⟩ := plan_eq_ok.1 h
  split at h
  · obtain ⟨rfl, -⟩ := h
    exact List.forall_mem_nil _
  · obtain ⟨plans, hplans, rfl⟩ := h
    exact fun update hupdate =>
      mem_keys_of_mem_filter (key_mem_of_mem_updates_rules hplans update hupdate)

end Line

/-! ## All lines -/

section Lines

variable {book : Promotions} {basket basket' : Basket} {ledger ledger' : Ledger}
  {rest : List DiscountRecord} {plan : LinePlan} {plans : List LinePlan}

theorem createPlanned_of_idle (h : (LinePlan.joined plans).Idle) :
    (createPlanned plans).runOn (basket, ledger) = (.ok 0, (basket, ledger)) := by
  unfold createPlanned
  rw [h.creates]
  rfl

theorem updatePlanned_of_idle (h : plan.Idle) :
    (updatePlanned plan).runOn (basket, ledger) = (.ok 0, (basket, ledger)) := by
  have hfields : (UpdatedFields.ofList plan.fields).isEmpty = true := by rw [h.fields]; rfl
  unfold updatePlanned
  simp only [hfields, Bool.or_true, if_true, Step.runOn_pure]

theorem deletePlanned_of_idle (h : plan.Idle) :
    (deletePlanned plan).runOn (basket, ledger) = (.ok 0, (basket, ledger)) := by
  unfold deletePlanned
  rw [h.removals]
  rfl

theorem forall_plan_of_inStep {language : Option String} {lines : List Line}
    (h : ∀ line ∈ lines, line.InStep book language) :
    ∃ plans, (Step.onEach (Line.plan book language)).runOn lines = (.ok plans, lines) ∧
      ∀ plan ∈ plans, plan.Idle := by
  induction lines with
  | nil => exact ⟨[], rfl, List.forall_mem_nil _⟩
  | cons line others ih =>
    rw [List.forall_mem_cons] at h
    obtain ⟨plan, hplan, hidle⟩ := Line.plan_of_inStep h.1
    obtain ⟨plans, hplans, hidles⟩ := ih h.2
    exact ⟨plan :: plans, Step.runOn_onEach_cons_eq_ok.2
      ⟨plan, line, plans, others, hplan, hplans, rfl, rfl⟩, List.forall_mem_cons.2 ⟨hidle, hidles⟩⟩

/-- Lines in step are left as they are, and nothing is written for them. -/
theorem runOn_syncLines_of_inStep (h : ∀ line ∈ basket.lines, line.InStep book basket.language) :
    (syncLines book).runOn (basket, ledger) = (.ok ⟨0, 0, 0⟩, (basket, ledger)) := by
  obtain ⟨plans, hplans, hidle⟩ := forall_plan_of_inStep h
  have hjoined := LinePlan.idle_joined hidle
  simp only [syncLines, SyncStep.runOn_basket_bind, Step.runOn_bind_eq_ok]
  exact ⟨plans, _, Step.runOn_on_eq_ok.2 ⟨basket.lines, hplans, rfl⟩,
    0, _, createPlanned_of_idle hjoined, 0, _, updatePlanned_of_idle hjoined,
    0, _, deletePlanned_of_idle hjoined, rfl⟩

theorem exists_createPlanned (plans : List LinePlan) (basket : Basket) (ledger : Ledger) :
    ∃ count basket' ledger', (createPlanned plans).runOn (basket, ledger) =
      (.ok count, (basket', ledger')) := by
  unfold createPlanned
  by_cases hnone : (LinePlan.joined plans).creates.isEmpty
  · exact ⟨0, basket, ledger, by simp only [hnone, if_true, Step.runOn_pure]⟩
  · simp only [hnone, Bool.false_eq_true, if_false, SyncStep.runOn_create_bind,
      SyncStep.runOn_changeBasket_bind, Step.runOn_pure]
    exact ⟨_, _, _, rfl⟩

theorem exists_updatePlanned
    (h : ∀ update ∈ plan.updates, update.key ∈ ledger.toList.map (·.key)) :
    ∃ count ledger', (updatePlanned plan).runOn (basket, ledger) =
      (.ok count, (basket, ledger')) := by
  unfold updatePlanned
  by_cases hnone : (plan.updates.isEmpty || (UpdatedFields.ofList plan.fields).isEmpty) = true
  · exact ⟨0, ledger, by simp only [hnone, if_true, Step.runOn_pure]⟩
  · obtain ⟨ledger', hupdate⟩ := Ledger.exists_update h
    refine ⟨plan.updates.length, ledger', ?_⟩
    simp only [hnone, Bool.false_eq_true, if_false]
    exact SyncStep.runOn_update_bind_eq_ok.2 ⟨ledger', hupdate, rfl⟩

theorem exists_deletePlanned (plan : LinePlan) (basket : Basket) (ledger : Ledger) :
    ∃ count ledger', (deletePlanned plan).runOn (basket, ledger) =
      (.ok count, (basket, ledger')) := by
  unfold deletePlanned
  split
  · exact ⟨0, ledger, rfl⟩
  · exact ⟨_, _, rfl⟩

theorem exists_forall_plan {language : Option String} {lines : List Line}
    (h : ∀ line ∈ lines, ∃ grants, line.grants book language = .ok grants) :
    ∃ planned : List (LinePlan × Line), List.Forall₂ (fun line result =>
      (Line.plan book language).runOn line = (.ok result.1, result.2)) lines planned := by
  induction lines with
  | nil => exact ⟨[], .nil⟩
  | cons line others ih =>
    rw [List.forall_mem_cons] at h
    obtain ⟨⟨grants, hgrants⟩, hothers⟩ := h
    obtain ⟨plan, line', hplan⟩ := Line.exists_plan hgrants
    obtain ⟨planned, hplanned⟩ := ih hothers
    exact ⟨(plan, line') :: planned, .cons hplan hplanned⟩

/-- What is updated is a record of one of the lines. -/
theorem key_mem_of_mem_updates_joined {language : Option String} {lines : List Line}
    {planned : List (LinePlan × Line)}
    (h : List.Forall₂ (fun line result =>
      (Line.plan book language).runOn line = (.ok result.1, result.2)) lines planned) :
    ∀ update ∈ (LinePlan.joined (planned.map Prod.fst)).updates,
      update.key ∈ (lines.flatMap (·.discounts)).map (·.key) := by
  induction h with
  | nil => exact List.forall_mem_nil _
  | cons hline _ ih =>
    rw [List.map_cons, LinePlan.joined_cons, List.flatMap_cons, List.map_append]
    refine List.forall_mem_append.2 ⟨fun update hupdate => ?_, fun update hupdate => ?_⟩
    · exact List.mem_append_left _ (Line.key_mem_of_mem_updates_plan hline update hupdate)
    · exact List.mem_append_right _ (ih update hupdate)

/-- Once all lines are planned nothing fails, since the ledger has their records. -/
theorem exists_syncLines_of_planned {planned : List (LinePlan × Line)}
    (hplanned : List.Forall₂ (fun line result =>
      (Line.plan book basket.language).runOn line = (.ok result.1, result.2)) basket.lines planned)
    (hstored : ∀ line ∈ basket.lines, ∀ record ∈ line.discounts, record ∈ ledger.toList) :
    ∃ changes basket' ledger', (syncLines book).runOn (basket, ledger) =
      (.ok changes, (basket', ledger')) := by
  obtain ⟨created, basket₁, ledger₁, hcreate⟩ := exists_createPlanned (planned.map Prod.fst)
    { basket with lines := planned.map Prod.snd } ledger
  obtain ⟨new, -, hlist, rfl, -⟩ := exists_of_createPlanned_eq_ok hcreate
  have hupdates : ∀ update ∈ (LinePlan.joined (planned.map Prod.fst)).updates,
      update.key ∈ ledger₁.toList.map (·.key) := by
    intro update hupdate
    obtain ⟨record, hrecord, hkey⟩ :=
      List.mem_map.1 (key_mem_of_mem_updates_joined hplanned update hupdate)
    obtain ⟨line, hline, hmem⟩ := List.mem_flatMap.1 hrecord
    exact List.mem_map.2
      ⟨record, hlist ▸ List.mem_append_left _ (hstored line hline record hmem), hkey⟩
  obtain ⟨updated, ledger₂, hupdate⟩ := exists_updatePlanned hupdates
  obtain ⟨deleted, ledger₃, hdelete⟩ :=
    exists_deletePlanned (LinePlan.joined (planned.map Prod.fst)) _ ledger₂
  simp only [syncLines, SyncStep.runOn_basket_bind, Step.runOn_bind_eq_ok]
  exact ⟨_, _, _, _, _, Step.runOn_on_eq_ok.2
    ⟨_, Step.runOn_onEach_eq_ok.2 ⟨planned, hplanned, rfl, rfl⟩, rfl⟩, created, _, hcreate, updated,
    _, hupdate, deleted, _, hdelete, rfl⟩

/-- Lines can be brought in step when it is known what their rules grant. -/
theorem Basket.HeldIn.exists_syncLines (hheld : basket.HeldIn ledger rest)
    (h : ∀ line ∈ basket.lines, ∃ grants, line.grants book basket.language = .ok grants) :
    ∃ changes basket' ledger', (Retail.syncLines book).runOn (basket, ledger) =
      (.ok changes, (basket', ledger')) := by
  obtain ⟨planned, hplanned⟩ := exists_forall_plan h
  exact exists_syncLines_of_planned hplanned
    fun _ hline _ hrecord => hheld.mem_toList_of_mem_lines hline hrecord

end Lines

end Retail
