import Retail.Proofs.Sync.Basic
import Retail.Sync.Lines

/-!
# The records of lines in step

A line is planned before anything is written, and its plan says what the ledger has to do so that it
follows the line. Plans act on records one after the other, each on the records of its own line, so
the plans of all lines may be carried out together.

## Main definitions

* `LinePlan.revise`: what a plan leaves of some records
* `Line.Planned`: a line together with the plan that follows it

## Main results

* `Line.planned_plan`: planning a line
* `LinePlan.revise_perm`: the plans of all lines carried out together
* `Basket.HeldIn.syncLines`: the ledger follows the lines
-/

namespace Retail

/-! ## Plans -/

namespace LinePlan

/-- What a plan leaves of some records: without those that it removes, and with the fields taken
over that it updates. -/
def revise (plan : LinePlan) (fields : UpdatedFields) (records : List DiscountRecord) :
    List DiscountRecord :=
  (records.filter (!plan.removals.contains ·.key)).map (·.updatedByAll fields plan.updates)

variable {plan a b : LinePlan} {fields : UpdatedFields} {records rest : List DiscountRecord}

@[simp] theorem revise_empty : ({} : LinePlan).revise fields records = records := by
  simp [revise]

theorem joined_cons (plan : LinePlan) (plans : List LinePlan) :
    joined (plan :: plans) = plan.append (joined plans) := rfl

/-- Updates keep keys, so it does not matter when records are removed. -/
theorem filter_map_updatedByAll (keys : List RecordKey) (updates : List DiscountRecord) :
    (records.map (·.updatedByAll fields updates)).filter (!keys.contains ·.key) =
      (records.filter (!keys.contains ·.key)).map (·.updatedByAll fields updates) := by
  rw [List.filter_map]
  simp only [Function.comp_def, DiscountRecord.key_updatedByAll]

/-- Joined plans act one after the other. -/
theorem revise_append :
    (a.append b).revise fields records = b.revise fields (a.revise fields records) := by
  simp only [revise, append, filter_map_updatedByAll, List.map_map, List.filter_filter]
  congr 1
  · funext record
    exact DiscountRecord.updatedByAll_append _
  · refine List.filter_congr fun record _ => ?_
    simp [Bool.and_comm]

theorem keys_revise_sublist :
    ((plan.revise fields records).map (·.key)).Sublist (records.map (·.key)) := by
  rw [revise, List.map_map]
  simp only [Function.comp_def, DiscountRecord.key_updatedByAll]
  exact List.filter_sublist.map _

/-- A plan for some records leaves the others alone. -/
theorem revise_append_records (hnodup : ((records ++ rest).map (·.key)).Nodup)
    (hremovals : ∀ key ∈ plan.removals, key ∈ records.map (·.key))
    (hupdates : ∀ update ∈ plan.updates, update.key ∈ records.map (·.key)) :
    plan.revise fields (records ++ rest) = plan.revise fields records ++ rest := by
  rw [revise, revise, ← filter_map_updatedByAll, ← filter_map_updatedByAll,
    map_updatedByAll_append hnodup hupdates, filter_keys_append]
  · simpa [Function.comp_def] using hnodup
  · simpa [Function.comp_def] using hremovals

end LinePlan

/-! ## Lines -/

namespace Line

variable {book : Promotions} {language : Option String} {line line' : Line} {a b plan : LinePlan}

/-- The line became another one, and the plan makes of its records those of the other one. -/
structure Planned (line : Line) (plan : LinePlan) (line' : Line) : Prop where
  eq : line' = { line with discounts := line'.discounts }
  discounts : ∀ fields : UpdatedFields, (∀ field ∈ plan.fields, field ∈ fields.toList) →
    line'.discounts = plan.revise fields line.discounts
  removals : ∀ key ∈ plan.removals, key ∈ line.discounts.map (·.key)
  updates : ∀ update ∈ plan.updates, update.key ∈ line.discounts.map (·.key)
  creates : ∀ discount ∈ plan.creates, discount.scope = .line line.key

theorem Planned.refl (line : Line) : line.Planned {} line :=
  ⟨rfl, fun _ _ => LinePlan.revise_empty.symm, List.forall_mem_nil _, List.forall_mem_nil _,
    List.forall_mem_nil _⟩

theorem Planned.key (h : line.Planned plan line') : line'.key = line.key := by
  rw [h.eq]

theorem Planned.keys_sublist (h : line.Planned plan line') :
    (line'.discounts.map (·.key)).Sublist (line.discounts.map (·.key)) := by
  rw [h.discounts (.ofList plan.fields) fun _ => UpdatedFields.mem_ofList.2]
  exact LinePlan.keys_revise_sublist

/-- Plans of a line follow each other. -/
theorem Planned.append {line₁ line₂ : Line} (h : line.Planned a line₁)
    (h' : line₁.Planned b line₂) : line.Planned (a.append b) line₂ := by
  refine ⟨?_, fun fields hfields => ?_, ?_, ?_, ?_⟩
  · rw [h'.eq, h.eq]
  · simp only [LinePlan.append, List.mem_append, or_imp, forall_and] at hfields
    rw [LinePlan.revise_append, ← h.discounts fields hfields.1, h'.discounts fields hfields.2]
  · simp only [LinePlan.append, List.mem_append, or_imp, forall_and]
    exact ⟨h.removals, fun key hkey => h.keys_sublist.subset (h'.removals key hkey)⟩
  · simp only [LinePlan.append, List.mem_append, or_imp, forall_and]
    exact ⟨h.updates, fun update hupdate => h.keys_sublist.subset (h'.updates update hupdate)⟩
  · simp only [LinePlan.append, List.mem_append, or_imp, forall_and]
    exact ⟨h.creates, h.key ▸ h'.creates⟩

theorem planned_planRule {rule : LineRule} (hnodup : (line.discounts.map (·.key)).Nodup)
    (h : (planRule book language rule).runOn line = (.ok plan, line')) :
    line.Planned plan line' := by
  simp only [planRule, Step.runOn_get_bind, Step.runOn_answer_bind_eq_ok] at h
  obtain ⟨terms, -, h⟩ := h
  cases hfind : line.discounts.find? fun record =>
      record.kind == .promotion && record.rule == some rule.rule with
  | none =>
    simp only [hfind, changeFirst?_of_find?_eq_none hfind, Step.runOn_pure, Prod.mk.injEq,
      Except.ok.injEq] at h
    obtain ⟨rfl, rfl⟩ := h
    exact { Planned.refl line with creates := by simp [Discount.ofTerms] }
  | some record =>
    have hmem := List.mem_of_find?_eq_some hfind
    have hchange := @changeFirst?_sync _ _ _ terms (.ofList (record.outdatedFields terms)) hnodup
      hfind fun _ => UpdatedFields.mem_ofList.2
    simp only [hfind, hchange, Step.runOn_set_bind, Step.runOn_pure, Prod.mk.injEq,
      Except.ok.injEq] at h
    obtain ⟨rfl, rfl⟩ := h
    refine ⟨rfl, fun fields hfields => ?_, List.forall_mem_nil _, ?_, List.forall_mem_nil _⟩
    · -- With more fields than were outdated the update comes to the same.
      have hsame := hchange.symm.trans (changeFirst?_sync hnodup hfind hfields)
      simp only [Option.some.injEq, Prod.mk.injEq, true_and] at hsame
      simpa [LinePlan.revise] using hsame
    · rw [List.forall_mem_singleton]
      exact List.mem_map.2 ⟨record, hmem, rfl⟩

/-- The rules of a line are planned one after the other. -/
theorem planned_rules {rules : List LineRule} {plans : List LinePlan}
    (hnodup : (line.discounts.map (·.key)).Nodup)
    (h : (rules.mapM (planRule book language)).runOn line = (.ok plans, line')) :
    line.Planned (.joined plans) line' := by
  induction rules generalizing line plans with
  | nil =>
    simp only [List.mapM_nil, Step.runOn_pure, Prod.mk.injEq, Except.ok.injEq] at h
    obtain ⟨rfl, rfl⟩ := h
    exact .refl line
  | cons rule rest ih =>
    rw [List.mapM_cons] at h
    obtain ⟨first, line₁, hfirst, h⟩ := Step.runOn_bind_eq_ok.1 h
    obtain ⟨more, line₂, hmore, h⟩ := Step.runOn_bind_eq_ok.1 h
    simp only [Step.runOn_pure, Prod.mk.injEq, Except.ok.injEq] at h
    obtain ⟨rfl, rfl⟩ := h
    have hplanned := planned_planRule hnodup hfirst
    exact hplanned.append (ih (hplanned.keys_sublist.nodup hnodup) hmore)

/-- Some records are removed from a line by their keys. -/
theorem planned_removals (line : Line) (p : DiscountRecord → Bool) :
    line.Planned { removals := (line.discounts.filter p).map (·.key) } { line with
      discounts := line.discounts.filter
        (!((line.discounts.filter p).map (·.key)).contains ·.key) } := by
  refine ⟨rfl, fun fields _ => ?_, fun _ => mem_keys_of_mem_filter, List.forall_mem_nil _,
    List.forall_mem_nil _⟩
  simp [LinePlan.revise]

/-- The record is one of a promotion whose rule does not apply to the line any more. -/
def isStale (line : Line) (record : DiscountRecord) : Bool :=
  record.kind == .promotion && !record.rule.any (line.rules.map (·.rule)).contains

/-- Without a catalogue discount a line loses all records of promotions. Otherwise it loses those of
rules that apply no more, before its rules are planned. -/
theorem plan_eq_ok :
    (Line.plan book language).runOn line = (.ok plan, line') ↔
      ∃ amount, line.catalogueDiscountAmount = .ok amount ∧
        if amount.minorUnits = 0 then
          plan = { removals := (line.discounts.filter (·.kind == .promotion)).map (·.key) } ∧
            line' = { line with discounts := line.discounts.filter (!·.kind == .promotion) }
        else
          ∃ plans, (line.rules.mapM (planRule book language)).runOn { line with
              discounts := line.discounts.filter
                (!((line.discounts.filter line.isStale).map (·.key)).contains ·.key) } =
              (.ok plans, line') ∧
            plan = LinePlan.append
              { removals := (line.discounts.filter line.isStale).map (·.key) }
              (.joined plans) := by
  simp only [Line.plan, Step.runOn_get_bind, Step.runOn_answer_bind_eq_ok, mapError_eq_ok]
  refine exists_congr fun amount => and_congr_right fun _ => ?_
  by_cases hzero : amount.minorUnits = 0
  · simp only [hzero, beq_self_eq_true, if_true, List.partition_eq_filter_filter,
      Step.runOn_set_bind, Step.runOn_pure, Prod.mk.injEq, Except.ok.injEq]
    exact and_congr eq_comm eq_comm
  · simp only [beq_iff_eq, hzero, if_false, Step.runOn_set_bind, Step.runOn_bind_eq_ok,
      Step.runOn_pure, Prod.mk.injEq, Except.ok.injEq]
    constructor
    · rintro ⟨plans, _, hplans, rfl, rfl⟩
      exact ⟨plans, hplans, rfl⟩
    · rintro ⟨plans, hplans, rfl⟩
      exact ⟨plans, _, hplans, rfl, rfl⟩

/-- A line becomes what its plan makes of it. -/
theorem planned_plan (hnodup : (line.discounts.map (·.key)).Nodup)
    (h : (Line.plan book language).runOn line = (.ok plan, line')) : line.Planned plan line' := by
  obtain ⟨amount, -, h⟩ := plan_eq_ok.1 h
  split at h
  · obtain ⟨rfl, rfl⟩ := h
    have hplanned := planned_removals line (·.kind == .promotion)
    rw [filter_keys_filter hnodup] at hplanned
    exact hplanned
  · obtain ⟨plans, hplans, rfl⟩ := h
    have hplanned := planned_removals line line.isStale
    exact hplanned.append (planned_rules (hplanned.keys_sublist.nodup hnodup) hplans)

theorem Planned.placed (h : line.Planned plan line') (hplaced : line.Placed) : line'.Placed := by
  intro record hrecord
  rw [h.discounts (.ofList plan.fields) fun _ => UpdatedFields.mem_ofList.2] at hrecord
  obtain ⟨source, hsource, rfl⟩ := List.mem_map.1 hrecord
  rw [DiscountRecord.sameOrigin_updatedByAll.scope, h.key]
  exact hplaced source (List.mem_filter.1 hsource).1

end Line

/-! ## All lines -/

section Lines

variable {lines : List Line} {planned : List (LinePlan × Line)} {fields : UpdatedFields}
  {records others : List DiscountRecord}

/-- The plans of lines that are carried out together make of their records those of the lines
afterwards, and leave other records alone. -/
theorem LinePlan.revise_perm
    (h : List.Forall₂ (fun line result => line.Planned result.1 result.2) lines planned)
    (hfields : ∀ field ∈ (joined (planned.map Prod.fst)).fields, field ∈ fields.toList)
    (hnodup : (records.map (·.key)).Nodup)
    (hperm : records.Perm (lines.flatMap (·.discounts) ++ others)) :
    ((joined (planned.map Prod.fst)).revise fields records).Perm
      ((planned.map Prod.snd).flatMap (·.discounts) ++ others) := by
  induction h generalizing records others with
  | nil => simpa [joined] using hperm
  | @cons line result rest results hplanned _ ih =>
    rw [List.map_cons, joined_cons] at hfields ⊢
    simp only [append, List.mem_append, or_imp, forall_and] at hfields
    rw [List.flatMap_cons, List.append_assoc] at hperm
    rw [revise_append, List.map_cons, List.flatMap_cons]
    have hfirst : (result.1.revise fields records).Perm
        (rest.flatMap (·.discounts) ++ (result.2.discounts ++ others)) := by
      have hrevised : (result.1.revise fields records).Perm
          (result.1.revise fields (line.discounts ++ (rest.flatMap (·.discounts) ++ others))) :=
        (hperm.filter _).map _
      rw [revise_append_records ((hperm.map _).nodup_iff.1 hnodup) hplanned.removals
        hplanned.updates, ← hplanned.discounts fields hfields.1] at hrevised
      exact hrevised.trans (List.perm_append_comm_assoc _ _ _)
    refine (ih hfields.2 (keys_revise_sublist.nodup hnodup) hfirst).trans ?_
    rw [List.append_assoc]
    exact List.perm_append_comm_assoc _ _ _

theorem Line.forall_planned {book : Promotions} {language : Option String}
    (h : List.Forall₂ (fun line result =>
      (Line.plan book language).runOn line = (.ok result.1, result.2)) lines planned)
    (hnodup : ((lines.flatMap (·.discounts)).map (·.key)).Nodup) :
    List.Forall₂ (fun line result => line.Planned result.1 result.2) lines planned := by
  induction h with
  | nil => exact .nil
  | cons hline _ ih =>
    rw [List.flatMap_cons, List.map_append, List.nodup_append'] at hnodup
    exact .cons (planned_plan hnodup.1 hline) (ih hnodup.2.1)

theorem Line.forall_placed
    (h : List.Forall₂ (fun line result => line.Planned result.1 result.2) lines planned)
    (hplaced : ∀ line ∈ lines, line.Placed) :
    ∀ result ∈ planned, result.2.Placed ∧
      ∀ discount ∈ result.1.creates, discount.scope = .line result.2.key := by
  induction h with
  | nil => exact List.forall_mem_nil _
  | cons hline _ ih =>
    rw [List.forall_mem_cons] at hplaced ⊢
    exact ⟨⟨hline.placed hplaced.1, hline.key ▸ hline.creates⟩, ih hplaced.2⟩

/-- New records that were planned are those of the first line and those of the others. -/
theorem LinePlan.exists_of_creates_cons {plan : LinePlan} {plans : List LinePlan}
    (h : records.map (·.toDiscount) = (joined (plan :: plans)).creates) :
    ∃ first more, records = first ++ more ∧ first.map (·.toDiscount) = plan.creates ∧
      more.map (·.toDiscount) = (joined plans).creates ∧
      records.take plan.creates.length = first ∧ records.drop plan.creates.length = more := by
  obtain ⟨first, more, rfl, hfirst, hmore⟩ := List.map_eq_append_iff.1 h
  have hlength : plan.creates.length = first.length := by rw [← hfirst, List.length_map]
  exact ⟨first, more, rfl, hfirst, hmore, List.take_left' hlength.symm,
    List.drop_left' hlength.symm⟩

/-- All new records are attached. -/
theorem attachRecords_perm
    (h : records.map (·.toDiscount) = (LinePlan.joined (planned.map Prod.fst)).creates) :
    ((attachRecords (planned.map Prod.snd) (planned.map Prod.fst) records).flatMap
      (·.discounts)).Perm ((planned.map Prod.snd).flatMap (·.discounts) ++ records) := by
  induction planned generalizing records with
  | nil =>
    obtain rfl := List.map_eq_nil_iff.1 h
    rfl
  | cons result results ih =>
    obtain ⟨first, more, rfl, -, hmore, htake, hdrop⟩ := LinePlan.exists_of_creates_cons h
    rw [List.map_cons, List.map_cons, attachRecords, htake, hdrop, List.flatMap_cons,
      List.flatMap_cons, List.append_assoc, List.append_assoc]
    refine List.Perm.append_left _ (((ih hmore).append_left first).trans ?_)
    exact List.perm_append_comm_assoc _ _ _

/-- New records are attached to the lines for which they were planned. -/
theorem placed_attachRecords
    (h : records.map (·.toDiscount) = (LinePlan.joined (planned.map Prod.fst)).creates)
    (hplaced : ∀ result ∈ planned, result.2.Placed ∧
      ∀ discount ∈ result.1.creates, discount.scope = .line result.2.key) :
    ∀ line ∈ attachRecords (planned.map Prod.snd) (planned.map Prod.fst) records,
      line.Placed := by
  induction planned generalizing records with
  | nil => exact List.forall_mem_nil _
  | cons result results ih =>
    obtain ⟨first, more, rfl, hfirst, hmore, htake, hdrop⟩ := LinePlan.exists_of_creates_cons h
    rw [List.forall_mem_cons] at hplaced
    obtain ⟨⟨hline, hcreates⟩, hothers⟩ := hplaced
    rw [List.map_cons, List.map_cons, attachRecords, htake, hdrop, List.forall_mem_cons]
    refine ⟨fun record hrecord => ?_, ih hmore hothers⟩
    rcases List.mem_append.1 hrecord with hold | hnew
    · exact hline record hold
    · exact hcreates _ (hfirst ▸ List.mem_map_of_mem hnew)

end Lines

/-! ## The ledger -/

section Write

variable {book : Promotions} {basket basket' : Basket} {ledger ledger' : Ledger}
  {plan : LinePlan} {plans : List LinePlan} {count : Nat} {rest : List DiscountRecord}

@[simp] theorem attachRecords_nil (lines : List Line) (plans : List LinePlan) :
    attachRecords lines plans [] = lines := by
  induction lines generalizing plans with
  | nil => cases plans <;> rfl
  | cons line rest ih =>
    cases plans with
    | nil => rfl
    | cons plan plans => simp [attachRecords, ih]

theorem exists_of_createPlanned_eq_ok
    (h : (createPlanned plans).runOn (basket, ledger) = (.ok count, (basket', ledger'))) :
    ∃ records : List DiscountRecord,
      records.map (·.toDiscount) = (LinePlan.joined plans).creates ∧
      ledger'.toList = ledger.toList ++ records ∧
      basket' = { basket with lines := attachRecords basket.lines plans records } ∧
      count = records.length := by
  unfold createPlanned at h
  by_cases hempty : (LinePlan.joined plans).creates.isEmpty
  · simp only [hempty, if_true, Step.runOn_pure, Prod.mk.injEq, Except.ok.injEq] at h
    obtain ⟨rfl, rfl, rfl⟩ := h
    exact ⟨[], (List.isEmpty_iff.1 hempty).symm, by simp, by simp, rfl⟩
  · simp only [hempty, Bool.false_eq_true, if_false, SyncStep.runOn_create_bind,
      SyncStep.runOn_changeBasket_bind, Step.runOn_pure, Prod.mk.injEq, Except.ok.injEq] at h
    obtain ⟨rfl, rfl, rfl⟩ := h
    obtain ⟨hlist, hdiscounts⟩ := @Ledger.toList_create ledger (LinePlan.joined plans).creates
    exact ⟨_, hdiscounts, hlist, rfl, rfl⟩

theorem eq_of_updatePlanned_eq_ok
    (h : (updatePlanned plan).runOn (basket, ledger) = (.ok count, (basket', ledger'))) :
    basket' = basket ∧
      ledger'.toList = ledger.toList.map (·.updatedByAll (.ofList plan.fields) plan.updates) := by
  unfold updatePlanned at h
  by_cases hnone : plan.updates.isEmpty || (UpdatedFields.ofList plan.fields).isEmpty
  · simp only [hnone, if_true, Step.runOn_pure, Prod.mk.injEq, Except.ok.injEq] at h
    obtain ⟨-, rfl, rfl⟩ := h
    refine ⟨rfl, ((List.map_congr_left fun record _ => ?_).trans (List.map_id _)).symm⟩
    rcases Bool.or_eq_true_iff.1 hnone with hnone | hnone
    · rw [List.isEmpty_iff.1 hnone, DiscountRecord.updatedByAll_nil, id]
    · exact DiscountRecord.updatedByAll_of_isEmpty hnone
  · simp only [hnone, Bool.false_eq_true, if_false, SyncStep.runOn_update_bind_eq_ok,
      Step.runOn_pure, Prod.mk.injEq, Except.ok.injEq] at h
    obtain ⟨_, hupdate, -, rfl, rfl⟩ := h
    exact ⟨rfl, Ledger.toList_update hupdate⟩

theorem eq_of_deletePlanned_eq_ok
    (h : (deletePlanned plan).runOn (basket, ledger) = (.ok count, (basket', ledger'))) :
    basket' = basket ∧ ledger'.toList = ledger.toList.filter (!plan.removals.contains ·.key) ∧
      count = (ledger.toList.filter (plan.removals.contains ·.key)).length := by
  unfold deletePlanned at h
  by_cases hnone : plan.removals.isEmpty
  · simp only [hnone, if_true, Step.runOn_pure, Prod.mk.injEq, Except.ok.injEq] at h
    obtain ⟨rfl, rfl, rfl⟩ := h
    rw [List.isEmpty_iff.1 hnone]
    simp
  · simp only [hnone, Bool.false_eq_true, if_false, SyncStep.runOn_delete, Prod.mk.injEq,
      Except.ok.injEq] at h
    obtain ⟨rfl, rfl, rfl⟩ := h
    exact ⟨rfl, Ledger.toList_delete _, Ledger.count_delete _⟩

/-- The lines are planned, the new records attached, and the ledger follows all plans. -/
theorem exists_of_syncLines_eq_ok {changes : LineChanges}
    (h : (syncLines book).runOn (basket, ledger) = (.ok changes, (basket', ledger'))) :
    ∃ (planned : List (LinePlan × Line)) (records : List DiscountRecord),
      List.Forall₂ (fun line result =>
        (Line.plan book basket.language).runOn line = (.ok result.1, result.2))
        basket.lines planned ∧
      records.map (·.toDiscount) = (LinePlan.joined (planned.map Prod.fst)).creates ∧
      basket' = { basket with
        lines := attachRecords (planned.map Prod.snd) (planned.map Prod.fst) records } ∧
      ((ledger.toList ++ records).map (·.key)).Nodup ∧
      ledger'.toList = (LinePlan.joined (planned.map Prod.fst)).revise
        (.ofList (LinePlan.joined (planned.map Prod.fst)).fields) (ledger.toList ++ records) ∧
      changes.created = records.length ∧
      changes.deleted = ((ledger.toList ++ records).filter
        ((LinePlan.joined (planned.map Prod.fst)).removals.contains ·.key)).length := by
  simp only [syncLines, SyncStep.runOn_basket_bind] at h
  obtain ⟨plans, whole, hplans, h⟩ := Step.runOn_bind_eq_ok.1 h
  obtain ⟨lines, heach, rfl⟩ := Step.runOn_on_eq_ok.1 hplans
  obtain ⟨planned, hplanned, rfl, rfl⟩ := Step.runOn_onEach_eq_ok.1 heach
  obtain ⟨created, ⟨basket₁, ledger₁⟩, hcreate, h⟩ := Step.runOn_bind_eq_ok.1 h
  obtain ⟨updated, ⟨basket₂, ledger₂⟩, hupdate, h⟩ := Step.runOn_bind_eq_ok.1 h
  obtain ⟨deleted, ⟨basket₃, ledger₃⟩, hdelete, h⟩ := Step.runOn_bind_eq_ok.1 h
  obtain ⟨records, hrecords, hlist₁, rfl, rfl⟩ := exists_of_createPlanned_eq_ok hcreate
  obtain ⟨rfl, hlist₂⟩ := eq_of_updatePlanned_eq_ok hupdate
  obtain ⟨rfl, hlist₃, rfl⟩ := eq_of_deletePlanned_eq_ok hdelete
  simp only [Step.runOn_pure, Prod.mk.injEq, Except.ok.injEq] at h
  obtain ⟨rfl, rfl, rfl⟩ := h
  refine ⟨planned, records, hplanned, hrecords, rfl, hlist₁ ▸ ledger₁.nodup_keys, ?_, rfl, ?_⟩
  · -- Records are created, updated and deleted in this order; a plan removes before it updates.
    rw [hlist₃, hlist₂, hlist₁, LinePlan.filter_map_updatedByAll, LinePlan.revise]
  · rw [hlist₂, hlist₁, List.filter_map, List.length_map]
    simp only [Function.comp_def, DiscountRecord.key_updatedByAll]

/-- The records of the lines of a basket. -/
def Basket.lineRecords (basket : Basket) : List DiscountRecord :=
  basket.lines.flatMap (·.discounts)

/-- The ledger holds the records of the lines afterwards instead of those before. -/
theorem Ledger.Holds.syncLines (hholds : ledger.Holds (basket.lineRecords ++ rest))
    {changes : LineChanges}
    (h : (Retail.syncLines book).runOn (basket, ledger) = (.ok changes, (basket', ledger'))) :
    ledger'.Holds (basket'.lineRecords ++ rest) := by
  obtain ⟨planned, new, hrun, hnew, rfl, hfresh, hlist, -, -⟩ := exists_of_syncLines_eq_ok h
  have hnodup := hholds.nodup
  rw [List.map_append, List.nodup_append'] at hnodup
  have hplanned := Line.forall_planned hrun hnodup.1
  -- The new records stand aside while the plans are carried out, and then join their lines.
  have hbefore : (ledger.toList ++ new).Perm
      (basket.lines.flatMap (·.discounts) ++ (new ++ rest)) := by
    refine (hholds.append_right new).trans ?_
    rw [List.append_assoc]
    exact List.perm_append_comm.append_left _
  have hrevised :=
    LinePlan.revise_perm hplanned (fun _ => UpdatedFields.mem_ofList.2) hfresh hbefore
  rw [← List.append_assoc] at hrevised
  rw [Ledger.Holds, hlist]
  exact hrevised.trans ((attachRecords_perm hnew).symm.append_right _)

/-- The records of the order stand aside while those of the lines change. -/
theorem Basket.holds_records :
    ledger.Holds (basket.records ++ rest) ↔
      ledger.Holds (basket.lineRecords ++ (basket.discounts ++ rest)) := by
  rw [records, List.append_assoc]
  constructor
  · intro h
    exact h.perm (List.perm_append_comm_assoc _ _ _)
  · intro h
    exact h.perm (List.perm_append_comm_assoc _ _ _)

/-- The ledger follows the lines of a basket. -/
theorem Basket.HeldIn.syncLines (hheld : basket.HeldIn ledger rest) {changes : LineChanges}
    (h : (Retail.syncLines book).runOn (basket, ledger) = (.ok changes, (basket', ledger'))) :
    basket'.HeldIn ledger' rest := by
  have hholds := holds_records.1 hheld.holds
  have hfollows := hholds.syncLines h
  obtain ⟨planned, new, hrun, hnew, rfl, -, -, -, -⟩ := exists_of_syncLines_eq_ok h
  have hnodup := hholds.nodup
  rw [List.map_append, List.nodup_append'] at hnodup
  have hplanned := Line.forall_planned hrun hnodup.1
  refine ⟨⟨hheld.placed.order,
    placed_attachRecords hnew (Line.forall_placed hplanned hheld.placed.line)⟩, ?_⟩
  exact holds_records.2 hfollows

end Write

end Retail
