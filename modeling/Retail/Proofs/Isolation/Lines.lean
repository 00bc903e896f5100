import Retail.Proofs.Sync.Steady
import Retail.Proofs.UpToDate

/-!
# Lines under other keys

The keys of records are those that the ledger had free when it entered them. Nothing else depends on
them: lines whose records say the same under other keys are brought in step to lines of that kind
again, whatever else is in the ledger.

## Main definitions

* `Line.Rekeyed`: lines that are the same but for the keys of their records

## Main results

* `Line.Rekeyed.exists_plan`: a line that is planned
* `Line.exists_planned_of_rekeyed`, `Line.rekeyed_attachRecords`: lines with their new records
-/

namespace Retail

/-! ## Records -/

section Records

/-- What is seen of elements is changed as they are. -/
theorem changeFirst?_map {α β : Type} {f : α → β} {p : β → Bool} {g : α → α} {k : β → β}
    (hchange : ∀ x, f (g x) = k (f x)) (xs : List α) :
    changeFirst? p k (xs.map f) =
      (changeFirst? (fun x => p (f x)) g xs).map fun change => (f change.1, change.2.map f) := by
  induction xs with
  | nil => rfl
  | cons x rest ih =>
    rw [List.map_cons, changeFirst?, changeFirst?]
    split
    · simp [hchange]
    · rw [ih, Option.map_map, Option.map_map]
      rfl

variable {records others : List DiscountRecord}

/-- Selecting by what records say does not look at their keys. -/
theorem map_filter_toDiscount (p : Discount → Bool)
    (h : others.map (·.toDiscount) = records.map (·.toDiscount)) :
    (others.filter (p ·.toDiscount)).map (·.toDiscount) =
      (records.filter (p ·.toDiscount)).map (·.toDiscount) := by
  have hfilter : ∀ records : List DiscountRecord,
      (records.filter (p ·.toDiscount)).map (·.toDiscount) =
        (records.map (·.toDiscount)).filter p := fun records => List.filter_map.symm
  rw [hfilter, hfilter, h]

theorem map_find?_toDiscount (p : Discount → Bool)
    (h : others.map (·.toDiscount) = records.map (·.toDiscount)) :
    (others.find? (p ·.toDiscount)).map (·.toDiscount) =
      (records.find? (p ·.toDiscount)).map (·.toDiscount) := by
  have hfind : ∀ records : List DiscountRecord,
      (records.find? (p ·.toDiscount)).map (·.toDiscount) =
        (records.map (·.toDiscount)).find? p := fun records => List.find?_map.symm
  rw [hfind, hfind, h]

/-- The first records of a kind are brought in line alike. -/
theorem map_changeFirst?_sync (p : Discount → Bool) (terms : PromotionTerms)
    (h : others.map (·.toDiscount) = records.map (·.toDiscount)) :
    (changeFirst? (p ·.toDiscount) (·.sync terms) others).map
        (fun change => change.2.map (·.toDiscount)) =
      (changeFirst? (p ·.toDiscount) (·.sync terms) records).map
        (fun change => change.2.map (·.toDiscount)) := by
  have hchange : ∀ records : List DiscountRecord,
      (changeFirst? (p ·.toDiscount) (·.sync terms) records).map
          (fun change => change.2.map (·.toDiscount)) =
        (changeFirst? p (·.sync terms) (records.map (·.toDiscount))).map Prod.snd := by
    intro records
    have hmap := @changeFirst?_map _ _ DiscountRecord.toDiscount p (·.sync terms) (·.sync terms)
      (fun _ => rfl) records
    rw [hmap, Option.map_map]
    rfl
  rw [hchange, hchange, h]

end Records

/-! ## Plans -/

/-- Plans that create the same one by one create the same together. -/
theorem LinePlan.creates_joined_congr {planned planned₂ : List (LinePlan × Line)}
    (h : List.Forall₂ (fun result result₂ => result₂.1.creates = result.1.creates) planned
      planned₂) :
    (joined (planned₂.map Prod.fst)).creates = (joined (planned.map Prod.fst)).creates := by
  induction h with
  | nil => rfl
  | cons hfirst _ ih =>
    rw [List.map_cons, List.map_cons, joined_cons, joined_cons, append, append, hfirst, ih]

/-- The lines are the same, and their records say the same under keys of their own. -/
structure Line.Rekeyed (line other : Line) : Prop where
  same : line.SameButRecords other
  discounts : other.discounts.map (·.toDiscount) = line.discounts.map (·.toDiscount)

namespace Line

variable {line other line' : Line} {book : Promotions} {language : Option String}
  {plan : LinePlan} {plans : List LinePlan} {rule : LineRule} {rules : List LineRule}

theorem Rekeyed.refl (line : Line) : line.Rekeyed line := ⟨rfl, rfl⟩

theorem Rekeyed.key (h : line.Rekeyed other) : other.key = line.key := by
  rw [h.same]

/-- Both lines select from their records by the same test. -/
theorem Rekeyed.filter (h : line.Rekeyed other) (p : Discount → Bool) :
    Rekeyed { line with discounts := line.discounts.filter (p ·.toDiscount) }
      { other with discounts := other.discounts.filter (p ·.toDiscount) } := by
  refine ⟨?_, map_filter_toDiscount p h.discounts⟩
  rw [SameButRecords, h.same]

/-! Whether a record is one of a rule does not depend on its key. -/

theorem Rekeyed.find?_isOf (h : line.Rekeyed other) (key : RuleKey) :
    (other.discounts.find? (·.isOf key)).map (·.toDiscount) =
      (line.discounts.find? (·.isOf key)).map (·.toDiscount) :=
  map_find?_toDiscount (fun discount => discount.kind == .promotion && discount.rule == some key)
    h.discounts

theorem Rekeyed.changeFirst?_isOf (h : line.Rekeyed other) (key : RuleKey)
    (terms : PromotionTerms) :
    (changeFirst? (·.isOf key) (·.sync terms) other.discounts).map
        (fun change => change.2.map (·.toDiscount)) =
      (changeFirst? (·.isOf key) (·.sync terms) line.discounts).map
        (fun change => change.2.map (·.toDiscount)) :=
  map_changeFirst?_sync (fun discount => discount.kind == .promotion && discount.rule == some key)
    terms h.discounts

/-- A rule is planned alike for both lines. -/
theorem Rekeyed.exists_planRule (h : line.Rekeyed other)
    (hplan : (planRule book language rule).runOn line = (.ok plan, line')) :
    ∃ plan₂ other', (planRule book language rule).runOn other = (.ok plan₂, other') ∧
      plan₂.creates = plan.creates ∧ line'.Rekeyed other' := by
  obtain ⟨terms, hterms, hcases⟩ := planRule_eq_ok.1 hplan
  have hterms₂ : other.ruleTerms book language rule = .ok terms :=
    (congrFun h.same.ruleTerms rule).trans hterms
  have hfound := h.find?_isOf rule.rule
  obtain ⟨hfind, rfl, rfl⟩ | ⟨record, discounts, hfind, hchange, rfl, rfl⟩ := hcases
  · rw [hfind, Option.map_none, Option.map_eq_none_iff] at hfound
    refine ⟨_, other, planRule_eq_ok.2 ⟨terms, hterms₂, .inl ⟨hfound, rfl, rfl⟩⟩, ?_, h⟩
    rw [h.key]
  · rw [hfind, Option.map_some, Option.map_eq_some_iff] at hfound
    obtain ⟨record₂, hfind₂, -⟩ := hfound
    obtain ⟨before, after, -, hchange₂⟩ :=
      changeFirst?_of_find?_eq_some (f := (·.sync terms)) hfind₂
    have hsame := h.changeFirst?_isOf rule.rule terms
    rw [hchange, hchange₂, Option.map_some, Option.map_some, Option.some.injEq] at hsame
    refine ⟨_, _, planRule_eq_ok.2 ⟨terms, hterms₂,
      .inr ⟨record₂, _, hfind₂, hchange₂, rfl, rfl⟩⟩, rfl, ?_, hsame⟩
    rw [SameButRecords, h.same]

/-- The rules are planned one after the other. -/
theorem Rekeyed.exists_rules (h : line.Rekeyed other)
    (hplan : (rules.mapM (planRule book language)).runOn line = (.ok plans, line')) :
    ∃ plans₂ other', (rules.mapM (planRule book language)).runOn other =
        (.ok plans₂, other') ∧
      (LinePlan.joined plans₂).creates = (LinePlan.joined plans).creates ∧
      line'.Rekeyed other' := by
  induction rules generalizing line other plans with
  | nil =>
    simp only [List.mapM_nil, Step.runOn_pure, Prod.mk.injEq, Except.ok.injEq] at hplan
    obtain ⟨rfl, rfl⟩ := hplan
    exact ⟨[], other, rfl, rfl, h⟩
  | cons rule rest ih =>
    rw [List.mapM_cons] at hplan
    obtain ⟨first, line₁, hfirst, hplan⟩ := Step.runOn_bind_eq_ok.1 hplan
    obtain ⟨more, line₂, hmore, hplan⟩ := Step.runOn_bind_eq_ok.1 hplan
    simp only [Step.runOn_pure, Prod.mk.injEq, Except.ok.injEq] at hplan
    obtain ⟨rfl, rfl⟩ := hplan
    obtain ⟨first₂, other₁, hfirst₂, hcreates, hsame⟩ := h.exists_planRule hfirst
    obtain ⟨more₂, other₂, hmore₂, hmoreCreates, hsame'⟩ := ih hsame hmore
    refine ⟨first₂ :: more₂, other₂, ?_, ?_, hsame'⟩
    · rw [List.mapM_cons]
      exact Step.runOn_bind_eq_ok.2 ⟨first₂, other₁, hfirst₂,
        Step.runOn_bind_eq_ok.2 ⟨more₂, other₂, hmore₂, rfl⟩⟩
    · rw [LinePlan.joined_cons, LinePlan.joined_cons, LinePlan.append, LinePlan.append, hcreates,
        hmoreCreates]

/-- A line is planned alike under other keys, where each key is that of one record. -/
theorem Rekeyed.exists_plan (h : line.Rekeyed other) (hnodup : (line.discounts.map (·.key)).Nodup)
    (hnodup₂ : (other.discounts.map (·.key)).Nodup)
    (hplan : (Line.plan book language).runOn line = (.ok plan, line')) :
    ∃ plan₂ other', (Line.plan book language).runOn other = (.ok plan₂, other') ∧
      plan₂.creates = plan.creates ∧ line'.Rekeyed other' := by
  obtain ⟨amount, hamount, hplan⟩ := plan_eq_ok.1 hplan
  have hamount₂ := h.same.catalogueDiscountAmount.trans hamount
  by_cases hzero : amount.minorUnits = 0
  · rw [if_pos hzero] at hplan
    obtain ⟨rfl, rfl⟩ := hplan
    have hplan₂ : (Line.plan book language).runOn other =
        (.ok { removals := (other.discounts.filter (·.kind == .promotion)).map (·.key) },
          { other with discounts := other.discounts.filter (!·.kind == .promotion) }) := by
      refine plan_eq_ok.2 ⟨amount, hamount₂, ?_⟩
      rw [if_pos hzero]
      exact ⟨rfl, rfl⟩
    exact ⟨_, _, hplan₂, rfl, h.filter fun discount => !discount.kind == .promotion⟩
  · rw [if_neg hzero] at hplan
    obtain ⟨plans, hplans, rfl⟩ := hplan
    rw [filter_keys_filter hnodup] at hplans
    have hstale : other.isStale = line.isStale := by
      rw [h.same]
      rfl
    have hrules : other.rules = line.rules := by rw [h.same]
    have hkept := h.filter fun discount => !(discount.kind == .promotion &&
      !discount.rule.any (line.rules.map (·.rule)).contains)
    obtain ⟨plans₂, other', hplans₂, hcreates, hsame⟩ := hkept.exists_rules hplans
    have hplan₂ : (Line.plan book language).runOn other =
        (.ok (.append { removals := (other.discounts.filter line.isStale).map (·.key) }
          (.joined plans₂)), other') := by
      refine plan_eq_ok.2 ⟨amount, hamount₂, ?_⟩
      rw [if_neg hzero, filter_keys_filter hnodup₂, hstale, hrules]
      rw [hrules] at hplans₂
      exact ⟨plans₂, hplans₂, rfl⟩
    refine ⟨_, other', hplan₂, ?_, hsame⟩
    rw [LinePlan.append, LinePlan.append, hcreates]

/-- Lines are planned alike under other keys. -/
theorem exists_planned_of_rekeyed {lines others : List Line} {planned : List (LinePlan × Line)}
    (h : List.Forall₂ Rekeyed lines others)
    (hnodup : ((lines.flatMap (·.discounts)).map (·.key)).Nodup)
    (hnodup₂ : ((others.flatMap (·.discounts)).map (·.key)).Nodup)
    (hplanned : List.Forall₂ (fun line result =>
      (Line.plan book language).runOn line = (.ok result.1, result.2)) lines planned) :
    ∃ planned₂ : List (LinePlan × Line),
      List.Forall₂ (fun line result =>
        (Line.plan book language).runOn line = (.ok result.1, result.2)) others planned₂ ∧
      List.Forall₂ (fun result result₂ : LinePlan × Line =>
        result₂.1.creates = result.1.creates ∧ result.2.Rekeyed result₂.2) planned planned₂ := by
  induction h generalizing planned with
  | nil =>
    cases hplanned
    exact ⟨[], .nil, .nil⟩
  | cons hline _ ih =>
    obtain ⟨result, rest, hresult, hrest, rfl⟩ := List.forall₂_cons_left_iff.1 hplanned
    -- A key stands for one record of one line, in both ledgers.
    rw [List.flatMap_cons, List.map_append, List.nodup_append'] at hnodup hnodup₂
    obtain ⟨plan₂, other', hplan₂, hcreates, hsame⟩ :=
      hline.exists_plan hnodup.1 hnodup₂.1 hresult
    obtain ⟨rest₂, hrest₂, hrelated⟩ := ih hnodup.2.1 hnodup₂.2.1 hrest
    exact ⟨(plan₂, other') :: rest₂, .cons hplan₂ hrest₂, .cons ⟨hcreates, hsame⟩ hrelated⟩

theorem planned_unique {lines : List Line} {planned again : List (LinePlan × Line)}
    (h : List.Forall₂ (fun line result =>
      (Line.plan book language).runOn line = (.ok result.1, result.2)) lines planned)
    (h' : List.Forall₂ (fun line result =>
      (Line.plan book language).runOn line = (.ok result.1, result.2)) lines again) :
    planned = again := by
  refine List.right_unique_forall₂' (fun line result other hresult hother => ?_) h h'
  have hrun := hresult.symm.trans hother
  simp only [Prod.mk.injEq, Except.ok.injEq] at hrun
  exact Prod.ext hrun.1 hrun.2

/-- Lines get the same new records, under other keys. -/
theorem rekeyed_attachRecords {planned planned₂ : List (LinePlan × Line)}
    {records records₂ : List DiscountRecord}
    (h : List.Forall₂ (fun result result₂ : LinePlan × Line =>
      result₂.1.creates = result.1.creates ∧ result.2.Rekeyed result₂.2) planned planned₂)
    (hrecords : records₂.map (·.toDiscount) = records.map (·.toDiscount)) :
    List.Forall₂ Rekeyed
      (attachRecords (planned.map Prod.snd) (planned.map Prod.fst) records)
      (attachRecords (planned₂.map Prod.snd) (planned₂.map Prod.fst) records₂) := by
  induction h generalizing records records₂ with
  | nil => exact .nil
  | cons hfirst _ ih =>
    obtain ⟨hcreates, hsame⟩ := hfirst
    simp only [List.map_cons, attachRecords]
    refine .cons ⟨?_, ?_⟩ (ih ?_)
    · rw [SameButRecords, hsame.same]
    · rw [List.map_append, List.map_append, hsame.discounts, List.map_take, List.map_take, hrecords,
        hcreates]
    · rw [List.map_drop, List.map_drop, hrecords, hcreates]

end Line

/-! ## Lines whose records stay -/

/-- Lines that keep their records are the same but for the keys again, where they come out the same
but for their records. -/
theorem Line.forall_rekeyed_of_sameRecords {lines others lines' others' : List Line}
    (h : List.Forall₂ Line.Rekeyed lines others)
    (hlines : List.Forall₂ Line.SameRecords lines lines')
    (hothers : List.Forall₂ Line.SameRecords others others')
    (hsame : List.Forall₂ Line.SameButRecords lines' others') :
    List.Forall₂ Line.Rekeyed lines' others' := by
  have hrecords : List.Forall₂ (fun line other : Line =>
      other.discounts.map (·.toDiscount) = line.discounts.map (·.toDiscount)) lines' others' := by
    refine forall₂_square h hlines hothers ?_
    intro line _ other _ line' _ other' _ hline hleft hright
    rw [hleft.discounts, hright.discounts]
    exact hline.discounts
  exact hsame.mp (fun _ _ hsame hrecords => ⟨hsame, hrecords⟩) hrecords

end Retail
