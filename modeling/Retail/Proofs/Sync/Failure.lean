import Mathlib.Logic.Relation
import Retail.Proofs.Failure
import Retail.Proofs.Sync.Steady
import Retail.Proofs.Sync.Turnover

/-!
# Lines that cannot be planned

The records of lines are brought in step with their rules before anything is written. Where a line
cannot be planned nothing is written at all, but the lines before it, and the line itself, have
already lost the records that were to be removed, and have others in line with their rules. The
ledger still has all of these records as they were.

## Main definitions

* `Line.isDropped`: the records that a line loses when it is planned
* `Line.Resyncs`: a record brought in line with rules of its line
* `Line.Visited`: a line that was planned, or on which planning failed

## Main results

* `Line.visited_plan`: what planning a line leaves, whether it fails or not
* `syncLines_eq_error`: what is left where a line cannot be planned
-/

namespace Retail

namespace Line

variable {book : Promotions} {language : Option String} {line line' : Line}
  {records : List DiscountRecord}

/-! ## One line -/

/-- The record is to be removed: all of promotions are without a catalogue discount, and otherwise
those whose rule applies no more. -/
def isDropped (line : Line) (record : DiscountRecord) : Bool :=
  match line.catalogueDiscountAmount with
  | .ok amount =>
    if amount.minorUnits = 0 then record.kind == .promotion else line.isStale record
  | .error _ => false

/-- The record was brought in line with rules that apply to the line, any number of times. -/
def Resyncs (book : Promotions) (language : Option String) (line : Line) :
    DiscountRecord → DiscountRecord → Prop :=
  Relation.ReflTransGen fun record record' => record.kind = .promotion ∧
    ∃ rule ∈ line.rules, record.rule = some rule.rule ∧
      ∃ terms, line.ruleTerms book language rule = .ok terms ∧ record' = record.sync terms

/-- The line has some records instead of its own, brought in line with its rules. -/
structure Resynced (book : Promotions) (language : Option String) (line : Line)
    (records : List DiscountRecord) (line' : Line) : Prop where
  eq : line' = { line with discounts := line'.discounts }
  discounts : List.Forall₂ (line.Resyncs book language) records line'.discounts

/-- The line lost the records that are to be removed, and the others may be in line with its rules.
Nothing else is changed. -/
def Visited (book : Promotions) (language : Option String) (line line' : Line) : Prop :=
  line.Resynced book language (line.discounts.filter (!line.isDropped ·)) line'

theorem resynced_self (records : List DiscountRecord) :
    line.Resynced book language records { line with discounts := records } :=
  ⟨rfl, List.forall₂_same.2 fun _ _ => .refl⟩

theorem Resynced.again {records' : List DiscountRecord}
    (h : line.Resynced book language records line')
    (hrecords : List.Forall₂ (line.Resyncs book language) line'.discounts records') :
    line.Resynced book language records { line' with discounts := records' } :=
  ⟨by rw [h.eq], forall₂_trans h.discounts hrecords fun _ _ _ => .trans⟩

/-- Planning a rule brings its record in line with it, or does nothing. -/
theorem keeps_planRule {rule : LineRule} (hrule : rule ∈ line.rules) :
    Step.Keeps (line.Resynced book language records) (planRule book language rule) := by
  intro line₁ h
  have hsame : line₁.ruleTerms book language rule = line.ruleTerms book language rule := by
    rw [h.eq]
    rfl
  rw [planRule, Step.runOn_get_bind, hsame]
  cases hterms : line.ruleTerms book language rule with
  | error e => exact h
  | ok terms =>
    rw [Step.runOn_bind, Step.runOn_answer]
    dsimp only
    cases hfind : line₁.discounts.find? fun record =>
        record.kind == .promotion && record.rule == some rule.rule with
    | none =>
      rw [changeFirst?_of_find?_eq_none hfind]
      exact h
    | some record =>
      obtain ⟨before, after, hsplit, hchange⟩ :=
        changeFirst?_of_find?_eq_some (f := (·.sync terms)) hfind
      rw [hchange]
      have hrecord := List.find?_some hfind
      rw [Bool.and_eq_true, beq_iff_eq, beq_iff_eq] at hrecord
      have hstep : line.Resyncs book language record (record.sync terms) :=
        .single ⟨hrecord.1, rule, hrule, hrecord.2, terms, hterms, rfl⟩
      have hothers (others : List DiscountRecord) :
          List.Forall₂ (line.Resyncs book language) others others :=
        List.forall₂_same.2 fun _ _ => .refl
      have hchanged : List.Forall₂ (line.Resyncs book language) line₁.discounts
          (before ++ record.sync terms :: after) :=
        hsplit ▸ List.rel_append (hothers before) (.cons hstep (hothers after))
      exact h.again hchanged

/-- Planning a line removes what is to be removed, and then brings records in line with the rules as
far as it comes. -/
theorem visited_plan {result : Except SyncError LinePlan}
    (hinj : ∀ record ∈ line.discounts, ∀ other ∈ line.discounts, record.key = other.key →
      record = other)
    (h : (Line.plan book language).runOn line = (result, line')) :
    line.Visited book language line' := by
  obtain rfl : ((Line.plan book language).runOn line).2 = line' := by rw [h]
  rw [Line.plan, Step.runOn_get_bind, Step.runOn_bind, Step.runOn_answer]
  cases hamount : line.catalogueDiscountAmount with
  | error e =>
    have hkept : line.discounts.filter (!line.isDropped ·) = line.discounts := by
      simp [isDropped, hamount]
    rw [Visited, hkept]
    exact resynced_self line.discounts
  | ok amount =>
    by_cases hzero : amount.minorUnits = 0
    · have hkept : line.discounts.filter (!line.isDropped ·) =
          line.discounts.filter (!·.kind == .promotion) := by
        simp [isDropped, hamount, hzero]
      simp only [Except.mapError, hzero, beq_self_eq_true, if_true,
        List.partition_eq_filter_filter, Step.runOn_set_bind, Step.runOn_pure, Visited, hkept]
      exact resynced_self _
    · have hkept : line.discounts.filter (!line.isDropped ·) =
          line.discounts.filter (!line.isStale ·) := by
        simp [isDropped, hamount, hzero]
      simp only [Except.mapError, beq_iff_eq, hzero, if_false, Step.runOn_set_bind, Visited, hkept]
      refine Step.holds_bind (Step.keeps_mapM (fun rule => keeps_planRule) _ ?_)
        fun _ => Step.keeps_pure _
      have hstale := filter_keys_filter_of_key_inj (p := line.isStale) hinj
      exact hstale ▸ resynced_self _

end Line

/-! ## All lines -/

section Lines

variable {book : Promotions} {basket basket' : Basket} {ledger ledger' : Ledger} {e : SyncError}

/-- What is left where the records of lines cannot be brought in step. The ledger is as it was. One
of the lines cannot be planned: the lines before it are planned, this one is visited, and those
behind it are as they were. -/
theorem syncLines_eq_error
    (hrun : (syncLines book).runOn (basket, ledger) = (.error e, (basket', ledger')))
    (hstored : ∀ line ∈ basket.lines, ∀ record ∈ line.discounts,
      ledger.get? record.key = some record) :
    ledger' = ledger ∧ ∃ before failing after before' failing',
      basket.lines = before ++ failing :: after ∧
      basket' = { basket with lines := before' ++ failing' :: after } ∧
      (Line.plan book basket.language).runOn failing = (.error e, failing') ∧
      List.Forall₂ (fun line line' : Line =>
        (∃ plan, (Line.plan book basket.language).runOn line = (.ok plan, line')) ∧
          line.Visited book basket.language line') before before' ∧
      failing.Visited book basket.language failing' := by
  have hinj : ∀ line ∈ basket.lines, ∀ record ∈ line.discounts, ∀ other ∈ line.discounts,
      record.key = other.key → record = other := by
    intro line hline record hrecord other hother hkey
    have hfound := hstored line hline record hrecord
    rw [hkey, hstored line hline other hother] at hfound
    exact (Option.some.inj hfound).symm
  have h := hrun
  simp only [syncLines, SyncStep.runOn_basket_bind] at h
  rcases Step.runOn_bind_eq_error.1 h with hplans | ⟨plans, _, hplans, h⟩
  · obtain ⟨lines, heach, hwhole⟩ := Step.runOn_on_eq_error.1 hplans
    obtain ⟨rfl, rfl⟩ := Prod.mk.inj hwhole
    obtain ⟨before, failing, after, results, failing', hsplit, hbefore, hfails, rfl⟩ :=
      Step.runOn_onEach_eq_error.1 heach
    refine ⟨rfl, before, failing, after, _, failing', hsplit, rfl, hfails, ?_, ?_⟩
    · rw [List.forall₂_map_right_iff]
      refine forall₂_imp_of_mem hbefore fun line hline result _ hplan => ⟨⟨_, hplan⟩, ?_⟩
      exact Line.visited_plan (hinj line (hsplit ▸ List.mem_append_left _ hline)) hplan
    · exact Line.visited_plan (hinj failing (hsplit ▸ List.mem_append_cons_self)) hfails
  · obtain ⟨_, heach, -⟩ := Step.runOn_on_eq_ok.1 hplans
    obtain ⟨planned, hplanned, -⟩ := Step.runOn_onEach_eq_ok.1 heach
    obtain ⟨_, _, _, hdone⟩ := exists_syncLines_of_planned hplanned
      fun line hline record hrecord => (Ledger.get?_eq_some.1 (hstored line hline record hrecord)).1
    rw [hrun] at hdone
    simp at hdone

/-- A line fails on a rule that is not known, when it has already lost the record of a rule that
applies no more. -/
theorem syncLines_markedDown_of_unknown_rule :
    ∃ basket' ledger' before failing after before' failing',
    (syncLines (catalogueRules [.one])).runOn
      ({ Basket.start ⟨1⟩ .gbp with lines := markedDown },
        (Ledger.empty.create ((markedDown.flatMap (·.discounts)).map (·.toDiscount))).1) =
      (.error (.promotion (.ruleNotFound ⟨2⟩)), (basket', ledger')) ∧
    markedDown = before ++ failing :: after ∧
    basket'.lines = before' ++ failing' :: after ∧
    failing.Visited (catalogueRules [.one]) none failing' ∧
    basket'.lineRecords.map (·.key) = [⟨2⟩, ⟨3⟩, ⟨4⟩] ∧
    ledger'.toList.map (·.key) = [⟨1⟩, ⟨2⟩, ⟨3⟩, ⟨4⟩] := by
  have hrun : (syncLines (catalogueRules [.one])).runOn
      ({ Basket.start ⟨1⟩ .gbp with lines := markedDown },
        (Ledger.empty.create ((markedDown.flatMap (·.discounts)).map (·.toDiscount))).1) =
      (.error (.promotion (.ruleNotFound ⟨2⟩)), (_, _)) := rfl
  obtain ⟨-, before, failing, after, before', failing', hsplit, hbasket, -, -, hfailing⟩ :=
    syncLines_eq_error hrun (by decide)
  exact ⟨_, _, before, failing, after, before', failing', rfl, hsplit,
    congrArg Basket.lines hbasket, hfailing, by decide, by decide⟩

/-- A record of a promotion is not always still on its line after a failure. -/
theorem syncLines_not_always_kept :
    ¬∀ (book : Promotions) (basket basket' : Basket) (ledger ledger' : Ledger) (e : SyncError),
      (∀ line ∈ basket.lines, ∀ record ∈ line.discounts,
        ledger.get? record.key = some record) →
      (syncLines book).runOn (basket, ledger) = (.error e, (basket', ledger')) →
      ledger' = ledger ∧ List.Forall₂ (fun line line' : Line => ∀ record ∈ line.discounts,
        record.kind = .promotion → record ∈ line'.discounts) basket.lines basket'.lines := by
  intro h
  obtain ⟨-, hlines⟩ := h (catalogueRules [.one])
    { Basket.start ⟨1⟩ .gbp with lines := markedDown } _
    (Ledger.empty.create ((markedDown.flatMap (·.discounts)).map (·.toDiscount))).1 _ _
    (by decide) rfl
  obtain ⟨hline, -⟩ := List.forall₂_cons.1 hlines
  exact absurd (hline _ List.mem_cons_self rfl) (by decide)

end Lines

end Retail
