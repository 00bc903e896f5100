import Retail.Proofs.Discount.Alike
import Retail.Proofs.Promotion.Offer
import Retail.Proofs.Sync.Lines

/-!
# What the records of lines carry

Once a line is in step with its rules, it has one record of a promotion for each of them, which
carries what the rule grants, and no other. Records of other kinds stay as they are.

## Main definitions

* `Carry`: records of promotions that carry some grants, each of them once
* `Regrant`: what planning some rules makes of records
* `Line.grants`: what the rules of a line grant to it
* `Line.Synced`: a line before and after it was brought in step

## Main results

* `Line.keyMarks_rules`: planning rules changes neither keys nor whose records they are
* `Line.regrant_rules`: the rules of a line, one after the other
* `Line.synced_plan`: a line that was planned, once its new records are attached
* `Basket.synced_syncLines`: all lines of a basket
-/

namespace Retail

/-- Where one element is selected at most, none is before or after it. -/
theorem filter_eq_nil_of_length_le_one {α : Type} {p : α → Bool} {before after : List α} {x : α}
    (hone : ((before ++ x :: after).filter p).length ≤ 1) (hx : p x) :
    before.filter p = [] ∧ after.filter p = [] := by
  rw [List.filter_append, List.filter_cons_of_pos hx, List.length_append, List.length_cons] at hone
  exact ⟨List.eq_nil_of_length_eq_zero (by omega), List.eq_nil_of_length_eq_zero (by omega)⟩

/-- The record does not belong to a voucher. -/
structure DiscountRecord.Plain (record : DiscountRecord) : Prop where
  voucher : record.voucher = none
  voucherCode : record.voucherCode = none

theorem DiscountRecord.plain_iff {record : DiscountRecord} :
    record.Plain ↔ record.toDiscount.voucher = none ∧ record.toDiscount.voucherCode = none :=
  ⟨fun h => ⟨h.voucher, h.voucherCode⟩, fun h => ⟨h.1, h.2⟩⟩

/-- Whether the record is one of a rule. -/
def DiscountRecord.isOf (key : RuleKey) (record : DiscountRecord) : Bool :=
  record.kind == .promotion && record.rule == some key

theorem DiscountRecord.isOf_iff {key : RuleKey} {record : DiscountRecord} :
    record.isOf key ↔ record.kind = .promotion ∧ record.rule = some key := by
  simp [isOf]

/-- A record that was brought in line with a rule is still one of it. -/
theorem DiscountRecord.isOf_sync {terms : PromotionTerms} {record : DiscountRecord}
    (h : record.isOf terms.rule) : (record.sync terms).isOf terms.rule := by
  rw [isOf_iff] at h ⊢
  exact ⟨(Discount.sameOrigin_sync _ terms).kind.trans h.1, (Discount.carries_sync _ terms).rule⟩

theorem DiscountRecord.not_isOf_of_ne {key other : RuleKey} {record : DiscountRecord}
    (h : record.isOf key) (hne : other ≠ key) : ¬ record.isOf other := by
  rw [isOf_iff] at h ⊢
  rintro ⟨-, hrule⟩
  exact hne (Option.some.inj (hrule.symm.trans h.2))

/-- The records of promotions carry the grants, each of them once, and no others are among them. -/
structure Carry (records : List DiscountRecord) (grants : List PromotionTerms) : Prop where
  granted : ∀ record ∈ records, record.kind = .promotion →
    ∃ terms ∈ grants, record.rule = some terms.rule
  carried : ∀ terms ∈ grants, ∃ record,
    records.filter (·.isOf terms.rule) = [record] ∧ record.Carries terms

/-! ## Rule by rule -/

/-- What stays of a record when it is brought in line with its rule. -/
def DiscountRecord.mark (record : DiscountRecord) :
    DiscountKind × Option RuleKey × Option VoucherKey × Option String :=
  (record.kind, record.rule, record.voucher, record.voucherCode)

theorem DiscountRecord.mark_sync {terms : PromotionTerms} {record : DiscountRecord}
    (h : record.isOf terms.rule) : (record.sync terms).mark = record.mark := by
  have horigin := Discount.sameOrigin_sync record.toDiscount terms
  have hrule := (isOf_iff.1 (isOf_sync h)).2.trans (isOf_iff.1 h).2.symm
  exact congrArg₂ Prod.mk horigin.kind (congrArg₂ Prod.mk hrule
    (congrArg₂ Prod.mk horigin.voucher horigin.voucherCode))

/-- What planning some rules makes of records: each rule has one record, old or new, that carries
what it grants, and all else is as before. -/
structure Regrant (keys : List RuleKey) (grants : List PromotionTerms)
    (before after new : List DiscountRecord) : Prop where
  carried : ∀ terms ∈ grants, ∃ record,
    (after ++ new).filter (·.isOf terms.rule) = [record] ∧ record.Carries terms
  untouched : ∀ key ∉ keys, after.filter (·.isOf key) = before.filter (·.isOf key)
  marks : after.map (·.mark) = before.map (·.mark)
  others : after.filter (·.kind != .promotion) = before.filter (·.kind != .promotion)
  fresh : ∀ record ∈ new, record.kind = .promotion ∧ record.Plain ∧
    ∃ key ∈ keys, record.rule = some key

namespace Regrant

variable {keys : List RuleKey} {grants : List PromotionTerms} {key : RuleKey}
  {terms : PromotionTerms} {before middle after new more : List DiscountRecord}

theorem nil (records : List DiscountRecord) : Regrant [] [] records records [] :=
  ⟨List.forall_mem_nil _, fun _ _ => rfl, rfl, rfl, List.forall_mem_nil _⟩

theorem filter_new (h : Regrant keys grants before after new) (hkey : key ∉ keys) :
    new.filter (·.isOf key) = [] := by
  rw [List.filter_eq_nil_iff]
  intro record hrecord hof
  obtain ⟨-, -, other, hother, hrule⟩ := h.fresh record hrecord
  have hsame := hrule.symm.trans (DiscountRecord.isOf_iff.1 hof).2
  exact hkey (Option.some.inj hsame ▸ hother)

/-- A rule has as many records afterwards as before. -/
theorem length_filter (h : Regrant keys grants before after new) (key : RuleKey) :
    (after.filter (·.isOf key)).length = (before.filter (·.isOf key)).length := by
  have hcount : ∀ records : List DiscountRecord, (records.filter (·.isOf key)).length =
      (records.map (·.mark)).countP fun mark => mark.1 == .promotion && mark.2.1 == some key := by
    intro records
    rw [List.countP_map, ← List.countP_eq_length_filter]
    rfl
  rw [hcount, hcount, h.marks]

/-- One rule after the other, where all of them are different. -/
theorem cons (h : Regrant [key] [terms] before middle new)
    (h' : Regrant keys grants middle after more)
    (hterms : terms.rule = key) (hgrants : ∀ terms ∈ grants, terms.rule ∈ keys)
    (hnew : key ∉ keys) : Regrant (key :: keys) (terms :: grants) before after (new ++ more) := by
  refine ⟨List.forall_mem_cons.2 ⟨?_, fun other hother => ?_⟩, fun other hother => ?_,
    h'.marks.trans h.marks, h'.others.trans h.others, ?_⟩
  · -- The records of the first rule are left alone by the others.
    obtain ⟨record, hrecord, hcarries⟩ := h.carried terms (List.mem_singleton_self _)
    refine ⟨record, ?_, hcarries⟩
    rw [hterms] at hrecord ⊢
    rw [← List.append_assoc, List.filter_append, h'.filter_new hnew, List.append_nil,
      List.filter_append, h'.untouched key hnew, ← List.filter_append]
    exact hrecord
  · obtain ⟨record, hrecord, hcarries⟩ := h'.carried other hother
    refine ⟨record, ?_, hcarries⟩
    have hne : other.rule ∉ [key] := by
      rw [List.mem_singleton]
      exact fun heq => hnew (heq ▸ hgrants other hother)
    rw [List.filter_append, List.filter_append, h.filter_new hne, List.nil_append,
      ← List.filter_append]
    exact hrecord
  · rw [List.mem_cons, not_or] at hother
    exact (h'.untouched other hother.2).trans
      (h.untouched other (by rw [List.mem_singleton]; exact hother.1))
  · rw [List.forall_mem_append]
    constructor
    · intro record hrecord
      obtain ⟨hkind, hplain, other, hother, hrule⟩ := h.fresh record hrecord
      exact ⟨hkind, hplain, other, List.mem_cons.2 (.inl (List.mem_singleton.1 hother)), hrule⟩
    · intro record hrecord
      obtain ⟨hkind, hplain, other, hother, hrule⟩ := h'.fresh record hrecord
      exact ⟨hkind, hplain, other, List.mem_cons_of_mem _ hother, hrule⟩

/-- An old record that stays keeps its kind, its rule and its voucher. -/
theorem exists_source {record : DiscountRecord} (h : Regrant keys grants before after new)
    (hrecord : record ∈ after) : ∃ source ∈ before, source.mark = record.mark := by
  have hmem := List.mem_map_of_mem (f := (·.mark)) hrecord
  rw [h.marks] at hmem
  exact List.mem_map.1 hmem

/-- Where records of other rules were removed before, all records of promotions carry grants. -/
theorem carry (h : Regrant keys grants before after new)
    (hkeys : ∀ key ∈ keys, ∃ terms ∈ grants, terms.rule = key)
    (hbefore : ∀ record ∈ before, record.kind = .promotion → record.rule.any keys.contains) :
    Carry (after ++ new) grants := by
  refine ⟨List.forall_mem_append.2 ⟨fun record hrecord hkind => ?_, fun record hrecord _ => ?_⟩,
    h.carried⟩
  · obtain ⟨source, hsource, hmark⟩ := h.exists_source hrecord
    simp only [DiscountRecord.mark, Prod.mk.injEq] at hmark
    have hany := hbefore source hsource (hmark.1.trans hkind)
    simp only [hmark.2.1, Option.any_eq_true, List.contains_iff_mem] at hany
    obtain ⟨key, hrule, hkey⟩ := hany
    obtain ⟨terms, hterms, rfl⟩ := hkeys key hkey
    exact ⟨terms, hterms, hrule⟩
  · obtain ⟨-, -, key, hkey, hrule⟩ := h.fresh record hrecord
    obtain ⟨terms, hterms, rfl⟩ := hkeys key hkey
    exact ⟨terms, hterms, hrule⟩

/-- Records of other kinds stay, and no new ones come. -/
theorem others_append (h : Regrant keys grants before after new) :
    (after ++ new).filter (·.kind != .promotion) = before.filter (·.kind != .promotion) := by
  have hfresh : new.filter (·.kind != .promotion) = [] := by
    rw [List.filter_eq_nil_iff]
    intro record hrecord
    simp [(h.fresh record hrecord).1]
  rw [List.filter_append, hfresh, List.append_nil, h.others]

theorem plain_append (h : Regrant keys grants before after new)
    (hplain : ∀ record ∈ before, record.Plain) : ∀ record ∈ after ++ new, record.Plain := by
  rw [List.forall_mem_append]
  refine ⟨fun record hrecord => ?_, fun record hrecord => (h.fresh record hrecord).2.1⟩
  obtain ⟨source, hsource, hmark⟩ := h.exists_source hrecord
  simp only [DiscountRecord.mark, Prod.mk.injEq] at hmark
  obtain ⟨hvoucher, hcode⟩ := hplain source hsource
  exact ⟨hmark.2.2.1 ▸ hvoucher, hmark.2.2.2 ▸ hcode⟩

end Regrant

namespace Line

variable {book : Promotions} {language : Option String} {line line' : Line} {plan : LinePlan}
  {plans : List LinePlan} {new : List DiscountRecord} {terms : PromotionTerms} {rule : LineRule}
  {rules : List LineRule}

theorem rule_ruleTerms (h : line.ruleTerms book language rule = .ok terms) :
    terms.rule = rule.rule := by
  unfold ruleTerms at h
  split at h
  · contradiction
  · simp only [bind_eq_ok, pure_eq_ok] at h
    obtain ⟨amount, -, rfl⟩ := h
    rfl

/-- The terms of a rule do not depend on the records of the line. -/
theorem SameButRecords.ruleTerms (h : line.SameButRecords line') :
    line'.ruleTerms book language = line.ruleTerms book language := by
  rw [h]
  rfl

/-- A rule is planned by a new record, or by its record brought in line. -/
theorem planRule_eq_ok :
    (planRule book language rule).runOn line = (.ok plan, line') ↔
      ∃ terms, line.ruleTerms book language rule = .ok terms ∧
        ((line.discounts.find? (·.isOf rule.rule) = none ∧
            plan = { creates := [.ofTerms (.line line.key) .promotion terms] } ∧ line' = line) ∨
          ∃ record discounts, line.discounts.find? (·.isOf rule.rule) = some record ∧
            changeFirst? (·.isOf rule.rule) (·.sync terms) line.discounts =
              some (record.sync terms, discounts) ∧
            plan = { updates := [record.sync terms], fields := record.outdatedFields terms } ∧
            line' = { line with discounts }) := by
  have hisOf : (fun record : DiscountRecord => record.kind == .promotion &&
      record.rule == some rule.rule) = (·.isOf rule.rule) := rfl
  simp only [planRule, Step.runOn_get_bind, Step.runOn_answer_bind_eq_ok, hisOf]
  refine exists_congr fun terms => and_congr_right fun _ => ?_
  cases hfind : line.discounts.find? (·.isOf rule.rule) with
  | none =>
    rw [changeFirst?_of_find?_eq_none hfind]
    simp [eq_comm]
  | some record =>
    obtain ⟨before, after, -, hchange⟩ :=
      changeFirst?_of_find?_eq_some (f := (·.sync terms)) hfind
    rw [hchange]
    simp only [Step.runOn_set_bind, Step.runOn_pure, Prod.mk.injEq, Except.ok.injEq, reduceCtorEq,
      false_and, false_or, Option.some.injEq]
    constructor
    · rintro ⟨rfl, rfl⟩
      exact ⟨record, _, rfl, ⟨rfl, rfl⟩, rfl, rfl⟩
    · rintro ⟨_, _, rfl, ⟨-, rfl⟩, rfl, rfl⟩
      exact ⟨rfl, rfl⟩

/-- Planning a rule changes neither the key of a record nor what it is a record of. -/
theorem keyMarks_planRule (h : (planRule book language rule).runOn line = (.ok plan, line')) :
    line'.discounts.map (fun record => (record.key, record.mark)) =
      line.discounts.map fun record => (record.key, record.mark) := by
  obtain ⟨terms, hterms, ⟨-, -, rfl⟩ | ⟨record, discounts, hfind, hchange, -, rfl⟩⟩ :=
    planRule_eq_ok.1 h
  · rfl
  · obtain ⟨before, after, hsplit, hsome⟩ :=
      changeFirst?_of_find?_eq_some (f := (·.sync terms)) hfind
    rw [hchange, Option.some.injEq, Prod.mk.injEq] at hsome
    obtain ⟨-, rfl⟩ := hsome
    have hof : record.isOf terms.rule := by
      rw [rule_ruleTerms hterms]
      simpa using List.find?_some hfind
    have hkey : (record.sync terms).key = record.key := rfl
    simp only [hsplit, List.map_append, List.map_cons, hkey, DiscountRecord.mark_sync hof]

theorem keyMarks_rules (h : (rules.mapM (planRule book language)).runOn line = (.ok plans, line')) :
    line'.discounts.map (fun record => (record.key, record.mark)) =
      line.discounts.map fun record => (record.key, record.mark) := by
  induction rules generalizing line plans with
  | nil =>
    simp only [List.mapM_nil, Step.runOn_pure, Prod.mk.injEq, Except.ok.injEq] at h
    obtain ⟨-, rfl⟩ := h
    rfl
  | cons rule rest ih =>
    rw [List.mapM_cons] at h
    obtain ⟨first, line₁, hfirst, h⟩ := Step.runOn_bind_eq_ok.1 h
    obtain ⟨more, line₂, hmore, h⟩ := Step.runOn_bind_eq_ok.1 h
    simp only [Step.runOn_pure, Prod.mk.injEq, Except.ok.injEq] at h
    obtain ⟨-, rfl⟩ := h
    exact (ih hmore).trans (keyMarks_planRule hfirst)

/-- A rule that had one record at most has one that carries what it grants. -/
theorem regrant_planRule (hone : (line.discounts.filter (·.isOf rule.rule)).length ≤ 1)
    (h : (planRule book language rule).runOn line = (.ok plan, line'))
    (hnew : new.map (·.toDiscount) = plan.creates) :
    ∃ terms, line.ruleTerms book language rule = .ok terms ∧
      Regrant [rule.rule] [terms] line.discounts line'.discounts new ∧
      line.SameButRecords line' := by
  obtain ⟨terms, hterms, ⟨hfind, rfl, rfl⟩ | ⟨record, discounts, hfind, hchange, rfl, rfl⟩⟩ :=
    planRule_eq_ok.1 h
  · obtain ⟨record, rfl, hrecord⟩ := List.map_eq_singleton_iff.1 hnew
    have hnone : line'.discounts.filter (·.isOf rule.rule) = [] := by
      rw [List.filter_eq_nil_iff]
      exact List.find?_eq_none.1 hfind
    have hcarries : record.Carries terms := hrecord ▸ Discount.carries_ofTerms _ _ terms
    have hkind : record.kind = .promotion := by rw [hrecord]; rfl
    have hplain : record.Plain := ⟨by rw [hrecord]; rfl, by rw [hrecord]; rfl⟩
    have hrule : record.rule = some rule.rule := hcarries.rule.trans (rule_ruleTerms hterms ▸ rfl)
    have hof : record.isOf rule.rule := DiscountRecord.isOf_iff.2 ⟨hkind, hrule⟩
    refine ⟨terms, hterms, ⟨List.forall_mem_singleton.2 ⟨record, ?_, hcarries⟩, fun _ _ => rfl, rfl,
      rfl, List.forall_mem_singleton.2 ⟨hkind, hplain, _, List.mem_singleton_self _, hrule⟩⟩, rfl⟩
    rw [rule_ruleTerms hterms, List.filter_append, hnone, List.filter_cons_of_pos hof]
    rfl
  · obtain ⟨before, after, hsplit, hsome⟩ :=
      changeFirst?_of_find?_eq_some (f := (·.sync terms)) hfind
    rw [hchange, Option.some.injEq, Prod.mk.injEq] at hsome
    obtain ⟨-, rfl⟩ := hsome
    obtain rfl := List.map_eq_nil_iff.1 hnew
    have hof : record.isOf rule.rule := by simpa using List.find?_some hfind
    have hsync : (record.sync terms).isOf rule.rule := by
      rw [← rule_ruleTerms hterms] at hof ⊢
      exact DiscountRecord.isOf_sync hof
    obtain ⟨hbefore, hafter⟩ := filter_eq_nil_of_length_le_one (hsplit ▸ hone) hof
    have hkind := (DiscountRecord.isOf_iff.1 hof).1
    have hkind' := (DiscountRecord.isOf_iff.1 hsync).1
    refine ⟨terms, hterms, ⟨List.forall_mem_singleton.2 ⟨record.sync terms, ?_,
      Discount.carries_sync _ terms⟩, fun key hkey => ?_, ?_, ?_, List.forall_mem_nil _⟩, rfl⟩
    · rw [rule_ruleTerms hterms, List.append_nil, List.filter_append, hbefore,
        List.filter_cons_of_pos hsync, hafter, List.nil_append]
    · rw [List.mem_singleton] at hkey
      rw [hsplit, List.filter_append, List.filter_append,
        List.filter_cons_of_neg (DiscountRecord.not_isOf_of_ne hof hkey),
        List.filter_cons_of_neg (DiscountRecord.not_isOf_of_ne hsync hkey)]
    · rw [← rule_ruleTerms hterms] at hof
      simp only [hsplit, List.map_append, List.map_cons, DiscountRecord.mark_sync hof]
    · simp [hsplit, List.filter_append, hkind, hkind']

/-- The rules of a line are planned one after the other. -/
theorem regrant_rules (hrules : (rules.map (·.rule)).Nodup)
    (hone : ∀ key, (line.discounts.filter (·.isOf key)).length ≤ 1)
    (h : (rules.mapM (planRule book language)).runOn line = (.ok plans, line'))
    (hnew : new.map (·.toDiscount) = (LinePlan.joined plans).creates) :
    ∃ grants, rules.mapM (line.ruleTerms book language) = .ok grants ∧
      Regrant (rules.map (·.rule)) grants line.discounts line'.discounts new ∧
      line.SameButRecords line' := by
  induction rules generalizing line plans new with
  | nil =>
    simp only [List.mapM_nil, Step.runOn_pure, Prod.mk.injEq, Except.ok.injEq] at h
    obtain ⟨rfl, rfl⟩ := h
    obtain rfl := List.map_eq_nil_iff.1 hnew
    exact ⟨[], rfl, .nil _, rfl⟩
  | cons rule rest ih =>
    rw [List.mapM_cons] at h
    obtain ⟨first, middle, hfirst, h⟩ := Step.runOn_bind_eq_ok.1 h
    obtain ⟨others, last, hothers, h⟩ := Step.runOn_bind_eq_ok.1 h
    simp only [Step.runOn_pure, Prod.mk.injEq, Except.ok.injEq] at h
    obtain ⟨rfl, rfl⟩ := h
    obtain ⟨own, more, rfl, hown, hmore, -, -⟩ := LinePlan.exists_of_creates_cons hnew
    rw [List.map_cons, List.nodup_cons] at hrules
    obtain ⟨terms, hterms, hregrant, hsame⟩ := regrant_planRule (hone rule.rule) hfirst hown
    have hone' : ∀ key, (middle.discounts.filter (·.isOf key)).length ≤ 1 := fun key =>
      (hregrant.length_filter key).trans_le (hone key)
    obtain ⟨grants, hgrants, hregrants, hsame'⟩ := ih hrules.2 hone' hothers hmore
    rw [hsame.ruleTerms, mapM_eq_ok] at hgrants
    refine ⟨terms :: grants, mapM_eq_ok.2 (.cons hterms hgrants), ?_, ?_⟩
    · refine hregrant.cons hregrants (rule_ruleTerms hterms) (fun other hother => ?_) hrules.1
      obtain ⟨source, hsource, hsame⟩ := exists_left_of_forall₂ hgrants hother
      rw [rule_ruleTerms hsame]
      exact List.mem_map_of_mem hsource
    · rw [SameButRecords, hsame', hsame]

/-! ## Lines -/

/-- What the rules of the line grant to it; nothing without a catalogue discount. -/
def grants (book : Promotions) (language : Option String) (line : Line) :
    Except SyncError (List PromotionTerms) := do
  let amount ← line.catalogueDiscountAmount.mapError .pricing
  if amount.minorUnits == 0 then return []
  line.rules.mapM (line.ruleTerms book language)

theorem grants_eq_ok {grants : List PromotionTerms} :
    line.grants book language = .ok grants ↔
      ∃ amount, line.catalogueDiscountAmount = .ok amount ∧
        if amount.minorUnits = 0 then grants = []
        else line.rules.mapM (line.ruleTerms book language) = .ok grants := by
  simp only [Line.grants, bind_eq_ok, mapError_eq_ok]
  refine exists_congr fun amount => and_congr_right fun _ => ?_
  by_cases hzero : amount.minorUnits = 0
  · simp only [hzero, beq_self_eq_true, if_true, pure_eq_ok]
    exact eq_comm
  · simp [hzero]

theorem SameButRecords.grants (h : line.SameButRecords line') :
    line'.grants book language = line.grants book language := by
  rw [h]
  rfl

/-- What a line must be like so that each rule has one record at most. -/
structure Distinct (line : Line) : Prop where
  rules : (line.rules.map (·.rule)).Nodup
  records : ∀ key, (line.discounts.filter (·.isOf key)).length ≤ 1

/-- The line was brought in step with its rules: its records carry what they grant, and nothing but
records of promotions changed. -/
structure Synced (book : Promotions) (language : Option String) (line line' : Line) : Prop where
  same : line.SameButRecords line'
  carry : ∃ grants, line.grants book language = .ok grants ∧ Carry line'.discounts grants
  others : line'.discounts.filter (·.kind != .promotion) =
    line.discounts.filter (·.kind != .promotion)
  plain : (∀ record ∈ line.discounts, record.Plain) → ∀ record ∈ line'.discounts, record.Plain

/-- Without a catalogue discount the line loses all records of promotions. -/
theorem synced_filter {amount : Money} (hamount : line.catalogueDiscountAmount = .ok amount)
    (hzero : amount.minorUnits = 0) :
    line.Synced book language
      { line with discounts := line.discounts.filter (!·.kind == .promotion) } := by
  refine ⟨rfl, ⟨[], grants_eq_ok.2 ⟨amount, hamount, by rw [if_pos hzero]⟩, ?_⟩, ?_,
    fun hplain record hrecord => hplain record (List.mem_filter.1 hrecord).1⟩
  · refine ⟨fun record hrecord hkind => ?_, List.forall_mem_nil _⟩
    simp [hkind] at hrecord
  · simp [List.filter_filter, bne]

/-- A line that was planned is in step once its new records are attached. -/
theorem synced_plan {middle : Line} (hnodup : (line.discounts.map (·.key)).Nodup)
    (hdistinct : line.Distinct) (h : (Line.plan book language).runOn line = (.ok plan, middle))
    (hnew : new.map (·.toDiscount) = plan.creates) :
    line.Synced book language { middle with discounts := middle.discounts ++ new } := by
  obtain ⟨amount, hamount, h⟩ := plan_eq_ok.1 h
  by_cases hzero : amount.minorUnits = 0
  · rw [if_pos hzero] at h
    obtain ⟨rfl, rfl⟩ := h
    obtain rfl := List.map_eq_nil_iff.1 hnew
    rw [List.append_nil]
    exact synced_filter hamount hzero
  · rw [if_neg hzero] at h
    obtain ⟨plans, hplans, rfl⟩ := h
    rw [filter_keys_filter hnodup] at hplans
    have hone : ∀ key, ((line.discounts.filter (!line.isStale ·)).filter (·.isOf key)).length ≤ 1 :=
      fun key => ((List.filter_sublist.filter _).length_le).trans (hdistinct.records key)
    obtain ⟨grants, hgrants, hregrant, hsame⟩ := regrant_rules hdistinct.rules hone hplans hnew
    have hkeys : ∀ key ∈ line.rules.map (·.rule), ∃ terms ∈ grants, terms.rule = key := by
      intro key hkey
      obtain ⟨rule, hrule, rfl⟩ := List.mem_map.1 hkey
      obtain ⟨terms, hterms, hgranted⟩ := exists_right_of_forall₂ (mapM_eq_ok.1 hgrants) hrule
      exact ⟨terms, hterms, rule_ruleTerms hgranted⟩
    have hkept : ∀ record ∈ line.discounts.filter (!line.isStale ·), record.kind = .promotion →
        record.rule.any (line.rules.map (·.rule)).contains := by
      intro record hrecord hkind
      simpa [isStale, hkind] using (List.mem_filter.1 hrecord).2
    refine ⟨?_, ⟨grants, grants_eq_ok.2 ⟨amount, hamount, ?_⟩, hregrant.carry hkeys hkept⟩, ?_,
      fun hplain => hregrant.plain_append fun record hrecord =>
        hplain record (List.mem_filter.1 hrecord).1⟩
    · rw [SameButRecords, hsame]
    · rw [if_neg hzero]
      exact hgrants
    · rw [hregrant.others_append, List.filter_filter]
      refine List.filter_congr fun record _ => ?_
      cases hkind : record.kind <;> simp [isStale, hkind]

end Line

/-! ## All lines -/

section Lines

variable {book : Promotions} {language : Option String} {lines lines' : List Line}
  {planned : List (LinePlan × Line)} {records : List DiscountRecord}

/-- The records that were planned for a line are attached to it. -/
theorem forall_attachRecords
    (h : records.map (·.toDiscount) = (LinePlan.joined (planned.map Prod.fst)).creates) :
    List.Forall₂ (fun (result : LinePlan × Line) line' => ∃ new : List DiscountRecord,
        new.map (·.toDiscount) = result.1.creates ∧
        line' = { result.2 with discounts := result.2.discounts ++ new })
      planned (attachRecords (planned.map Prod.snd) (planned.map Prod.fst) records) := by
  induction planned generalizing records with
  | nil => exact .nil
  | cons result results ih =>
    obtain ⟨first, more, rfl, hfirst, hmore, htake, hdrop⟩ := LinePlan.exists_of_creates_cons h
    rw [List.map_cons, List.map_cons, attachRecords, htake, hdrop]
    exact .cons ⟨first, hfirst, rfl⟩ (ih hmore)

/-- What holds of each line that was planned and given its new records. -/
theorem Line.forall_of_plan {R : Line → Line → Prop}
    (hR : ∀ line plan middle (new : List DiscountRecord), (line.discounts.map (·.key)).Nodup →
      line.Distinct → (Line.plan book language).runOn line = (.ok plan, middle) →
      new.map (·.toDiscount) = plan.creates →
      R line { middle with discounts := middle.discounts ++ new })
    (hplanned : List.Forall₂ (fun line result =>
      (Line.plan book language).runOn line = (.ok result.1, result.2)) lines planned)
    (hnodup : ((lines.flatMap (·.discounts)).map (·.key)).Nodup)
    (hdistinct : ∀ line ∈ lines, line.Distinct)
    (hattached : List.Forall₂ (fun (result : LinePlan × Line) line' => ∃ new : List DiscountRecord,
        new.map (·.toDiscount) = result.1.creates ∧
        line' = { result.2 with discounts := result.2.discounts ++ new }) planned lines') :
    List.Forall₂ R lines lines' := by
  induction hplanned generalizing lines' with
  | nil =>
    cases hattached
    exact .nil
  | cons hline _ ih =>
    cases hattached with
    | cons hnew hrest =>
      obtain ⟨new, hnew, rfl⟩ := hnew
      rw [List.flatMap_cons, List.map_append, List.nodup_append'] at hnodup
      rw [List.forall_mem_cons] at hdistinct
      exact .cons (hR _ _ _ new hnodup.1 hdistinct.1 hline hnew) (ih hnodup.2.1 hdistinct.2 hrest)

theorem Basket.forall_of_plan {basket basket' : Basket} {ledger ledger' : Ledger}
    {changes : LineChanges} {R : Line → Line → Prop}
    (hR : ∀ line plan middle (new : List DiscountRecord), (line.discounts.map (·.key)).Nodup →
      line.Distinct → (Line.plan book basket.language).runOn line = (.ok plan, middle) →
      new.map (·.toDiscount) = plan.creates →
      R line { middle with discounts := middle.discounts ++ new })
    (hnodup : ((basket.lines.flatMap (·.discounts)).map (·.key)).Nodup)
    (hdistinct : ∀ line ∈ basket.lines, line.Distinct)
    (h : (syncLines book).runOn (basket, ledger) = (.ok changes, (basket', ledger'))) :
    basket' = { basket with lines := basket'.lines } ∧
      List.Forall₂ R basket.lines basket'.lines := by
  obtain ⟨planned, records, hplanned, hrecords, rfl, -⟩ := exists_of_syncLines_eq_ok h
  exact ⟨rfl, Line.forall_of_plan hR hplanned hnodup hdistinct (forall_attachRecords hrecords)⟩

/-- Bringing the lines of a basket in step changes nothing but their records of promotions. -/
theorem Basket.synced_syncLines {basket basket' : Basket} {ledger ledger' : Ledger}
    {changes : LineChanges}
    (hnodup : ((basket.lines.flatMap (·.discounts)).map (·.key)).Nodup)
    (hdistinct : ∀ line ∈ basket.lines, line.Distinct)
    (h : (syncLines book).runOn (basket, ledger) = (.ok changes, (basket', ledger'))) :
    basket' = { basket with lines := basket'.lines } ∧
      List.Forall₂ (Line.Synced book basket.language) basket.lines basket'.lines := by
  exact Basket.forall_of_plan (fun _ _ _ _ => Line.synced_plan) hnodup hdistinct h

end Lines

end Retail
