import Retail.Sync.Basic

/-!
# Records of catalogue promotions

A line with a catalogue discount carries one record for each of its rules, and a line without one
carries none. What has to be written is planned line by line and then written in bulk.

## Main definitions

* `LinePlan`: what has to be written for a line
* `Line.planRule`, `Line.plan`: the records of a line brought in step with its rules
* `syncLines`: the records of all lines
-/

namespace Retail

/-- What has to be written: discounts to enter, records that were brought in line with the fields
that changed in them, and records to remove. -/
structure LinePlan where
  creates : List Discount := []
  updates : List DiscountRecord := []
  fields : List DiscountField := []
  removals : List RecordKey := []

namespace LinePlan

/-- What has to be written for one plan and then for the other. -/
def append (a b : LinePlan) : LinePlan where
  creates := a.creates ++ b.creates
  updates := a.updates ++ b.updates
  fields := a.fields ++ b.fields
  removals := a.removals ++ b.removals

/-- Several plans as one. -/
def joined (plans : List LinePlan) : LinePlan := plans.foldr append {}

end LinePlan

namespace Line

/-- What a rule takes off the line; nothing where that is not known. -/
def ruleAmount (line : Line) (rule : LineRule) : Except PricingError Money :=
  match rule.unitDiscount with
  | some unitDiscount => unitDiscount.times line.quantity
  | none => .ok (.zero line.currency)

/-- What a rule grants to the line. -/
def ruleTerms (line : Line) (book : Promotions) (language : Option String) (lineRule : LineRule) :
    Except SyncError PromotionTerms :=
  match book.ruleWithPromotion? lineRule.rule with
  | none => .error (.promotion (.ruleNotFound lineRule.rule))
  | some (rule, promotion) => do
    let amount ← (line.ruleAmount lineRule).mapError .pricing
    return rule.terms lineRule.rule promotion amount language

/-- Brings the record of a rule in line with it, or plans a new one. -/
def planRule (book : Promotions) (language : Option String) (rule : LineRule) :
    Step Line SyncError LinePlan := do
  let line ← get
  let terms ← Step.answer (line.ruleTerms book language rule)
  let isRecord (record : DiscountRecord) : Bool :=
    record.kind == .promotion && record.rule == some rule.rule
  match line.discounts.find? isRecord, changeFirst? isRecord (·.sync terms) line.discounts with
  | some record, some (synced, discounts) =>
    set { line with discounts }
    return { updates := [synced], fields := record.outdatedFields terms }
  | _, _ => return { creates := [.ofTerms (.line line.key) .promotion terms] }

/-- Plans the records of the line, and removes from it those that have no rule any more. -/
def plan (book : Promotions) (language : Option String) : Step Line SyncError LinePlan := do
  let line ← get
  let amount ← Step.answer (line.catalogueDiscountAmount.mapError .pricing)
  if amount.minorUnits == 0 then
    -- Without a catalogue discount no record stays, whatever rules the line has.
    let (granted, others) := line.discounts.partition (·.kind == .promotion)
    set { line with discounts := others }
    return { removals := granted.map (·.key) }
  let wanted := line.rules.map (·.rule)
  let stale := line.discounts.filter fun record =>
    record.kind == .promotion && !record.rule.any wanted.contains
  let removals := stale.map (·.key)
  set { line with discounts := line.discounts.filter fun record => !removals.contains record.key }
  let plans ← line.rules.mapM (planRule book language)
  return LinePlan.append { removals } (.joined plans)

end Line

/-- How many records were entered, updated and removed. -/
structure LineChanges where
  created : Nat
  updated : Nat
  deleted : Nat
  deriving DecidableEq, Repr

/-- Gives each line as many of the new records as were planned for it. -/
def attachRecords : List Line → List LinePlan → List DiscountRecord → List Line
  | line :: lines, plan :: plans, records =>
    { line with discounts := line.discounts ++ records.take plan.creates.length }
      :: attachRecords lines plans (records.drop plan.creates.length)
  | lines, _, _ => lines

/-- Enters the planned discounts and attaches their records to the lines. -/
def createPlanned (plans : List LinePlan) : SyncStep Nat := do
  let discounts := (LinePlan.joined plans).creates
  if discounts.isEmpty then
    return 0
  let records ← SyncStep.create discounts
  SyncStep.changeBasket fun basket =>
    { basket with lines := attachRecords basket.lines plans records }
  return records.length

/-- Updates the records that were brought in line, if a field of one of them changed. -/
def updatePlanned (plan : LinePlan) : SyncStep Nat := do
  let fields := UpdatedFields.ofList plan.fields
  if plan.updates.isEmpty || fields.isEmpty then
    return 0
  SyncStep.update plan.updates fields
  return plan.updates.length

/-- Removes the records that have no rule any more. -/
def deletePlanned (plan : LinePlan) : SyncStep Nat := do
  if plan.removals.isEmpty then
    return 0
  SyncStep.delete plan.removals

/-- Brings the records of all lines in step with their rules. -/
def syncLines (book : Promotions) : SyncStep LineChanges := do
  let language := (← SyncStep.basket).language
  let plans ← Step.on (·.1.lines)
    (fun lines (basket, ledger) => ({ basket with lines }, ledger))
    (Step.onEach (Line.plan book language))
  -- Nothing has been written so far: a line that cannot be planned leaves the ledger as it is.
  let plan := LinePlan.joined plans
  let created ← createPlanned plans
  let updated ← updatePlanned plan
  let deleted ← deletePlanned plan
  return ⟨created, updated, deleted⟩

end Retail
