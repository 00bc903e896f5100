import Retail.Proofs.Discount.Alike
import Retail.Proofs.Discount.Ledger
import Retail.Sync.Lines

/-!
# Many records written at once

Records are brought in line one after the other, and the fields that change are collected in one
set. The set does not say whose field changed, so the write takes over a field of every record as
soon as it changed on one of them. This does no harm: the other records have in that field what is
stored for them anyway.

## Main definitions

* `DiscountRecord.syncAll`: records brought in line, and the fields that changed on any of them

## Main results

* `DiscountRecord.mem_fields_syncAll`: a field is collected if and only if a record differed in it
* `LinePlan.joined_syncAll`: a pass over lines plans such a write
* `Ledger.update_syncAll`: one write leaves each record as it is in memory
-/

namespace Retail

namespace DiscountRecord

variable {pair : DiscountRecord × PromotionTerms} {pairs : List (DiscountRecord × PromotionTerms)}
  {fields : UpdatedFields} {field : DiscountField}

/-- The records brought in line with what stands beside them, and the fields together with those
that changed. -/
def syncAll : List (DiscountRecord × PromotionTerms) → UpdatedFields →
    List DiscountRecord × UpdatedFields
  | [], fields => ([], fields)
  | (record, terms) :: rest, fields =>
    let (synced, fields) := syncAll rest (fields.insertAll (record.outdatedFields terms))
    (record.sync terms :: synced, fields)

theorem records_syncAll :
    (syncAll pairs fields).1 = pairs.map fun (record, terms) => record.sync terms := by
  induction pairs generalizing fields with
  | nil => rfl
  | cons first rest ih => exact congrArg _ ih

/-- The fields are those of all records, collected from the first one to the last. -/
theorem fields_syncAll : (syncAll pairs fields).2 =
    fields.insertAll (pairs.flatMap fun (record, terms) => record.outdatedFields terms) := by
  induction pairs generalizing fields with
  | nil => rfl
  | cons first rest ih =>
    rw [List.flatMap_cons, UpdatedFields.insertAll, List.foldl_append]
    exact ih

theorem mem_fields_syncAll : field ∈ (syncAll pairs .empty).2.toList ↔ ∃ pair ∈ pairs,
    ¬pair.1.agreesOn (.ofTerms pair.1.scope pair.1.kind pair.2) field := by
  rw [fields_syncAll, ← UpdatedFields.ofList, UpdatedFields.mem_ofList, List.mem_flatMap]
  simp only [Discount.mem_outdatedFields]

theorem mem_records_syncAll {record : DiscountRecord} :
    record ∈ (syncAll pairs fields).1 ↔ ∃ pair ∈ pairs, pair.1.sync pair.2 = record := by
  rw [records_syncAll, List.mem_map]

theorem keys_syncAll : (syncAll pairs fields).1.map (·.key) = pairs.map (·.1.key) := by
  rw [records_syncAll, List.map_map]
  rfl

/-- A stored copy of one of the records is like that record after the write. -/
theorem alike_updatedByAll_syncAll {stored : DiscountRecord} (hnodup : (pairs.map (·.1.key)).Nodup)
    (hpair : pair ∈ pairs) (hkey : stored.key = pair.1.key)
    (hstored : stored.Alike pair.1.toDiscount) :
    (stored.updatedByAll (syncAll pairs .empty).2 (syncAll pairs .empty).1).Alike
      (pair.1.sync pair.2).toDiscount := by
  rw [← keys_syncAll] at hnodup
  rw [updatedByAll_of_mem hnodup (mem_records_syncAll.2 ⟨pair, hpair, rfl⟩) hkey, updatedBy,
    if_pos (show stored.key = (pair.1.sync pair.2).key from hkey)]
  refine hstored.copyFields_sync fun field hfield => ?_
  exact mem_fields_syncAll.2 ⟨pair, hpair, Discount.mem_outdatedFields.1 hfield⟩

end DiscountRecord

/-- What is planned for records of lines, taken together, is this write. -/
theorem LinePlan.joined_syncAll (pairs : List (DiscountRecord × PromotionTerms)) :
    let plan := joined (pairs.map fun (record, terms) =>
      { updates := [record.sync terms], fields := record.outdatedFields terms })
    (plan.updates, UpdatedFields.ofList plan.fields) = DiscountRecord.syncAll pairs .empty := by
  intro plan
  refine Prod.ext ?_ ?_
  · rw [DiscountRecord.records_syncAll]
    show plan.updates = _
    induction pairs with
    | nil => rfl
    | cons first rest ih => exact congrArg _ ih
  · rw [DiscountRecord.fields_syncAll]
    refine congrArg UpdatedFields.ofList ?_
    induction pairs with
    | nil => rfl
    | cons first rest ih => exact congrArg _ ih

namespace Ledger

variable {ledger : Ledger}

open DiscountRecord in
/-- Where each record in memory is like its stored copy, one write of the fields that changed on any
of them makes the copies like the records that were brought in line. These carry what was granted,
and a field was collected only if one of the records differed in it. -/
theorem update_syncAll (pairs : List (DiscountRecord × PromotionTerms))
    (hnodup : (pairs.map (·.1.key)).Nodup)
    (hstored : ∀ pair ∈ pairs, ∃ stored, ledger.get? pair.1.key = some stored ∧
      stored.Alike pair.1.toDiscount) :
    ∃ ledger', ledger.update (syncAll pairs .empty).1 (syncAll pairs .empty).2 = .ok ledger' ∧
      (∀ record ∈ (syncAll pairs .empty).1, ∃ stored, ledger'.get? record.key = some stored ∧
        stored.Alike record.toDiscount) ∧
      List.Forall₂ (fun pair record => record.key = pair.1.key ∧
        record.SameOrigin pair.1.toDiscount ∧ record.Carries pair.2)
        pairs (syncAll pairs .empty).1 ∧
      ∀ field, field ∈ (syncAll pairs .empty).2.toList ↔ ∃ pair ∈ pairs,
        ¬pair.1.agreesOn (.ofTerms pair.1.scope pair.1.kind pair.2) field := by
  have hfound : ∀ update ∈ (syncAll pairs .empty).1, update.key ∈ ledger.toList.map (·.key) := by
    intro update hupdate
    obtain ⟨pair, hpair, rfl⟩ := mem_records_syncAll.1 hupdate
    obtain ⟨stored, hget, -⟩ := hstored pair hpair
    obtain ⟨hmem, hkey⟩ := get?_eq_some.1 hget
    exact List.mem_map.2 ⟨stored, hmem, hkey⟩
  obtain ⟨ledger', hupdate⟩ := exists_update hfound
  refine ⟨ledger', hupdate, fun record hrecord => ?_, ?_, fun field => mem_fields_syncAll⟩
  · obtain ⟨pair, hpair, rfl⟩ := mem_records_syncAll.1 hrecord
    obtain ⟨stored, hget, halike⟩ := hstored pair hpair
    have hkey := (get?_eq_some.1 hget).2
    refine ⟨_, ?_, alike_updatedByAll_syncAll hnodup hpair hkey halike⟩
    rw [get?_update hupdate]
    exact congrArg _ hget
  · rw [records_syncAll, List.forall₂_map_right_iff, List.forall₂_same]
    exact fun pair _ => ⟨rfl, Discount.sameOrigin_sync _ _, Discount.carries_sync _ _⟩

/-- A promotion discount of 1.5 percent on an order, whose value may have a last zero. -/
def percentOff (exact : Bool) (amount : Int) (name : String) : Discount where
  scope := .order
  kind := .promotion
  valueType := .percentage
  value :=
    if exact then { negative := false, magnitude := 15, scale := 1 }
    else { negative := false, magnitude := 150, scale := 2 }
  amount := ⟨amount, .gbp⟩
  name := some name
  rule := some ⟨1⟩

/-- What the promotion grants now. -/
def percentTerms (amount : Int) (name : String) : PromotionTerms where
  rule := ⟨1⟩
  value := ⟨{ negative := false, magnitude := 15, scale := 1 }, .percentage⟩
  amount := ⟨amount, .gbp⟩
  name := some name
  localizedName := none
  reason := none

/-- One record changes its amount and the other one its name, and both are written for both. A value
of 1.50 that is known as 1.5 is no change. -/
theorem update_syncAll_of_two :
    let ledger := (create .empty [percentOff false 10 "Spring", percentOff true 20 "Summer"]).1
    let pairs := [((percentOff true 10 "Spring").withKey ⟨1⟩, percentTerms 11 "Spring"),
      ((percentOff true 20 "Summer").withKey ⟨2⟩, percentTerms 20 "Autumn")]
    (DiscountRecord.syncAll pairs .empty).2.toList = [.amount, .name] ∧
      ∃ ledger', ledger.update (DiscountRecord.syncAll pairs .empty).1
          (DiscountRecord.syncAll pairs .empty).2 = .ok ledger' ∧
        ∀ record ∈ (DiscountRecord.syncAll pairs .empty).1, ∃ stored,
          ledger'.get? record.key = some stored ∧ stored.Alike record.toDiscount := by
  intro ledger pairs
  have hstored : ∀ pair ∈ pairs, ∃ stored, ledger.get? pair.1.key = some stored ∧
      stored.Alike pair.1.toDiscount := by
    refine List.forall_mem_cons.2 ⟨?_, List.forall_mem_singleton.2 ?_⟩
    · refine ⟨(percentOff false 10 "Spring").withKey ⟨1⟩, rfl, ?_⟩
      exact Discount.SameOrigin.alike ⟨rfl, rfl, rfl, rfl⟩ fun field => by cases field <;> decide
    · exact ⟨_, rfl, .refl _⟩
  obtain ⟨ledger', hupdate, hcopies, -⟩ := update_syncAll pairs (by decide) hstored
  exact ⟨by decide, ledger', hupdate, hcopies⟩

end Ledger

end Retail
