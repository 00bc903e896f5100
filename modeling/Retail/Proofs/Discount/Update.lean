import Retail.Proofs.Discount.Ledger
import Retail.Sync.Basic

/-!
# Updates of the ledger

An update writes the same fields of several records. All of them are looked up before the first one
is written, so an update that is refused has written nothing. A record may be given more than once:
it is written each time, and what stays is what the last one says.

## Main definitions

* `Ledger.Updated`: what an update makes of a ledger

## Main results

* `DiscountRecord.sameAt_updatedByAll`: the fields of a record after several updates
* `Ledger.updated_of_update`: an update that succeeds
* `Ledger.update_allOrNothing`: which updates succeed, and what becomes of the ledger
-/

namespace Retail

/-! ## One record -/

namespace DiscountRecord

variable {fields : UpdatedFields} {field : DiscountField} {record last : DiscountRecord}
  {before after updates : List DiscountRecord}

theorem sameAt_updatedBy (hkey : record.key = last.key) :
    (record.updatedBy fields last).SameAt
      (if field ∈ fields.toList then last.toDiscount else record.toDiscount) field := by
  rw [updatedBy, if_pos hkey]
  exact Discount.sameAt_foldl_copyField

/-- A field that is not written stays, however many updates there are. -/
theorem sameAt_updatedByAll_of_notMem (h : field ∉ fields.toList) :
    (record.updatedByAll fields updates).SameAt record.toDiscount field := by
  induction updates generalizing record with
  | nil => exact .refl _ field
  | cons update rest ih =>
    refine ih.trans ?_
    by_cases hkey : record.key = update.key
    · have hkept := @sameAt_updatedBy fields field record update hkey
      rwa [if_neg h] at hkept
    · rw [updatedBy_of_ne hkey]
      exact .refl _ field

/-- Of several updates of a record the last one counts. -/
theorem sameAt_updatedByAll (hkey : record.key = last.key)
    (hlast : last.key ∉ after.map (·.key)) :
    (record.updatedByAll fields (before ++ last :: after)).SameAt
      (if field ∈ fields.toList then last.toDiscount else record.toDiscount) field := by
  have hcounts : record.updatedByAll fields (before ++ last :: after) =
      (record.updatedByAll fields before).updatedBy fields last := by
    rw [updatedByAll_append]
    show ((record.updatedByAll fields before).updatedBy fields last).updatedByAll fields after = _
    refine updatedByAll_of_notMem ?_
    rwa [key_updatedBy, key_updatedByAll, hkey]
  rw [hcounts]
  refine (sameAt_updatedBy (key_updatedByAll.trans hkey)).trans ?_
  split
  · exact .refl _ field
  · rename_i hfield
    exact sameAt_updatedByAll_of_notMem hfield

end DiscountRecord

/-! ## The ledger -/

namespace Ledger

variable {ledger ledger' : Ledger} {records known rest : List DiscountRecord}
  {missing : DiscountRecord} {key : RecordKey} {fields : UpdatedFields}

/-- What an update of these records and fields makes of a ledger. -/
structure Updated (ledger : Ledger) (records : List DiscountRecord) (fields : UpdatedFields)
    (ledger' : Ledger) : Prop where
  /-- No record is entered or removed. -/
  keys : ledger'.toList.map (·.key) = ledger.toList.map (·.key)
  /-- A record that is not given stays as it is. -/
  others : ∀ key, key ∉ records.map (·.key) → ledger'.get? key = ledger.get? key
  /-- A record that is given has the fields of the last one given with its key, and for the rest
  is what it was. -/
  given : ∀ before last after, records = before ++ last :: after →
    last.key ∉ after.map (·.key) → ∀ stored, ledger.get? last.key = some stored →
    ∃ stored', ledger'.get? last.key = some stored' ∧ stored'.key = stored.key ∧
      stored'.SameOrigin stored.toDiscount ∧
      ∀ field, stored'.SameAt
        (if field ∈ fields.toList then last.toDiscount else stored.toDiscount) field
  /-- One write is noted, with the number of records that were given. -/
  writes : ledger'.writes = ledger.writes ++ [.updated records.length fields]

theorem contains_eq_isSome : ledger.records.contains key = (ledger.get? key).isSome := by
  rw [Registry.contains_eq_isSome, get?, Option.isSome_map]

theorem writes_foldl_copyFields :
    (records.foldl (·.copyFields fields) ledger).writes = ledger.writes := by
  induction records generalizing ledger with
  | nil => rfl
  | cons first rest ih => exact ih

theorem writes_update (h : ledger.update records fields = .ok ledger') :
    ledger'.writes = ledger.writes ++ [.updated records.length fields] := by
  unfold update at h
  split at h
  · contradiction
  · obtain rfl := Except.ok.inj h
    exact congrArg (· ++ _) writes_foldl_copyFields

theorem updated_of_update (h : ledger.update records fields = .ok ledger') :
    ledger.Updated records fields ledger' where
  keys := by
    rw [toList_update h, List.map_map]
    exact List.map_congr_left fun record _ => DiscountRecord.key_updatedByAll
  others key hkey := by
    rw [get?_update h]
    cases hstored : ledger.get? key with
    | none => rfl
    | some stored =>
      obtain rfl := (get?_eq_some.1 hstored).2
      exact congrArg some (DiscountRecord.updatedByAll_of_notMem hkey)
  given := by
    rintro before last after rfl hlast stored hstored
    have hkey := (get?_eq_some.1 hstored).2
    refine ⟨stored.updatedByAll fields (before ++ last :: after), ?_,
      DiscountRecord.key_updatedByAll, DiscountRecord.sameOrigin_updatedByAll,
      fun field => DiscountRecord.sameAt_updatedByAll hkey hlast⟩
    rw [get?_update h, hstored, Option.map_some]
  writes := writes_update h

/-- The first record that is not in the ledger is the one that is reported. -/
theorem update_eq_error_of_unknown (hknown : ∀ record ∈ known, (ledger.get? record.key).isSome)
    (hmissing : ledger.get? missing.key = none) :
    ledger.update (known ++ missing :: rest) fields = .error (.recordNotFound missing.key) := by
  have hfound : (known ++ missing :: rest).find?
      (fun record => !ledger.records.contains record.key) = some missing := by
    rw [List.find?_eq_some_iff_append]
    refine ⟨by simp [contains_eq_isSome, hmissing], known, rest, rfl, fun record hrecord => ?_⟩
    simpa [contains_eq_isSome] using hknown record hrecord
  rw [update, hfound]

/-- An update is refused because of the first record that is not in the ledger, and then neither the
records nor the notes of writes have changed. Where all records are in the ledger, those that are
given have the given fields of the last one with their key, everything else about them and every
other record is as it was, and the write is noted once. -/
theorem update_allOrNothing (ledger : Ledger) (records : List DiscountRecord)
    (fields : UpdatedFields) :
    (∀ known missing rest, records = known ++ missing :: rest →
      (∀ record ∈ known, (ledger.get? record.key).isSome) → ledger.get? missing.key = none →
      ledger.update records fields = .error (.recordNotFound missing.key) ∧
        ∀ basket, (SyncStep.update records fields).runOn (basket, ledger) =
          (.error (.ledger (.recordNotFound missing.key)), (basket, ledger))) ∧
    ((∀ record ∈ records, (ledger.get? record.key).isSome) →
      ∃ ledger', ledger.update records fields = .ok ledger' ∧
        (∀ basket, (SyncStep.update records fields).runOn (basket, ledger) =
          (.ok (), (basket, ledger'))) ∧
        ledger.Updated records fields ledger') := by
  constructor
  · rintro known missing rest rfl hknown hmissing
    have hrefused := @update_eq_error_of_unknown _ known rest missing fields hknown hmissing
    refine ⟨hrefused, fun basket => ?_⟩
    simp [SyncStep.update, Step.runOn_bind, hrefused, Except.mapError]
  · intro hknown
    have hkeys : ∀ record ∈ records, record.key ∈ ledger.toList.map (·.key) := by
      intro record hrecord
      obtain ⟨stored, hstored⟩ := Option.isSome_iff_exists.1 (hknown record hrecord)
      obtain ⟨hmem, hkey⟩ := get?_eq_some.1 hstored
      exact List.mem_map.2 ⟨stored, hmem, hkey⟩
    obtain ⟨ledger', hupdate⟩ := exists_update hkeys
    refine ⟨ledger', hupdate, fun basket => ?_, updated_of_update hupdate⟩
    simp [SyncStep.update, Step.runOn_bind, hupdate, Except.mapError]

/-- A discount on an order. -/
def allowance (amount : Int) (name : String) : Discount where
  scope := .order
  kind := .manual
  valueType := .fixed
  value := .one
  amount := ⟨amount, .gbp⟩
  name := some name

/-- A record that is given twice has the amount of the second one and keeps its name, and nothing is
written where an unknown record follows. -/
theorem update_allOrNothing_of_two :
    let ledger := (create .empty [allowance 10 "Spring", allowance 20 "Summer"]).1
    let updates := [(allowance 11 "First").withKey ⟨1⟩, (allowance 12 "Second").withKey ⟨1⟩]
    let unknown := (allowance 30 "Lost").withKey ⟨3⟩
    ledger.update (updates ++ unknown :: updates) (.ofList [.amount]) =
        .error (.recordNotFound ⟨3⟩) ∧
      ∃ ledger', ledger.update updates (.ofList [.amount]) = .ok ledger' ∧
        ledger'.toList =
          [(allowance 12 "Spring").withKey ⟨1⟩, (allowance 20 "Summer").withKey ⟨2⟩] ∧
        ledger'.writes = [.created 2, .updated 2 (.ofList [.amount])] := by
  intro ledger updates unknown
  have hknown : ∀ record ∈ updates, (ledger.get? record.key).isSome := by decide
  obtain ⟨hrefused, -⟩ := (update_allOrNothing ledger (updates ++ unknown :: updates)
    (.ofList [.amount])).1 updates unknown updates rfl hknown rfl
  obtain ⟨ledger', hupdate, -, hupdated⟩ :=
    (update_allOrNothing ledger updates (.ofList [.amount])).2 hknown
  exact ⟨hrefused, ledger', hupdate, toList_update hupdate, hupdated.writes⟩

end Ledger

end Retail
