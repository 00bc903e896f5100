import Mathlib.Data.List.Perm.Subperm
import Retail.Discount.Ledger
import Retail.Proofs.Discount.Record
import Retail.Proofs.Key

/-!
# Records in the ledger

A ledger is known by its records, in whatever order they stand. Each bulk write changes them as the
same change would be made to a list of records kept elsewhere, so whoever changes both in this way
keeps them alike.

## Main definitions

* `DiscountRecord.updatedBy`, `DiscountRecord.updatedByAll`: a record after updates
* `Ledger.Holds`: a ledger of exactly these records

## Main results

* `Ledger.toList_create`, `Ledger.toList_delete`, `Ledger.toList_update`: the records after a write
* `Ledger.get?_update`: what is found after an update
* `Ledger.Holds.append`, `Ledger.Holds.filter`, `Ledger.Holds.map`: writes that follow changes
-/

namespace Retail

@[simp] theorem Discount.key_withKey (d : Discount) (key : RecordKey) : (d.withKey key).key = key :=
  rfl

@[simp] theorem Discount.toDiscount_withKey (d : Discount) (key : RecordKey) :
    (d.withKey key).toDiscount = d := rfl

@[simp] theorem DiscountRecord.withKey_key (record : DiscountRecord) :
    record.toDiscount.withKey record.key = record := rfl

/-! ## Updates -/

namespace DiscountRecord

variable {fields : UpdatedFields} {record update : DiscountRecord} {updates : List DiscountRecord}

/-- The record with some fields taken over from an update, if the update is one of it. -/
def updatedBy (fields : UpdatedFields) (record update : DiscountRecord) : DiscountRecord :=
  if record.key = update.key then
    (update.toDiscount.copyFields fields record.toDiscount).withKey record.key
  else record

/-- The record after several updates. -/
def updatedByAll (fields : UpdatedFields) (updates : List DiscountRecord)
    (record : DiscountRecord) : DiscountRecord :=
  updates.foldl (updatedBy fields) record

@[simp] theorem key_updatedBy : (record.updatedBy fields update).key = record.key := by
  unfold updatedBy
  split <;> rfl

theorem updatedBy_of_ne (h : record.key ≠ update.key) : record.updatedBy fields update = record :=
  if_neg h

@[simp] theorem updatedByAll_nil : record.updatedByAll fields [] = record := rfl

@[simp] theorem updatedByAll_singleton :
    record.updatedByAll fields [update] = record.updatedBy fields update := rfl

theorem updatedByAll_append (more : List DiscountRecord) :
    record.updatedByAll fields (updates ++ more) =
      (record.updatedByAll fields updates).updatedByAll fields more :=
  List.foldl_append

@[simp] theorem key_updatedByAll : (record.updatedByAll fields updates).key = record.key := by
  induction updates generalizing record with
  | nil => rfl
  | cons update rest ih => exact ih.trans key_updatedBy

theorem sameOrigin_updatedByAll :
    (record.updatedByAll fields updates).SameOrigin record.toDiscount := by
  induction updates generalizing record with
  | nil => exact .refl _
  | cons update rest ih =>
    refine ih.trans ?_
    unfold updatedBy
    split
    · exact Discount.sameOrigin_copyFields _ _ _
    · exact .refl _

/-- Updates of other records leave a record as it is. -/
theorem updatedByAll_of_notMem (h : record.key ∉ updates.map (·.key)) :
    record.updatedByAll fields updates = record := by
  induction updates generalizing record with
  | nil => rfl
  | cons update rest ih =>
    rw [List.map_cons, List.mem_cons, not_or] at h
    rw [updatedByAll, List.foldl_cons, ← updatedByAll, updatedBy_of_ne h.1, ih h.2]

/-- Of updates of distinct records only one concerns a record. -/
theorem updatedByAll_of_mem (hnodup : (updates.map (·.key)).Nodup) (hupdate : update ∈ updates)
    (hkey : record.key = update.key) :
    record.updatedByAll fields updates = record.updatedBy fields update := by
  induction updates with
  | nil => exact absurd hupdate List.not_mem_nil
  | cons first rest ih =>
    rw [List.map_cons, List.nodup_cons] at hnodup
    rw [updatedByAll, List.foldl_cons, ← updatedByAll]
    rcases List.mem_cons.1 hupdate with rfl | hrest
    · refine updatedByAll_of_notMem ?_
      rw [key_updatedBy, hkey]
      exact hnodup.1
    · have hne : record.key ≠ first.key := by
        rintro heq
        exact hnodup.1 (List.mem_map.2 ⟨update, hrest, hkey.symm.trans heq⟩)
      rw [updatedBy_of_ne hne, ih hnodup.2 hrest]

/-- Updates of no fields leave every record as it is. -/
theorem updatedByAll_of_isEmpty (h : fields.isEmpty) :
    record.updatedByAll fields updates = record := by
  induction updates generalizing record with
  | nil => rfl
  | cons update rest ih =>
    rw [updatedByAll, List.foldl_cons, ← updatedByAll, ih, updatedBy,
      Discount.copyFields_of_isEmpty h, withKey_key, ite_self]

/-- A record that was brought in line with a promotion is its own update. -/
theorem updatedBy_sync {terms : PromotionTerms}
    (h : ∀ field ∈ record.outdatedFields terms, field ∈ fields.toList) :
    record.updatedBy fields (record.sync terms) = record.sync terms := by
  have hkey : record.key = (record.sync terms).key := rfl
  rw [updatedBy, if_pos hkey, sync, Discount.toDiscount_withKey, Discount.copyFields_sync h]

end DiscountRecord

/-! ## Some of several records

Where keys are distinct, a write that concerns some of the records leaves the others alone. -/

section Frame

variable {fields : UpdatedFields} {keys : List RecordKey}
  {records rest updates : List DiscountRecord}

theorem notMem_keys_of_nodup_append (hnodup : ((records ++ rest).map (·.key)).Nodup)
    {record : DiscountRecord} (hrecord : record ∈ rest) : record.key ∉ records.map (·.key) := by
  rw [List.map_append, List.nodup_append'] at hnodup
  exact fun hmem => hnodup.2.2 hmem (List.mem_map_of_mem hrecord)

theorem filter_keys_append (hnodup : ((records ++ rest).map (·.key)).Nodup)
    (hkeys : ∀ key ∈ keys, key ∈ records.map (·.key)) :
    (records ++ rest).filter (!keys.contains ·.key) =
      records.filter (!keys.contains ·.key) ++ rest := by
  rw [List.filter_append, (List.filter_eq_self (l := rest)).2]
  intro record hrecord
  have hnot := mt (hkeys record.key) (notMem_keys_of_nodup_append hnodup hrecord)
  simpa using hnot

theorem map_updatedByAll_append (hnodup : ((records ++ rest).map (·.key)).Nodup)
    (hkeys : ∀ update ∈ updates, update.key ∈ records.map (·.key)) :
    (records ++ rest).map (·.updatedByAll fields updates) =
      records.map (·.updatedByAll fields updates) ++ rest := by
  rw [List.map_append, List.append_cancel_left_eq]
  refine (List.map_congr_left fun record hrecord => ?_).trans (List.map_id rest)
  refine DiscountRecord.updatedByAll_of_notMem fun hmem => ?_
  obtain ⟨update, hupdate, hkey⟩ := List.mem_map.1 hmem
  exact notMem_keys_of_nodup_append hnodup hrecord (hkey ▸ hkeys update hupdate)

/-- Updates of the records behind the first one leave it as it is. -/
theorem map_updatedByAll_cons {record : DiscountRecord}
    (hnodup : ((record :: rest).map (·.key)).Nodup)
    (hkeys : ∀ update ∈ updates, update.key ∈ rest.map (·.key)) :
    (record :: rest).map (·.updatedByAll fields updates) =
      record :: rest.map (·.updatedByAll fields updates) := by
  rw [List.map_cons, List.nodup_cons] at hnodup
  rw [List.map_cons, DiscountRecord.updatedByAll_of_notMem]
  intro hmem
  obtain ⟨update, hupdate, hkey⟩ := List.mem_map.1 hmem
  exact hnodup.1 (hkey ▸ hkeys update hupdate)

/-- An update of the first record leaves those behind it as they are. -/
theorem map_updatedByAll_cons_cons {record update : DiscountRecord}
    (hnodup : ((record :: rest).map (·.key)).Nodup) (hkey : update.key = record.key)
    (hkeys : ∀ update ∈ updates, update.key ∈ rest.map (·.key)) :
    (record :: rest).map (·.updatedByAll fields (update :: updates)) =
      record.updatedBy fields update :: rest.map (·.updatedByAll fields updates) := by
  -- The first update is made everywhere before the others are.
  have hsplit : (record :: rest).map (·.updatedByAll fields (update :: updates)) =
      ((record :: rest).map (·.updatedBy fields update)).map (·.updatedByAll fields updates) := by
    rw [List.map_map]
    rfl
  have hothers : rest.map (·.updatedBy fields update) = rest := by
    refine (List.map_congr_left fun other hother => ?_).trans (List.map_id rest)
    refine DiscountRecord.updatedBy_of_ne fun heq => (List.nodup_cons.1 hnodup).1 ?_
    exact List.mem_map.2 ⟨other, hother, heq.trans hkey⟩
  rw [hsplit, List.map_cons, hothers, map_updatedByAll_cons _ hkeys]
  simpa using hnodup

theorem mem_keys_of_mem_filter {p : DiscountRecord → Bool} {key : RecordKey}
    (h : key ∈ (records.filter p).map (·.key)) : key ∈ records.map (·.key) :=
  (List.filter_sublist.map _).subset h

/-- Removing records by their keys removes no others, where each key is that of one record. -/
theorem filter_keys_filter_of_key_inj {p : DiscountRecord → Bool}
    (hinj : ∀ record ∈ records, ∀ other ∈ records, record.key = other.key → record = other) :
    records.filter (!((records.filter p).map (·.key)).contains ·.key) = records.filter (!p ·) := by
  refine List.filter_congr fun record hrecord => ?_
  rw [Bool.not_eq_eq_eq_not, Bool.not_not, Bool.eq_iff_iff, List.contains_iff_mem, List.mem_map]
  constructor
  · rintro ⟨other, hother, hkey⟩
    obtain ⟨hmem, hp⟩ := List.mem_filter.1 hother
    rwa [← hinj other hmem record hrecord hkey]
  · exact fun hp => ⟨record, List.mem_filter.2 ⟨hrecord, hp⟩, rfl⟩

theorem filter_keys_filter {p : DiscountRecord → Bool} (hnodup : (records.map (·.key)).Nodup) :
    records.filter (!((records.filter p).map (·.key)).contains ·.key) = records.filter (!p ·) :=
  filter_keys_filter_of_key_inj fun _ hrecord _ hother =>
    List.inj_on_of_nodup_map hnodup hrecord hother

end Frame

namespace Ledger

variable {ledger ledger' : Ledger} {record : DiscountRecord} {records rest : List DiscountRecord}
  {fields : UpdatedFields}

/-! ## Records -/

theorem nodup_keys (ledger : Ledger) : (ledger.toList.map (·.key)).Nodup := by
  rw [toList, List.map_map, List.Nodup, List.pairwise_map]
  refine ledger.records.ascending.imp fun hlt heq => ?_
  simp only [Function.comp_apply, Discount.key_withKey] at heq
  exact absurd hlt (heq ▸ Nat.lt_irrefl _)

/-- A record is found under its key, and nothing else is. -/
theorem get?_eq_some {key : RecordKey} :
    ledger.get? key = some record ↔ record ∈ ledger.toList ∧ record.key = key := by
  simp only [get?, Option.map_eq_some_iff, Registry.get?_eq_some, toList, List.mem_map]
  constructor
  · rintro ⟨discount, hmem, rfl⟩
    exact ⟨⟨(key, discount), hmem, rfl⟩, rfl⟩
  · rintro ⟨⟨entry, hmem, rfl⟩, rfl⟩
    exact ⟨entry.2, hmem, rfl⟩

theorem toList_create (discounts : List Discount) :
    (ledger.create discounts).1.toList = ledger.toList ++ (ledger.create discounts).2 ∧
      (ledger.create discounts).2.map (·.toDiscount) = discounts := by
  show (ledger.enter discounts).1.toList = ledger.toList ++ (ledger.enter discounts).2 ∧
    (ledger.enter discounts).2.map (·.toDiscount) = discounts
  induction discounts generalizing ledger with
  | nil => simp [enter]
  | cons discount rest ih =>
    obtain ⟨hlist, hdiscounts⟩ := @ih { ledger with records := ledger.records.push discount }
    simp only [enter, List.map_cons, Discount.toDiscount_withKey, hlist, hdiscounts, and_true]
    simp [toList, Registry.push]

theorem toList_delete (keys : List RecordKey) :
    (ledger.delete keys).1.toList = ledger.toList.filter (!keys.contains ·.key) := by
  have hentries : (keys.foldl Registry.erase ledger.records).entries =
      ledger.records.entries.filter (!keys.contains ·.1) := by
    induction keys generalizing ledger with
    | nil => simp
    | cons key rest ih =>
      rw [List.foldl_cons, @ih { ledger with records := ledger.records.erase key }]
      rw [Registry.erase, List.filter_filter]
      refine List.filter_congr fun entry _ => ?_
      by_cases hkey : entry.1 = key <;> simp [hkey]
  show (keys.foldl Registry.erase ledger.records).entries.map _ = _
  rw [hentries, toList, List.filter_map]
  rfl

/-- What is answered is how many records were removed. -/
theorem count_delete (keys : List RecordKey) :
    (ledger.delete keys).2 = (ledger.toList.filter (keys.contains ·.key)).length := by
  have hlength : (ledger.delete keys).2 =
      ledger.toList.length - (ledger.delete keys).1.toList.length := by
    simp only [toList, List.length_map]
    rfl
  have hsplit := ledger.toList.length_eq_length_filter_add (keys.contains ·.key)
  rw [hlength, toList_delete]
  omega

theorem toList_copyFields (update : DiscountRecord) :
    (ledger.copyFields fields update).toList = ledger.toList.map (·.updatedBy fields update) := by
  simp only [copyFields, toList, Registry.modify, List.map_map]
  refine List.map_congr_left fun entry _ => ?_
  by_cases hkey : entry.1 = update.key <;> simp [DiscountRecord.updatedBy, hkey]

theorem toList_update {updates : List DiscountRecord}
    (h : ledger.update updates fields = .ok ledger') :
    ledger'.toList = ledger.toList.map (·.updatedByAll fields updates) := by
  have hfold : ∀ start : Ledger, (updates.foldl (·.copyFields fields) start).toList =
      start.toList.map (·.updatedByAll fields updates) := by
    clear h
    induction updates with
    | nil => simp
    | cons first rest ih =>
      intro start
      rw [List.foldl_cons, ih, toList_copyFields, List.map_map]
      rfl
  unfold update at h
  split at h
  · contradiction
  · obtain rfl := Except.ok.inj h
    exact hfold ledger

/-- Records that are in the ledger can be updated. -/
theorem exists_update {updates : List DiscountRecord}
    (h : ∀ update ∈ updates, update.key ∈ ledger.toList.map (·.key)) :
    ∃ ledger', ledger.update updates fields = .ok ledger' := by
  have hnone : updates.find? (fun update => !ledger.records.contains update.key) = none := by
    rw [List.find?_eq_none]
    intro update hupdate hmissing
    obtain ⟨record, hrecord, hkey⟩ := List.mem_map.1 (h update hupdate)
    obtain ⟨entry, hentry, rfl⟩ := List.mem_map.1 hrecord
    have hcontains : ledger.records.contains update.key = true :=
      List.any_eq_true.2 ⟨entry, hentry, beq_iff_eq.2 hkey⟩
    simp [hcontains] at hmissing
  rw [update, hnone]
  exact ⟨_, rfl⟩

/-! ## What is found after writes -/

section Found

variable {key : RecordKey} {keys : List RecordKey} {updates : List DiscountRecord}

theorem get?_of_toList_append {record : DiscountRecord}
    (h : ledger'.toList = ledger.toList ++ [record]) :
    ledger'.get? key = if key = record.key then some record else ledger.get? key := by
  split
  · rename_i hkey
    exact get?_eq_some.2 ⟨h ▸ List.mem_append_right _ (List.mem_singleton_self record), hkey.symm⟩
  · rename_i hkey
    apply Option.ext
    intro other
    rw [get?_eq_some, get?_eq_some, h, List.mem_append, List.mem_singleton]
    constructor
    · rintro ⟨hmem | rfl, rfl⟩
      · exact ⟨hmem, rfl⟩
      · exact absurd rfl hkey
    · rintro ⟨hmem, rfl⟩
      exact ⟨.inl hmem, rfl⟩

theorem get?_of_toList_filter (h : ledger'.toList = ledger.toList.filter (!keys.contains ·.key)) :
    ledger'.get? key = if key ∈ keys then none else ledger.get? key := by
  apply Option.ext
  intro record
  rw [get?_eq_some, h, List.mem_filter]
  by_cases hkey : key ∈ keys
  · rw [if_pos hkey]
    simp only [reduceCtorEq, iff_false]
    rintro ⟨⟨-, hkept⟩, rfl⟩
    simp [hkey] at hkept
  · rw [if_neg hkey, get?_eq_some]
    constructor
    · rintro ⟨⟨hmem, -⟩, rfl⟩
      exact ⟨hmem, rfl⟩
    · rintro ⟨hmem, rfl⟩
      exact ⟨⟨hmem, by simpa using hkey⟩, rfl⟩

theorem get?_of_toList_map {f : DiscountRecord → DiscountRecord}
    (hf : ∀ record, (f record).key = record.key) (h : ledger'.toList = ledger.toList.map f) :
    ledger'.get? key = (ledger.get? key).map f := by
  apply Option.ext
  intro record
  rw [get?_eq_some, h, List.mem_map, Option.map_eq_some_iff]
  constructor
  · rintro ⟨⟨source, hmem, rfl⟩, hkey⟩
    exact ⟨source, get?_eq_some.2 ⟨hmem, (hf source).symm.trans hkey⟩, rfl⟩
  · rintro ⟨source, hsource, rfl⟩
    obtain ⟨hmem, hkey⟩ := get?_eq_some.1 hsource
    exact ⟨⟨source, hmem, rfl⟩, (hf source).trans hkey⟩

/-- Each record is found as it is after the updates. -/
theorem get?_update (h : ledger.update updates fields = .ok ledger') :
    ledger'.get? key = (ledger.get? key).map (·.updatedByAll fields updates) :=
  get?_of_toList_map (fun _ => DiscountRecord.key_updatedByAll) (toList_update h)

end Found

/-! ## Exactly these records -/

/-- The ledger has exactly these records, in whatever order. -/
def Holds (ledger : Ledger) (records : List DiscountRecord) : Prop :=
  ledger.toList.Perm records

/-- Records that are found under their keys are among those of the ledger. -/
theorem exists_holds (hnodup : (records.map (·.key)).Nodup)
    (hstored : ∀ record ∈ records, ledger.get? record.key = some record) :
    ∃ rest, ledger.Holds (records ++ rest) := by
  have hsubset : records ⊆ ledger.toList := fun record hrecord =>
    (get?_eq_some.1 (hstored record hrecord)).1
  obtain ⟨records', hperm, hsublist⟩ := List.subperm_of_subset hnodup.of_map hsubset
  obtain ⟨rest, hrest⟩ := hsublist.exists_perm_append
  exact ⟨rest, hrest.trans (hperm.append_right rest)⟩

namespace Holds

variable {keys : List RecordKey} {updates : List DiscountRecord}

theorem perm {records' : List DiscountRecord} (h : ledger.Holds records)
    (hperm : records.Perm records') : ledger.Holds records' :=
  List.Perm.trans h hperm

theorem nodup (h : ledger.Holds records) : (records.map (·.key)).Nodup :=
  (List.Perm.map (·.key) h).nodup_iff.1 ledger.nodup_keys

theorem get? (h : ledger.Holds records) (hrecord : record ∈ records) :
    ledger.get? record.key = some record :=
  get?_eq_some.2 ⟨h.mem_iff.2 hrecord, rfl⟩

theorem append (h : ledger.Holds records) (hlist : ledger'.toList = ledger.toList ++ rest) :
    ledger'.Holds (records ++ rest) := by
  rw [Holds, hlist]
  exact h.append_right rest

/-- What is removed under keys of some records is removed from these alone. -/
theorem filter (h : ledger.Holds (records ++ rest))
    (hkeys : ∀ key ∈ keys, key ∈ records.map (·.key))
    (hlist : ledger'.toList = ledger.toList.filter (!keys.contains ·.key)) :
    ledger'.Holds (records.filter (!keys.contains ·.key) ++ rest) := by
  rw [Holds, hlist, ← filter_keys_append h.nodup hkeys]
  exact List.Perm.filter _ h

/-- Updates of some records concern these alone. -/
theorem map (h : ledger.Holds (records ++ rest))
    (hkeys : ∀ update ∈ updates, update.key ∈ records.map (·.key))
    (hlist : ledger'.toList = ledger.toList.map (·.updatedByAll fields updates)) :
    ledger'.Holds (records.map (·.updatedByAll fields updates) ++ rest) := by
  rw [Holds, hlist, ← map_updatedByAll_append h.nodup hkeys]
  exact List.Perm.map _ h

end Holds

end Ledger

end Retail
