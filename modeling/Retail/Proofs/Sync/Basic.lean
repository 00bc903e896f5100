import Retail.Sync.Basic
import Retail.Proofs.Discount.Ledger
import Retail.Proofs.Line.Basic
import Retail.Proofs.Success

/-!
# Baskets that the ledger holds

The records of a basket hang on it and on its lines, and the ledger holds them besides the records
of everything else. Steps on a basket and the ledger keep both alike; what else the ledger holds is
a frame that they do not touch.

## Main definitions

* `Basket.records`: the records of a basket and its lines
* `Basket.Placed`: records that say where they hang
* `Basket.HeldIn`: a basket with its records in the ledger, besides others

## Main results

* `Basket.HeldIn.sameRecords`: a change of anything but the records
* `Basket.HeldIn.updateDiscounts`: an update of the records of the order
-/

namespace Retail

/-! ## Steps -/

namespace SyncStep

variable {α : Type} {basket : Basket} {ledger : Ledger} {end' : Basket × Ledger} {a : α} {u : Unit}

@[simp] theorem runOn_basket_bind (next : Basket → SyncStep α) :
    (SyncStep.basket >>= next).runOn (basket, ledger) = (next basket).runOn (basket, ledger) :=
  Step.runOn_bind _ _ _

@[simp] theorem runOn_changeBasket (f : Basket → Basket) :
    (changeBasket f).runOn (basket, ledger) = (.ok (), (f basket, ledger)) := rfl

@[simp] theorem runOn_changeBasket_bind (f : Basket → Basket) (next : Unit → SyncStep α) :
    (changeBasket f >>= next).runOn (basket, ledger) = (next ()).runOn (f basket, ledger) :=
  Step.runOn_bind _ _ _

@[simp] theorem runOn_create_bind (discounts : List Discount)
    (next : List DiscountRecord → SyncStep α) :
    (create discounts >>= next).runOn (basket, ledger) =
      (next (ledger.create discounts).2).runOn (basket, (ledger.create discounts).1) :=
  Step.runOn_bind _ _ _

@[simp] theorem runOn_delete (keys : List RecordKey) :
    (delete keys).runOn (basket, ledger) =
      (.ok (ledger.delete keys).2, (basket, (ledger.delete keys).1)) := rfl

@[simp] theorem runOn_discard_delete_bind (keys : List RecordKey) (next : Unit → SyncStep α) :
    (discard (delete keys) >>= next).runOn (basket, ledger) =
      (next ()).runOn (basket, (ledger.delete keys).1) :=
  Step.runOn_bind _ _ _

theorem runOn_update_bind_eq_ok {records : List DiscountRecord} {fields : UpdatedFields}
    {next : Unit → SyncStep α} :
    (update records fields >>= next).runOn (basket, ledger) = (.ok a, end') ↔
      ∃ ledger', ledger.update records fields = .ok ledger' ∧
        (next ()).runOn (basket, ledger') = (.ok a, end') := by
  cases h : ledger.update records fields with
  | error e => simp [update, Step.runOn_bind, h, Except.mapError]
  | ok ledger' => simp [update, Step.runOn_bind, h, Except.mapError]

theorem runOn_update_eq_ok {records : List DiscountRecord} {fields : UpdatedFields} :
    (update records fields).runOn (basket, ledger) = (.ok u, end') ↔
      ∃ ledger', ledger.update records fields = .ok ledger' ∧ end' = (basket, ledger') := by
  cases h : ledger.update records fields with
  | error e => simp [update, Step.runOn_bind, h, Except.mapError]
  | ok ledger' => simp [update, Step.runOn_bind, h, Except.mapError, eq_comm]

end SyncStep

/-! ## The first record of a kind -/

section ChangeFirst

variable {α : Type} {p : α → Bool} {f : α → α} {xs : List α} {x : α}

theorem changeFirst?_of_find?_eq_none (h : xs.find? p = none) : changeFirst? p f xs = none := by
  induction xs with
  | nil => rfl
  | cons first rest ih =>
    rw [List.find?_cons] at h
    cases hp : p first with
    | true => simp [hp] at h
    | false => simp [changeFirst?, hp, ih (by simpa [hp] using h)]

theorem changeFirst?_of_find?_eq_some (h : xs.find? p = some x) :
    ∃ before after, xs = before ++ x :: after ∧
      changeFirst? p f xs = some (f x, before ++ f x :: after) := by
  induction xs with
  | nil => contradiction
  | cons first rest ih =>
    rw [List.find?_cons] at h
    cases hp : p first with
    | true =>
      obtain rfl : first = x := by simpa [hp] using h
      exact ⟨[], rest, rfl, by simp [changeFirst?, hp]⟩
    | false =>
      obtain ⟨before, after, rfl, hchange⟩ := ih (by simpa [hp] using h)
      exact ⟨first :: before, after, rfl, by simp [changeFirst?, hp, hchange]⟩

end ChangeFirst

/-- Bringing the first record of a kind in line with a promotion is an update of the records. -/
theorem changeFirst?_sync {records : List DiscountRecord} {record : DiscountRecord}
    {p : DiscountRecord → Bool} {terms : PromotionTerms} {fields : UpdatedFields}
    (hnodup : (records.map (·.key)).Nodup) (hfind : records.find? p = some record)
    (hfields : ∀ field ∈ record.outdatedFields terms, field ∈ fields.toList) :
    changeFirst? p (·.sync terms) records =
      some (record.sync terms, records.map (·.updatedBy fields (record.sync terms))) := by
  obtain ⟨before, after, rfl, hchange⟩ := changeFirst?_of_find?_eq_some (f := (·.sync terms)) hfind
  rw [hchange]
  rw [List.map_append, List.map_cons, List.nodup_middle, List.nodup_cons, List.mem_append,
    not_or] at hnodup
  obtain ⟨⟨hbefore, hafter⟩, -⟩ := hnodup
  have hother : ∀ others : List DiscountRecord, record.key ∉ others.map (·.key) →
      others.map (·.updatedBy fields (record.sync terms)) = others := by
    intro others hnot
    refine (List.map_congr_left fun other hmem => ?_).trans (List.map_id others)
    exact DiscountRecord.updatedBy_of_ne fun hkey => hnot (List.mem_map.2 ⟨other, hmem, hkey⟩)
  rw [List.map_append, List.map_cons, hother before hbefore, hother after hafter,
    DiscountRecord.updatedBy_sync hfields]

/-! ## Records of baskets -/

/-- The records of the basket and of its lines. -/
def Basket.records (basket : Basket) : List DiscountRecord :=
  basket.discounts ++ basket.lines.flatMap (·.discounts)

/-- The records of the line say that they hang on it. -/
def Line.Placed (line : Line) : Prop := ∀ record ∈ line.discounts, record.scope = .line line.key

theorem Line.SameRecords.flatMap_discounts {lines lines' : List Line}
    (h : List.Forall₂ Line.SameRecords lines lines') :
    lines'.flatMap (·.discounts) = lines.flatMap (·.discounts) := by
  induction h with
  | nil => rfl
  | cons hline _ ih => rw [List.flatMap_cons, List.flatMap_cons, hline.discounts, ih]

theorem Line.SameRecords.placed {lines lines' : List Line}
    (h : List.Forall₂ Line.SameRecords lines lines') (hplaced : ∀ line ∈ lines, line.Placed) :
    ∀ line ∈ lines', line.Placed := by
  induction h with
  | nil => exact List.forall_mem_nil _
  | cons hsame _ ih =>
    rw [List.forall_mem_cons] at hplaced ⊢
    refine ⟨?_, ih hplaced.2⟩
    rw [Line.Placed, hsame.key, hsame.discounts]
    exact hplaced.1

namespace Basket

variable {basket basket' : Basket} {ledger ledger' : Ledger} {rest : List DiscountRecord}

/-- The records say where they hang. -/
structure Placed (basket : Basket) : Prop where
  order : ∀ record ∈ basket.discounts, record.scope = .order
  line : ∀ line ∈ basket.lines, line.Placed

/-- The ledger holds the records of the basket besides some others. -/
structure HeldIn (basket : Basket) (ledger : Ledger) (rest : List DiscountRecord) : Prop where
  placed : basket.Placed
  holds : ledger.Holds (basket.records ++ rest)

/-- The basket and its lines kept their records. -/
structure SameRecords (basket basket' : Basket) : Prop where
  discounts : basket'.discounts = basket.discounts
  lines : List.Forall₂ Line.SameRecords basket.lines basket'.lines

theorem SameRecords.of_lines_eq (hdiscounts : basket'.discounts = basket.discounts)
    (hlines : basket'.lines = basket.lines) : basket.SameRecords basket' :=
  ⟨hdiscounts, hlines ▸ List.forall₂_same.2 fun _ _ => ⟨rfl, rfl⟩⟩

theorem SameRecords.records_eq (h : basket.SameRecords basket') :
    basket'.records = basket.records := by
  rw [records, records, h.discounts, Line.SameRecords.flatMap_discounts h.lines]

theorem SameRecords.placed (h : basket.SameRecords basket') (hplaced : basket.Placed) :
    basket'.Placed :=
  ⟨h.discounts ▸ hplaced.order, Line.SameRecords.placed h.lines hplaced.line⟩

/-- A change of anything but the records. -/
theorem HeldIn.sameRecords (h : basket.HeldIn ledger rest) (hsame : basket.SameRecords basket') :
    basket'.HeldIn ledger rest :=
  ⟨hsame.placed h.placed, hsame.records_eq ▸ h.holds⟩

theorem HeldIn.nodup_discounts (h : basket.HeldIn ledger rest) :
    (basket.discounts.map (·.key)).Nodup := by
  have hnodup := h.holds.nodup
  rw [records, List.append_assoc, List.map_append] at hnodup
  exact hnodup.of_append_left

theorem HeldIn.nodup_lines (h : basket.HeldIn ledger rest) :
    ((basket.lines.flatMap (·.discounts)).map (·.key)).Nodup := by
  have hnodup := h.holds.nodup
  rw [records, List.append_assoc, List.map_append, List.map_append, List.nodup_append',
    List.nodup_append'] at hnodup
  exact hnodup.2.1.1

theorem HeldIn.mem_toList_of_mem_discounts (h : basket.HeldIn ledger rest) {record : DiscountRecord}
    (hrecord : record ∈ basket.discounts) : record ∈ ledger.toList := by
  rw [h.holds.mem_iff]
  exact List.mem_append_left _ (List.mem_append_left _ hrecord)

theorem HeldIn.mem_toList_of_mem_lines (h : basket.HeldIn ledger rest) {line : Line}
    {record : DiscountRecord} (hline : line ∈ basket.lines) (hrecord : record ∈ line.discounts) :
    record ∈ ledger.toList := by
  rw [h.holds.mem_iff]
  exact List.mem_append_left _ (List.mem_append_right _ (List.mem_flatMap.2 ⟨line, hline, hrecord⟩))

/-- The records of the order in particular may be updated. -/
theorem HeldIn.updateDiscounts {fields : UpdatedFields} {updates : List DiscountRecord}
    (h : basket.HeldIn ledger rest)
    (hkeys : ∀ update ∈ updates, update.key ∈ basket.discounts.map (·.key))
    (hlist : ledger'.toList = ledger.toList.map (·.updatedByAll fields updates)) :
    HeldIn { basket with discounts := basket.discounts.map (·.updatedByAll fields updates) }
      ledger' rest := by
  have hholds := h.holds
  rw [records, List.append_assoc] at hholds
  refine ⟨⟨?_, h.placed.line⟩, ?_⟩
  · rw [List.forall_mem_map]
    intro record hrecord
    rw [DiscountRecord.sameOrigin_updatedByAll.scope]
    exact h.placed.order record hrecord
  · rw [records, List.append_assoc]
    exact hholds.map hkeys hlist

end Basket

end Retail
