import Retail.Discount.Record

/-!
# The ledger of discounts

The ledger keeps every applied discount under its key. It is written in bulk only, and notes each
write.

## Main definitions

* `Ledger`: the records and the notes of the writes
* `Ledger.create`, `Ledger.update`, `Ledger.delete`: the bulk writes
* `LedgerError`: why an update fails
-/

namespace Retail

/-- A note of a bulk write. -/
inductive LedgerWrite where
  | created (count : Nat)
  | updated (count : Nat) (fields : UpdatedFields)
  | deleted (count : Nat)
  deriving DecidableEq

/-- Why an update fails: a record is not in the ledger. -/
inductive LedgerError where
  | recordNotFound (key : RecordKey)
  deriving DecidableEq, Repr

/-- All applied discounts under their keys, and a note of each write in the order of the writes. -/
structure Ledger where
  records : Registry .record Discount
  writes : List LedgerWrite

namespace Ledger

/-- The ledger before the first write. -/
def empty : Ledger := ⟨.empty, []⟩

instance : Inhabited Ledger := ⟨empty⟩

/-- The record under a key. -/
def get? (ledger : Ledger) (key : RecordKey) : Option DiscountRecord :=
  (ledger.records.get? key).map (·.withKey key)

/-- All records in the order of their keys. -/
def toList (ledger : Ledger) : List DiscountRecord :=
  ledger.records.entries.map fun (key, discount) => discount.withKey key

/-- Notes a write behind those before it. -/
def note (ledger : Ledger) (write : LedgerWrite) : Ledger :=
  { ledger with writes := ledger.writes ++ [write] }

/-- Forgets which writes there were. -/
def clearWrites (ledger : Ledger) : Ledger := { ledger with writes := [] }

/-- Enters the discounts one by one; the answer is their records. -/
def enter (ledger : Ledger) : List Discount → Ledger × List DiscountRecord
  | [] => (ledger, [])
  | discount :: rest =>
    let record := discount.withKey ledger.records.nextKey
    let (ledger, records) := enter { ledger with records := ledger.records.push discount } rest
    (ledger, record :: records)

/-- Enters the discounts as one write. -/
def create (ledger : Ledger) (discounts : List Discount) : Ledger × List DiscountRecord :=
  let (ledger, records) := ledger.enter discounts
  (ledger.note (.created records.length), records)

/-- Takes over the fields of one record. -/
def copyFields (ledger : Ledger) (fields : UpdatedFields) (record : DiscountRecord) : Ledger :=
  { ledger with records := ledger.records.modify record.key (record.toDiscount.copyFields fields) }

/-- Takes over the given fields of the records as one write, if all of them are in the ledger. -/
def update (ledger : Ledger) (records : List DiscountRecord) (fields : UpdatedFields) :
    Except LedgerError Ledger :=
  match records.find? fun record => !ledger.records.contains record.key with
  | some missing => .error (.recordNotFound missing.key)
  | none => .ok ((records.foldl (·.copyFields fields) ledger).note (.updated records.length fields))

/-- Removes the records with these keys as one write; the answer is how many there were. -/
def delete (ledger : Ledger) (keys : List RecordKey) : Ledger × Nat :=
  let remaining := keys.foldl Registry.erase ledger.records
  let count := ledger.records.size - remaining.size
  ({ ledger with records := remaining }.note (.deleted count), count)

end Ledger

end Retail
