import Retail.Basket
import Retail.Discount.Ledger
import Retail.Promotion.Book

/-!
# Baskets and the ledger

The records of a basket are kept in step with the rules that apply to it, in the basket and in the
ledger alike.

## Main definitions

* `SyncError`: why records cannot be brought in step
* `SyncStep`: steps on a basket and the ledger
* `changeFirst?`: the first element of a kind changed
-/

namespace Retail

/-- Why records cannot be brought in step with rules. -/
inductive SyncError where
  | pricing (error : PricingError)
  | ledger (error : LedgerError)
  | promotion (error : PromotionError)
  deriving DecidableEq, Repr

/-- A step on a basket and the ledger. -/
abbrev SyncStep (α : Type) := Step (Basket × Ledger) SyncError α

namespace SyncStep

/-- The basket as it is. -/
def basket : SyncStep Basket := do
  return (← get).1

/-- Changes the basket only. -/
def changeBasket (f : Basket → Basket) : SyncStep Unit :=
  modify fun (basket, ledger) => (f basket, ledger)

/-- Enters discounts in the ledger; the answer is their records. -/
def create (discounts : List Discount) : SyncStep (List DiscountRecord) := do
  let (basket, ledger) ← get
  let (ledger, records) := ledger.create discounts
  set (basket, ledger)
  return records

/-- Writes some fields of records of the ledger, all at once or not at all. -/
def update (records : List DiscountRecord) (fields : UpdatedFields) : SyncStep Unit := do
  let (basket, ledger) ← get
  let ledger ← Step.answer ((ledger.update records fields).mapError .ledger)
  set (basket, ledger)

/-- Removes records from the ledger; the answer is how many there were. -/
def delete (keys : List RecordKey) : SyncStep Nat := do
  let (basket, ledger) ← get
  let (ledger, count) := ledger.delete keys
  set (basket, ledger)
  return count

end SyncStep

/-- The list with its first element that satisfies `p` changed, together with what became of it. -/
def changeFirst? {α : Type} (p : α → Bool) (f : α → α) : List α → Option (α × List α)
  | [] => none
  | x :: rest =>
    if p x then some (f x, f x :: rest)
    else (changeFirst? p f rest).map fun (changed, rest) => (changed, x :: rest)

end Retail
