import Retail.Discount.Value
import Retail.Key

/-!
# Records of discounts

A record says which discount was applied to a line or to a whole checkout or order. When the
promotion behind a record changes, the record is brought in line with it, and the fields that
changed are collected so that they can be written together.

## Main definitions

* `Discount`: what a record says
* `DiscountRecord`: a discount under the key of the ledger
* `DiscountField`, `UpdatedFields`: the fields that a promotion decides, and sets of them
* `PromotionTerms`: what a promotion grants
* `Discount.sync`: a discount brought in line with a promotion
* `Discount.copyFields`: some fields taken over from another discount
-/

namespace Retail

/-- What a discount was applied to. -/
inductive DiscountScope where
  | line (key : LineKey)
  | order
  deriving DecidableEq, Repr

/-- An applied discount: its value, the amount that it took off and where it comes from. -/
structure Discount where
  scope : DiscountScope
  kind : DiscountKind
  valueType : ValueType
  value : Decimal
  amount : Money
  name : Option String := none
  localizedName : Option String := none
  reason : Option String := none
  rule : Option RuleKey := none
  voucher : Option VoucherKey := none
  voucherCode : Option String := none
  deriving DecidableEq

/-- A discount under its key in the ledger. -/
structure DiscountRecord extends Discount where
  key : RecordKey
  deriving DecidableEq

/-- What a promotion grants: its rule, the value, the amount taken off and the texts shown. -/
structure PromotionTerms where
  rule : RuleKey
  value : DiscountValue
  amount : Money
  name : Option String
  localizedName : Option String
  reason : Option String

/-! ## Fields -/

/-- The fields of a discount that a promotion decides. -/
inductive DiscountField where
  | rule | valueType | value | amount | name | localizedName | reason
  deriving DecidableEq, Repr

/-- The name of a field in reports of a write. -/
def DiscountField.label : DiscountField → String
  | .rule => "promotion_rule"
  | .valueType => "value_type"
  | .value => "value"
  | .amount => "amount"
  | .name => "name"
  | .localizedName => "translated_name"
  | .reason => "reason"

/-- All fields that a promotion decides. -/
def DiscountField.all : List DiscountField :=
  [.rule, .valueType, .value, .amount, .name, .localizedName, .reason]

/-- A set of fields in the order in which they were inserted. -/
structure UpdatedFields where
  toList : List DiscountField
  nodup : toList.Nodup
  deriving DecidableEq

namespace UpdatedFields

/-- No field. -/
def empty : UpdatedFields := ⟨[], .nil⟩

/-- Whether a field is in the set. -/
def contains (fields : UpdatedFields) (field : DiscountField) : Bool := fields.toList.contains field

/-- Whether no field is in the set. -/
def isEmpty (fields : UpdatedFields) : Bool := fields.toList.isEmpty

/-- The number of fields in the set. -/
def size (fields : UpdatedFields) : Nat := fields.toList.length

/-- The set with the field at its end, or where it was. -/
def insert (fields : UpdatedFields) (field : DiscountField) : UpdatedFields :=
  if h : field ∈ fields.toList then fields
  else ⟨fields.toList ++ [field], by
    rw [List.nodup_append]
    refine ⟨fields.nodup, List.nodup_cons.2 ⟨List.not_mem_nil, .nil⟩, fun a ha b hb => ?_⟩
    rw [List.mem_singleton] at hb
    subst hb
    rintro rfl
    exact h ha⟩

/-- The set with more fields. -/
def insertAll (fields : UpdatedFields) (more : List DiscountField) : UpdatedFields :=
  more.foldl insert fields

/-- The set of the listed fields, each of them once. -/
def ofList (fields : List DiscountField) : UpdatedFields := empty.insertAll fields

end UpdatedFields

/-! ## Records and promotions -/

namespace Discount

/-- The number of the discount and how it is meant. -/
def discountValue (d : Discount) : DiscountValue := ⟨d.value, d.valueType⟩

/-- The discount as the record under a key. -/
def withKey (d : Discount) (key : RecordKey) : DiscountRecord := { d with key }

/-- The discount that a promotion grants. -/
def ofTerms (scope : DiscountScope) (kind : DiscountKind) (terms : PromotionTerms) : Discount where
  scope
  kind
  valueType := terms.value.valueType
  value := terms.value.value
  amount := terms.amount
  name := terms.name
  localizedName := terms.localizedName
  reason := terms.reason
  rule := some terms.rule

/-- Whether two discounts agree on a field. Values are compared as numbers. -/
def agreesOn (a b : Discount) : DiscountField → Bool
  | .rule => a.rule == b.rule
  | .valueType => a.valueType == b.valueType
  | .value => a.value.sameValue b.value
  | .amount => a.amount == b.amount
  | .name => a.name == b.name
  | .localizedName => a.localizedName == b.localizedName
  | .reason => a.reason == b.reason

/-- The discount with one field taken over from `source`. -/
def copyField (source d : Discount) : DiscountField → Discount
  | .rule => { d with rule := source.rule }
  | .valueType => { d with valueType := source.valueType }
  | .value => { d with value := source.value }
  | .amount => { d with amount := source.amount }
  | .name => { d with name := source.name }
  | .localizedName => { d with localizedName := source.localizedName }
  | .reason => { d with reason := source.reason }

/-- The discount with the fields of a set taken over from `source`. -/
def copyFields (source : Discount) (fields : UpdatedFields) (d : Discount) : Discount :=
  fields.toList.foldl (copyField source) d

/-- The fields in which the discount differs from what a promotion grants. -/
def outdatedFields (d : Discount) (terms : PromotionTerms) : List DiscountField :=
  DiscountField.all.filter fun field => !d.agreesOn (ofTerms d.scope d.kind terms) field

/-- The discount brought in line with a promotion; a field that agrees keeps its form. -/
def sync (d : Discount) (terms : PromotionTerms) : Discount :=
  (d.outdatedFields terms).foldl (copyField (ofTerms d.scope d.kind terms)) d

end Discount

/-- The record with its discount brought in line with a promotion. -/
def DiscountRecord.sync (record : DiscountRecord) (terms : PromotionTerms) : DiscountRecord :=
  (record.toDiscount.sync terms).withKey record.key

end Retail
