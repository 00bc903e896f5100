import Retail.Discount.Record

/-!
# Fields taken over

A discount is known by the fields that a promotion decides and by the others, which no promotion
changes. Taking fields over from another discount is thus known field by field, in whatever order
and how often the fields are taken over.

## Main definitions

* `Discount.SameAt`, `Discount.SameOrigin`: agreement in a field, and in what no promotion decides

## Main results

* `Discount.sameAt_foldl_copyField`: the fields after some were taken over
* `Discount.copyFields_sync`: taking over what is outdated brings a discount in line
-/

namespace Retail

theorem UpdatedFields.mem_insert {fields : UpdatedFields} {field other : DiscountField} :
    other ∈ (fields.insert field).toList ↔ other ∈ fields.toList ∨ other = field := by
  unfold insert
  split
  · rename_i hmem
    refine ⟨.inl, ?_⟩
    rintro (h | rfl)
    · exact h
    · exact hmem
  · simp

theorem UpdatedFields.mem_insertAll {fields : UpdatedFields} {more : List DiscountField}
    {field : DiscountField} :
    field ∈ (fields.insertAll more).toList ↔ field ∈ fields.toList ∨ field ∈ more := by
  induction more generalizing fields with
  | nil => simp [insertAll]
  | cons first rest ih =>
    rw [insertAll, List.foldl_cons, ← insertAll, ih, mem_insert, List.mem_cons, or_assoc]

theorem UpdatedFields.mem_ofList {fields : List DiscountField} {field : DiscountField} :
    field ∈ (UpdatedFields.ofList fields).toList ↔ field ∈ fields := by
  simp [ofList, mem_insertAll, empty]

namespace Discount

variable {a b c d source : Discount} {field : DiscountField} {fields : List DiscountField}

/-- The discounts have the same content in a field. -/
def SameAt (a b : Discount) : DiscountField → Prop
  | .rule => a.rule = b.rule
  | .valueType => a.valueType = b.valueType
  | .value => a.value = b.value
  | .amount => a.amount = b.amount
  | .name => a.name = b.name
  | .localizedName => a.localizedName = b.localizedName
  | .reason => a.reason = b.reason

/-- The discounts agree in what no promotion decides. -/
structure SameOrigin (a b : Discount) : Prop where
  scope : a.scope = b.scope
  kind : a.kind = b.kind
  voucher : a.voucher = b.voucher
  voucherCode : a.voucherCode = b.voucherCode

theorem SameAt.refl (a : Discount) (field : DiscountField) : a.SameAt a field := by
  cases field <;> rfl

theorem SameAt.trans (h : a.SameAt b field) (h' : b.SameAt c field) : a.SameAt c field := by
  cases field <;> exact Eq.trans h h'

theorem SameAt.symm (h : a.SameAt b field) : b.SameAt a field := by
  cases field <;> exact Eq.symm h

theorem SameOrigin.refl (a : Discount) : a.SameOrigin a := ⟨rfl, rfl, rfl, rfl⟩

theorem SameOrigin.trans (h : a.SameOrigin b) (h' : b.SameOrigin c) : a.SameOrigin c :=
  ⟨h.scope.trans h'.scope, h.kind.trans h'.kind, h.voucher.trans h'.voucher,
    h.voucherCode.trans h'.voucherCode⟩

theorem SameOrigin.symm (h : a.SameOrigin b) : b.SameOrigin a :=
  ⟨h.scope.symm, h.kind.symm, h.voucher.symm, h.voucherCode.symm⟩

/-- A discount is known by its origin and its fields. -/
theorem SameOrigin.eq (horigin : a.SameOrigin b) (h : ∀ field, a.SameAt b field) : a = b := by
  obtain ⟨hscope, hkind, hvoucher, hcode⟩ := horigin
  have hrule : a.rule = b.rule := h .rule
  have hvalueType : a.valueType = b.valueType := h .valueType
  have hvalue : a.value = b.value := h .value
  have hamount : a.amount = b.amount := h .amount
  have hname : a.name = b.name := h .name
  have hlocalized : a.localizedName = b.localizedName := h .localizedName
  have hreason : a.reason = b.reason := h .reason
  cases a
  cases b
  simp_all

/-! ## Fields taken over -/

theorem sameOrigin_copyField (source d : Discount) (field : DiscountField) :
    (source.copyField d field).SameOrigin d := by
  cases field <;> exact ⟨rfl, rfl, rfl, rfl⟩

theorem sameAt_copyField (source d : Discount) (field other : DiscountField) :
    (source.copyField d field).SameAt (if other = field then source else d) other := by
  cases field <;> cases other <;> rfl

theorem sameOrigin_foldl_copyField : (fields.foldl source.copyField d).SameOrigin d := by
  induction fields generalizing d with
  | nil => exact .refl d
  | cons first rest ih => exact ih.trans (sameOrigin_copyField source d first)

/-- The fields that are taken over are those of the source, and the others stay. -/
theorem sameAt_foldl_copyField :
    (fields.foldl source.copyField d).SameAt (if field ∈ fields then source else d) field := by
  induction fields generalizing d with
  | nil => exact .refl d field
  | cons first rest ih =>
    refine ih.trans ?_
    by_cases hrest : field ∈ rest
    · simpa [hrest] using SameAt.refl source field
    · simpa [hrest] using sameAt_copyField source d first field

theorem sameOrigin_copyFields (source : Discount) (fields : UpdatedFields) (d : Discount) :
    (source.copyFields fields d).SameOrigin d :=
  sameOrigin_foldl_copyField

theorem sameOrigin_sync (d : Discount) (terms : PromotionTerms) : (d.sync terms).SameOrigin d :=
  sameOrigin_foldl_copyField

theorem copyFields_of_isEmpty {fields : UpdatedFields} (h : fields.isEmpty) (source d : Discount) :
    source.copyFields fields d = d := by
  rw [copyFields, List.isEmpty_iff.1 h, List.foldl_nil]

theorem copyFields_amount (source d : Discount) :
    source.copyFields (.ofList [.amount]) d = { d with amount := source.amount } := rfl

/-- A field that is not outdated stays as it is. -/
theorem sameAt_sync {terms : PromotionTerms} (h : field ∉ d.outdatedFields terms) :
    (d.sync terms).SameAt d field := by
  have hkept := @sameAt_foldl_copyField d (ofTerms d.scope d.kind terms) field
    (d.outdatedFields terms)
  rwa [if_neg h] at hkept

/-- To bring a discount in line it is enough to take over the fields that are outdated; the fields
that agree may be taken over as well. -/
theorem copyFields_sync {terms : PromotionTerms} {fields : UpdatedFields}
    (h : ∀ field ∈ d.outdatedFields terms, field ∈ fields.toList) :
    (d.sync terms).copyFields fields d = d.sync terms := by
  -- Both sides have the origin of `d`, so they are compared field by field.
  refine ((sameOrigin_copyFields _ _ _).trans (sameOrigin_sync d terms).symm).eq fun field => ?_
  refine SameAt.trans sameAt_foldl_copyField ?_
  by_cases hfield : field ∈ fields.toList
  · rw [if_pos hfield]
    exact .refl _ _
  · rw [if_neg hfield]
    exact (sameAt_sync (mt (h field) hfield)).symm

end Discount

end Retail
