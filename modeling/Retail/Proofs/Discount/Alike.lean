import Retail.Proofs.Decimal
import Retail.Proofs.Discount.Record

/-!
# Discounts that say the same

A value may be written in several forms, and a record that agrees with its promotion keeps the form
that it has. So a record is known up to that form only: by the terms that it carries, and by the
amount that it took off.

## Main definitions

* `Discount.SameTerms`: discounts that agree in everything but the amount
* `Discount.Alike`: discounts that agree in everything
* `Discount.Carries`: a discount that agrees with what a promotion grants

## Main results

* `Discount.carries_sync`: a discount that was brought in line carries the terms
* `Discount.sync_of_carries`: one that carries them is left as it is
* `Discount.Carries.alike`: discounts that carry the same terms are alike
-/

namespace Retail

theorem DiscountField.mem_all (field : DiscountField) : field ∈ all := by
  cases field <;> decide

namespace Discount

variable {a b c d : Discount} {field : DiscountField} {terms : PromotionTerms}

/-! ## Agreement in a field -/

theorem SameAt.agreesOn (h : a.SameAt b field) : a.agreesOn b field := by
  cases field with
  | value =>
    have hvalue : a.value = b.value := h
    rw [Discount.agreesOn, hvalue]
    exact b.value.sameValue_refl
  | _ => exact beq_iff_eq.2 h

theorem agreesOn_refl (d : Discount) (field : DiscountField) : d.agreesOn d field :=
  (SameAt.refl d field).agreesOn

theorem agreesOn_symm (h : a.agreesOn b field) : b.agreesOn a field := by
  cases field with
  | value => exact Decimal.sameValue_symm h
  | _ => exact beq_iff_eq.2 (beq_iff_eq.1 h).symm

theorem agreesOn_trans (h : a.agreesOn b field) (h' : b.agreesOn c field) : a.agreesOn c field := by
  cases field with
  | value => exact Decimal.sameValue_trans h h'
  | _ => exact beq_iff_eq.2 ((beq_iff_eq.1 h).trans (beq_iff_eq.1 h'))

/-! ## Agreement in all fields -/

/-- The discounts agree in everything but what they took off. -/
structure SameTerms (a b : Discount) : Prop where
  origin : a.SameOrigin b
  agrees : ∀ field, field ≠ .amount → a.agreesOn b field

/-- The discounts agree in everything; values are compared as numbers. -/
structure Alike (a b : Discount) : Prop extends SameTerms a b where
  amount : a.amount = b.amount

theorem SameTerms.refl (d : Discount) : d.SameTerms d :=
  ⟨.refl d, fun field _ => agreesOn_refl d field⟩

theorem SameTerms.symm (h : a.SameTerms b) : b.SameTerms a :=
  ⟨h.origin.symm, fun field hfield => agreesOn_symm (h.agrees field hfield)⟩

theorem SameTerms.trans (h : a.SameTerms b) (h' : b.SameTerms c) : a.SameTerms c :=
  ⟨h.origin.trans h'.origin, fun field hfield =>
    agreesOn_trans (h.agrees field hfield) (h'.agrees field hfield)⟩

theorem sameTerms_amount (d : Discount) (amount : Money) : d.SameTerms { d with amount } := by
  refine ⟨⟨rfl, rfl, rfl, rfl⟩, fun field hfield => ?_⟩
  cases field with
  | amount => exact absurd rfl hfield
  | _ => exact SameAt.agreesOn rfl

theorem Alike.refl (d : Discount) : d.Alike d := ⟨.refl d, rfl⟩

theorem Alike.agreesOn (h : a.Alike b) (field : DiscountField) : a.agreesOn b field := by
  by_cases hfield : field = .amount
  · rw [hfield]
    exact beq_iff_eq.2 h.amount
  · exact h.agrees field hfield

theorem SameOrigin.alike (horigin : a.SameOrigin b) (h : ∀ field, a.agreesOn b field) :
    a.Alike b :=
  ⟨⟨horigin, fun field _ => h field⟩, beq_iff_eq.1 (h .amount)⟩

/-! ## Agreement with a promotion -/

/-- The discount agrees with what a promotion grants. -/
def Carries (d : Discount) (terms : PromotionTerms) : Prop :=
  ∀ field, d.agreesOn (ofTerms d.scope d.kind terms) field

theorem Carries.rule (h : d.Carries terms) : d.rule = some terms.rule := beq_iff_eq.1 (h .rule)

theorem Carries.amount (h : d.Carries terms) : d.amount = terms.amount := beq_iff_eq.1 (h .amount)

theorem carries_ofTerms (scope : DiscountScope) (kind : DiscountKind) (terms : PromotionTerms) :
    (ofTerms scope kind terms).Carries terms :=
  agreesOn_refl _

theorem mem_outdatedFields :
    field ∈ d.outdatedFields terms ↔ ¬d.agreesOn (ofTerms d.scope d.kind terms) field := by
  simp [outdatedFields, field.mem_all]

theorem outdatedFields_eq_nil_iff : d.outdatedFields terms = [] ↔ d.Carries terms := by
  rw [List.eq_nil_iff_forall_not_mem]
  simp only [mem_outdatedFields, not_not, Carries]

/-- What is outdated is taken over, and what is not agrees already. -/
theorem carries_sync (d : Discount) (terms : PromotionTerms) : (d.sync terms).Carries terms := by
  intro field
  have horigin := sameOrigin_sync d terms
  rw [horigin.scope, horigin.kind]
  by_cases houtdated : field ∈ d.outdatedFields terms
  · have hfield := @sameAt_foldl_copyField d (ofTerms d.scope d.kind terms) field
      (d.outdatedFields terms)
    rw [if_pos houtdated] at hfield
    exact hfield.agreesOn
  · have hagrees : d.agreesOn (ofTerms d.scope d.kind terms) field := by
      rwa [mem_outdatedFields, not_not] at houtdated
    exact agreesOn_trans (sameAt_sync houtdated).agreesOn hagrees

theorem sync_of_carries (h : d.Carries terms) : d.sync terms = d := by
  rw [sync, outdatedFields_eq_nil_iff.2 h, List.foldl_nil]

theorem Carries.alike (h : a.Carries terms) (h' : b.Carries terms) (horigin : a.SameOrigin b) :
    a.Alike b := by
  refine horigin.alike fun field => ?_
  have hb := agreesOn_symm (h' field)
  rw [← horigin.scope, ← horigin.kind] at hb
  exact agreesOn_trans (h field) hb

/-- A copy that is alike stays so where the fields that are outdated are taken over from the
discount that was brought in line, with any others. -/
theorem Alike.copyFields_sync {fields : UpdatedFields} (h : a.Alike d)
    (hfields : ∀ field ∈ d.outdatedFields terms, field ∈ fields.toList) :
    ((d.sync terms).copyFields fields a).Alike (d.sync terms) := by
  have horigin := h.origin.trans (sameOrigin_sync d terms).symm
  refine ((sameOrigin_copyFields _ _ _).trans horigin).alike fun field => ?_
  have hcopied := @sameAt_foldl_copyField a (d.sync terms) field fields.toList
  by_cases hfield : field ∈ fields.toList
  · rw [if_pos hfield] at hcopied
    exact hcopied.agreesOn
  · -- No promotion changed the field, so both copies have what they had.
    rw [if_neg hfield] at hcopied
    have hkept := (sameAt_sync (mt (hfields field) hfield)).symm
    exact agreesOn_trans hcopied.agreesOn (agreesOn_trans (h.agreesOn field) hkept.agreesOn)

end Discount

end Retail
