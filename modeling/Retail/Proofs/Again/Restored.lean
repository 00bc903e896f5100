import Retail.Proofs.Basket

/-!
# Order promotions that note another amount

When an order is priced, its order promotion notes what it takes off after the discounts before it,
which need not be what it gives on the base subtotal. The next time that amount is restored, and the
ledger is written for it.

## Main definitions

* `Ledger.noting`: a ledger with more notes of writes
* `LedgerWrite.amountUpdate`: the note of one amount that was written

## Main results

* `Basket.keepOrderPromotion_eq_ok_of_one`: an order promotion that has one record already
* `Ledger.update_update_amount`: an amount that is overwritten and written again
-/

namespace Retail

/-! ## One record -/

section Kept

variable {basket basket' : Basket} {ledger ledger' : Ledger} {record other : DiscountRecord}
  {terms : PromotionTerms}

/-- The only record of the order promotion is brought in line where it is. -/
theorem Basket.keepOrderPromotion_eq_ok_of_one (hnodup : (basket.discounts.map (·.key)).Nodup)
    (hlast : PromotionsLast basket.discounts) (hops : basket.orderPromotions = [record]) :
    (keepOrderPromotion terms).runOn (basket, ledger) = (.ok (), (basket', ledger')) ↔
      basket' = { basket with
        discounts := basket.otherDiscounts ++ [record.sync terms]
        discount := ⟨terms.amount, terms.name, terms.localizedName⟩ } ∧
      ledger.Follows record terms ledger' := by
  have hdiscounts : basket.discounts = basket.otherDiscounts ++ [record] := hops ▸ hlast.eq
  have hmem : record ∈ basket.discounts :=
    hdiscounts ▸ List.mem_append_right _ (List.mem_singleton_self record)
  have hnew : basket.discounts.map
      (·.updatedBy (.ofList (record.outdatedFields terms)) (record.sync terms)) =
        basket.otherDiscounts ++ [record.sync terms] := by
    rw [hdiscounts, List.map_append, List.map_singleton,
      DiscountRecord.updatedBy_sync fun _ => UpdatedFields.mem_ofList.2]
    congr 1
    refine (List.map_congr_left fun other hother => ?_).trans (List.map_id _)
    refine DiscountRecord.updatedBy_of_ne fun hkey => ?_
    rw [hdiscounts, List.map_append, List.nodup_append'] at hnodup
    exact hnodup.2.2 (List.mem_map_of_mem hother) (hkey ▸ List.mem_singleton_self _)
  simp only [keepOrderPromotion_eq_ok_of_cons hops, List.map_nil, without_nil, Ledger.without_nil,
    updateOrderPromotion_eq_ok hnodup]
  constructor
  · rintro ⟨_, ⟨found, ⟨hfound, hkey⟩, rfl, hfollows⟩, rfl⟩
    obtain rfl := List.inj_on_of_nodup_map hnodup hfound hmem hkey
    rw [hnew]
    exact ⟨rfl, hfollows⟩
  · rintro ⟨rfl, hfollows⟩
    exact ⟨_, ⟨record, ⟨hmem, rfl⟩, by rw [hnew], hfollows⟩, rfl⟩

/-! ## Another amount -/

/-- A record that carries the terms but for the amount is outdated in the amount only. -/
theorem DiscountRecord.outdatedFields_of_sameButAmount (hcarries : record.Carries terms)
    (hsame : record.SameButAmount other) (hamount : other.amount ≠ record.amount) :
    other.outdatedFields terms = [.amount] ∧ other.sync terms = record := by
  obtain ⟨amount, rfl⟩ : ∃ amount, other = { record with amount } := ⟨_, hsame⟩
  have hterms : (amount == terms.amount) = false := by
    rw [← hcarries.amount]
    exact beq_false_of_ne hamount
  have houtdated : Discount.outdatedFields { record.toDiscount with amount } terms = [.amount] := by
    have hagrees : ∀ field, field ≠ .amount → Discount.agreesOn { record.toDiscount with amount }
        (.ofTerms record.scope record.kind terms) field = true := by
      intro field hfield
      cases field with
      | amount => exact absurd rfl hfield
      | rule => exact hcarries .rule
      | valueType => exact hcarries .valueType
      | value => exact hcarries .value
      | name => exact hcarries .name
      | localizedName => exact hcarries .localizedName
      | reason => exact hcarries .reason
    have hdiffers : Discount.agreesOn { record.toDiscount with amount }
        (.ofTerms record.scope record.kind terms) .amount = false := hterms
    simp [Discount.outdatedFields, DiscountField.all, hagrees, hdiffers]
  refine ⟨houtdated, ?_⟩
  rw [DiscountRecord.sync, Discount.sync]
  simp only [houtdated, List.foldl_cons, List.foldl_nil, Discount.copyField, Discount.ofTerms,
    ← hcarries.amount]
  rfl

end Kept

/-! ## Writes that come to nothing -/

/-- The amount of one record was updated. -/
def LedgerWrite.amountUpdate : LedgerWrite := .updated 1 (.ofList [.amount])

namespace Ledger

variable {ledger ledger' : Ledger} {record other : DiscountRecord} {fields : UpdatedFields}

/-- The ledger with more notes of writes. -/
def noting (writes : List LedgerWrite) (ledger : Ledger) : Ledger :=
  { ledger with writes := ledger.writes ++ writes }

@[simp] theorem noting_nil (ledger : Ledger) : ledger.noting [] = ledger := by
  simp [noting]

@[simp] theorem noting_noting (writes more : List LedgerWrite) (ledger : Ledger) :
    (ledger.noting writes).noting more = ledger.noting (writes ++ more) := by
  simp [noting]

/-- One record is updated if the ledger has it. -/
theorem update_singleton (h : (ledger.get? record.key).isSome) :
    ledger.update [record] fields =
      .ok { records := ledger.records.modify record.key (record.toDiscount.copyFields fields)
            writes := ledger.writes ++ [.updated 1 fields] } := by
  have hcontains : ledger.records.contains record.key = true := by
    rw [Registry.contains_eq_isSome]
    simpa [get?] using h
  simp [update, hcontains, copyFields, note]

/-- An amount that is overwritten and then written again is what it was. -/
theorem update_update_amount (hstored : ledger.get? other.key = some other)
    (hsame : record.SameButAmount other) :
    ∃ restored, ledger.update [record] (.ofList [.amount]) = .ok restored ∧
      restored.update [other] (.ofList [.amount]) =
        .ok (ledger.noting [.amountUpdate, .amountUpdate]) := by
  have hkey : other.key = record.key := by rw [hsame]
  obtain ⟨entity, hentity, hother⟩ := Option.map_eq_some_iff.1 hstored
  rw [hkey] at hentity
  have hrecord : (ledger.get? record.key).isSome := by simp [get?, hentity]
  have hrestored : (ledger.records.modify record.key
      (record.toDiscount.copyFields (.ofList [.amount]))).get? record.key =
        some (record.toDiscount.copyFields (.ofList [.amount]) entity) := by
    rw [Registry.get?_modify, if_pos rfl, hentity, Option.map_some]
  refine ⟨_, update_singleton hrecord, ?_⟩
  rw [update_singleton (by simp [get?, hkey, hrestored])]
  simp only [hkey, Registry.modify_modify, noting, LedgerWrite.amountUpdate, List.append_assoc,
    List.cons_append, List.nil_append, Except.ok.injEq, Ledger.mk.injEq, and_true]
  -- The second amount is the one that the ledger had.
  refine Registry.modify_eq_self fun found hfound => ?_
  obtain rfl : entity = found := Option.some.inj (hentity.symm.trans hfound)
  obtain rfl : entity = other.toDiscount := congrArg (·.toDiscount) hother
  rfl

/-- Records whose amounts are overwritten and then written again are what they were. -/
theorem update_changed {ops ops' : List DiscountRecord} {restored : Ledger}
    (hsame : List.Forall₂ DiscountRecord.SameButAmount ops ops') (hone : ops.length ≤ 1)
    (hstored : ∀ record ∈ ops', ledger.get? record.key = some record)
    (hrestored : if ops' = ops then restored = ledger
      else ledger.update ops (.ofList [.amount]) = .ok restored) :
    if Order.changed ops ops' = [] then
      ledger.noting (if ops' = ops then [] else [.amountUpdate, .amountUpdate]) = restored
    else restored.update (Order.changed ops ops') (.ofList [.amount]) =
      .ok (ledger.noting (if ops' = ops then [] else [.amountUpdate, .amountUpdate])) := by
  rcases ops with _ | ⟨record, _ | ⟨_, _⟩⟩
  · rw [List.forall₂_nil_left_iff] at hsame
    subst hsame
    rw [if_pos rfl] at hrestored
    simp [Order.changed, hrestored]
  · obtain ⟨other, _, hamounts, hnil, rfl⟩ := List.forall₂_cons_left_iff.1 hsame
    obtain rfl : _ = [] := by simpa using hnil
    rw [List.forall_mem_singleton] at hstored
    by_cases hamount : record.amount = other.amount
    · obtain rfl : other = record := by rw [hamounts, ← hamount]
      rw [if_pos rfl] at hrestored
      simp [Order.changed, hrestored]
    · have hne : [other] ≠ [record] := by
        rintro ⟨⟩
        exact hamount rfl
      obtain ⟨restored', hrestore, hupdate⟩ := update_update_amount hstored hamounts
      rw [if_neg hne] at hrestored ⊢
      obtain rfl : restored' = restored := Except.ok.inj (hrestore.symm.trans hrestored)
      have hchanged : Order.changed [record] [other] = [other] := by
        simp [Order.changed, hamount]
      rw [hchanged, if_neg (List.cons_ne_nil _ _)]
      exact hupdate
  · simp at hone

end Ledger

end Retail
