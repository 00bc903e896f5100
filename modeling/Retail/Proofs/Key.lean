import Mathlib.Data.List.Nodup
import Retail.Key

/-!
# Entities under their keys

Keys are given out once, so an entity is found under its key exactly when it was entered there.

## Main results

* `find?_key_eq_some`, `Registry.get?_eq_some`: what is found under a key
* `Registry.modify_modify`, `Registry.modify_eq_self`: changes that come to nothing
-/

namespace Retail

/-- Where keys are distinct, an element is found under its key, and nothing else is. -/
theorem find?_key_eq_some {α κ : Type} [BEq κ] [LawfulBEq κ] {key : α → κ} {elements : List α}
    {x : α} {k : κ} (hnodup : (elements.map key).Nodup) :
    elements.find? (key · == k) = some x ↔ x ∈ elements ∧ key x = k := by
  constructor
  · intro h
    exact ⟨List.mem_of_find?_eq_some h, by simpa using List.find?_some h⟩
  · rintro ⟨hmem, rfl⟩
    have hfound : (elements.find? (key · == key x)).isSome :=
      List.find?_isSome.2 ⟨x, hmem, beq_self_eq_true (key x)⟩
    obtain ⟨found, hfound⟩ := Option.isSome_iff_exists.1 hfound
    have hkey : key found = key x := by simpa using List.find?_some hfound
    rw [hfound, List.inj_on_of_nodup_map hnodup (List.mem_of_find?_eq_some hfound) hmem hkey]

namespace Registry

variable {kind : EntityKind} {α : Type} {r : Registry kind α} {key : Key kind} {entity : α}

theorem nodup_keys (r : Registry kind α) : r.keys.Nodup := by
  rw [keys, List.Nodup, List.pairwise_map]
  refine r.ascending.imp fun hlt heq => ?_
  rw [heq] at hlt
  exact Nat.lt_irrefl _ hlt

/-- An entity is found under its key, and nothing else is. -/
theorem get?_eq_some : r.get? key = some entity ↔ (key, entity) ∈ r.entries := by
  simp only [get?, Option.map_eq_some_iff, find?_key_eq_some r.nodup_keys]
  constructor
  · rintro ⟨⟨_, _⟩, ⟨hmem, rfl⟩, rfl⟩
    exact hmem
  · exact fun hmem => ⟨_, ⟨hmem, rfl⟩, rfl⟩

/-- What is there stays when something else is entered. -/
theorem get?_push_of_eq_some {new : α} (h : r.get? key = some entity) :
    (r.push new).get? key = some entity := by
  have hne : key ≠ r.nextKey := by
    rintro rfl
    rw [get?_nextKey] at h
    exact nomatch h
  rw [get?_push, if_neg hne, h]

/-! ## Changes that come to nothing -/

theorem ext {r' : Registry kind α} (hentries : r.entries = r'.entries) (hnext : r.next = r'.next) :
    r = r' := by
  cases r
  cases r'
  obtain rfl := hentries
  obtain rfl := hnext
  rfl

theorem modify_modify (f g : α → α) : (r.modify key f).modify key g = r.modify key (g ∘ f) := by
  refine ext ?_ rfl
  simp only [modify, List.map_map]
  refine List.map_congr_left fun entry _ => ?_
  by_cases hkey : entry.1 = key <;> simp [hkey]

/-- Changes that come to the same for the entity under the key. -/
theorem modify_congr {f g : α → α} (h : ∀ entity ∈ r.get? key, f entity = g entity) :
    r.modify key f = r.modify key g := by
  refine ext (List.map_congr_left fun entry hentry => ?_) rfl
  split
  · rename_i hkey
    have hfound : r.get? key = some entry.2 := get?_eq_some.2 (hkey ▸ hentry)
    rw [h entry.2 hfound]
  · rfl

/-- A change that leaves the entity under the key as it is. -/
theorem modify_eq_self {f : α → α} (h : ∀ entity ∈ r.get? key, f entity = entity) :
    r.modify key f = r := by
  refine ext ((List.map_congr_left fun entry hentry => ?_).trans (List.map_id _)) rfl
  split
  · rename_i hkey
    have hfound : r.get? key = some entry.2 := get?_eq_some.2 (hkey ▸ hentry)
    rw [h entry.2 hfound, id]
  · rfl

end Registry

end Retail
