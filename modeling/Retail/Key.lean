/-!
# Keys

Entities are referred to by keys, one type of key for each kind of entity. Keys are given out from 1
upwards in the order in which entities are entered and are never given out again; the key 0 belongs
to no entity.

## Main definitions

* `EntityKind`: the kinds of entities
* `Key`: the keys of a kind
* `Registry`: entities under their keys, in the order in which they were entered
* `Registry.get?_push` and its like: what is found after a change
-/

namespace Retail

/-- The kinds of entities that have keys. -/
inductive EntityKind where
  | channel | shippingMethod | category | collection | product | variant | line
  | promotion | rule | voucher | code | record
  deriving DecidableEq, Repr

/-- A key of an entity of one kind. -/
structure Key (kind : EntityKind) where
  index : Nat
  deriving DecidableEq, Repr

/-- The key of no entity. -/
def Key.null {kind : EntityKind} : Key kind := ⟨0⟩

/-- Keys of channels. -/
abbrev ChannelKey := Key .channel

/-- Keys of shipping methods. -/
abbrev ShippingMethodKey := Key .shippingMethod

/-- Keys of categories. -/
abbrev CategoryKey := Key .category

/-- Keys of collections. -/
abbrev CollectionKey := Key .collection

/-- Keys of products. -/
abbrev ProductKey := Key .product

/-- Keys of variants. -/
abbrev VariantKey := Key .variant

/-- Keys of lines. -/
abbrev LineKey := Key .line

/-- Keys of promotions. -/
abbrev PromotionKey := Key .promotion

/-- Keys of promotion rules. -/
abbrev RuleKey := Key .rule

/-- Keys of vouchers. -/
abbrev VoucherKey := Key .voucher

/-- Keys of voucher codes. -/
abbrev CodeKey := Key .code

/-- Keys of records of discounts. -/
abbrev RecordKey := Key .record

/-- Entities in the order of their keys, all of which were given out before the next one. -/
structure Registry (kind : EntityKind) (α : Type) where
  entries : List (Key kind × α)
  next : Nat
  next_pos : 0 < next
  ascending : entries.Pairwise fun a b => a.1.index < b.1.index
  bounded : ∀ entry ∈ entries, 0 < entry.1.index ∧ entry.1.index < next

namespace Registry

variable {kind : EntityKind} {α : Type}

/-- No entity has been entered, and the first one will have the key 1. -/
def empty : Registry kind α where
  entries := []
  next := 1
  next_pos := Nat.one_pos
  ascending := .nil
  bounded := nofun

instance : Inhabited (Registry kind α) := ⟨empty⟩

/-- The keys in ascending order. -/
def keys (r : Registry kind α) : List (Key kind) := r.entries.map Prod.fst

/-- The entities in the order of their keys. -/
def values (r : Registry kind α) : List α := r.entries.map Prod.snd

/-- The number of entities. -/
def size (r : Registry kind α) : Nat := r.entries.length

/-- The entity under a key. -/
def get? (r : Registry kind α) (key : Key kind) : Option α :=
  (r.entries.find? (·.1 == key)).map Prod.snd

/-- Whether there is an entity under a key. -/
def contains (r : Registry kind α) (key : Key kind) : Bool := r.entries.any (·.1 == key)

/-- The key that the next entity gets. -/
def nextKey (r : Registry kind α) : Key kind := ⟨r.next⟩

/-- Enters an entity under the next key. -/
def push (r : Registry kind α) (entity : α) : Registry kind α where
  entries := r.entries ++ [(r.nextKey, entity)]
  next := r.next + 1
  next_pos := Nat.succ_pos _
  ascending := by
    rw [List.pairwise_append]
    refine ⟨r.ascending, List.pairwise_singleton _ _, fun a ha b hb => ?_⟩
    rw [List.mem_singleton] at hb
    subst hb
    exact (r.bounded a ha).2
  bounded := by
    intro entry h
    rcases List.mem_append.1 h with h | h
    · exact ⟨(r.bounded entry h).1, Nat.lt_succ_of_lt (r.bounded entry h).2⟩
    · rw [List.mem_singleton] at h
      subst h
      exact ⟨r.next_pos, Nat.lt_succ_self _⟩

/-- Changes the entity under a key; nothing happens where there is none. -/
def modify (r : Registry kind α) (key : Key kind) (f : α → α) : Registry kind α where
  entries := r.entries.map fun entry => (entry.1, if entry.1 = key then f entry.2 else entry.2)
  next := r.next
  next_pos := r.next_pos
  ascending := List.pairwise_map.2 r.ascending
  bounded := by
    intro entry h
    obtain ⟨source, hs, rfl⟩ := List.mem_map.1 h
    exact r.bounded source hs

/-- Removes the entity under a key. -/
def erase (r : Registry kind α) (key : Key kind) : Registry kind α where
  entries := r.entries.filter (·.1 != key)
  next := r.next
  next_pos := r.next_pos
  ascending := r.ascending.filter _
  bounded := fun entry h => r.bounded entry (List.mem_filter.1 h).1

/-! ## What is found

A registry is known by what is found under each key. -/

/-- The next key has not been given out. -/
theorem get?_nextKey (r : Registry kind α) : r.get? r.nextKey = none := by
  simp only [get?, Option.map_eq_none_iff, List.find?_eq_none, beq_iff_eq]
  intro entry h hkey
  have hlt := (r.bounded entry h).2
  rw [hkey] at hlt
  exact Nat.lt_irrefl _ hlt

/-- Nothing has the key of no entity. -/
theorem get?_null (r : Registry kind α) : r.get? .null = none := by
  simp only [get?, Option.map_eq_none_iff, List.find?_eq_none, beq_iff_eq]
  intro entry h hkey
  have hpos := (r.bounded entry h).1
  rw [hkey] at hpos
  exact Nat.lt_irrefl _ hpos

theorem contains_eq_isSome (r : Registry kind α) (key : Key kind) :
    r.contains key = (r.get? key).isSome := by
  simp only [contains, get?, Option.isSome_map]
  induction r.entries with
  | nil => rfl
  | cons entry rest ih => cases h : entry.1 == key <;> simp [h, ih]

theorem get?_push (r : Registry kind α) (entity : α) (key : Key kind) :
    (r.push entity).get? key = if key = r.nextKey then some entity else r.get? key := by
  split
  · next h =>
    subst h
    have hnone := r.get?_nextKey
    simp only [get?, Option.map_eq_none_iff] at hnone
    simp [get?, push, List.find?_append, hnone]
  · next h =>
    simp [get?, push, List.find?_append, Ne.symm h]

theorem get?_modify (r : Registry kind α) (key other : Key kind) (f : α → α) :
    (r.modify key f).get? other = if other = key then (r.get? key).map f else r.get? other := by
  simp only [get?, modify]
  induction r.entries with
  | nil => simp
  | cons entry rest ih =>
    simp only [List.map_cons, List.find?_cons]
    grind

theorem get?_erase (r : Registry kind α) (key other : Key kind) :
    (r.erase key).get? other = if other = key then none else r.get? other := by
  simp only [get?, erase]
  induction r.entries with
  | nil => simp
  | cons entry rest ih => grind

end Registry

end Retail
