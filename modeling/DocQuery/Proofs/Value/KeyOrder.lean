import DocQuery.Value.Basic
import DocQuery.Proofs.FieldMap
import Mathlib.Data.List.Sort

/-!
# Values up to the order of keys

`Value.sortKeys` puts the keys of every object in a value into one order, so two values are the same
up to key order when it makes them equal. For that it is enough that two objects, whose keys stand
once, have the same keys with values that are the same in this sense (`sortKeys_object`).
`Reordered` is the same relation built up from the values themselves; what is done to both of two
reordered values is followed through it.
-/

namespace DocQuery

namespace FieldMap

variable {α : Type u}

/-! ## The same entries -/

/-- Maps with the same readings have the same entries. -/
theorem perm_of_get?_eq {m m' : FieldMap α} (hm : m.DistinctKeys) (hm' : m'.DistinctKeys)
    (h : ∀ key, m.get? key = m'.get? key) : m.Perm m' := by
  have hentries (n n' : FieldMap α) (hn : n.DistinctKeys) (hget : ∀ key, n.get? key = n'.get? key)
      (entry : String × α) (hmem : entry ∈ n) : entry ∈ n' :=
    mem_of_get? ((hget entry.1).symm.trans (get?_of_mem hn hmem))
  refine (List.perm_ext_iff_of_nodup (List.Nodup.of_map _ hm) (List.Nodup.of_map _ hm')).mpr ?_
  exact fun entry => ⟨hentries m m' hm h entry, hentries m' m hm' (fun key => (h key).symm) entry⟩

/-! ## Sorting by key -/

/-- The first entry may stand before the second. -/
def KeyLe (x y : String × α) : Prop := x.1 ≤ y.1

instance : DecidableRel (KeyLe (α := α)) := fun x y => inferInstanceAs (Decidable (x.1 ≤ y.1))

instance : Std.Total (KeyLe (α := α)) := ⟨fun x y => String.le_total x.1 y.1⟩

instance : IsTrans (String × α) KeyLe := ⟨fun _ _ _ => String.le_trans⟩

/-- The entries in the order of their keys. -/
def sortByKey (m : FieldMap α) : FieldMap α := m.insertionSort KeyLe

theorem sortByKey_eq_of_perm {m m' : FieldMap α} (hm : m.DistinctKeys) (h : m.Perm m') :
    m.sortByKey = m'.sortByKey := by
  have hperm : m.sortByKey.Perm m'.sortByKey :=
    (List.perm_insertionSort _ m).trans (h.trans (List.perm_insertionSort _ m').symm)
  refine List.Perm.eq_of_pairwise ?_ (List.pairwise_insertionSort _ m)
    (List.pairwise_insertionSort _ m') hperm
  intro x y hx hy hxy hyx
  have hxm : x ∈ m := (List.perm_insertionSort _ m).mem_iff.mp hx
  have hym : y ∈ m := h.mem_iff.mpr ((List.perm_insertionSort _ m').mem_iff.mp hy)
  have hkey : x.1 = y.1 := String.le_antisymm hxy hyx
  have hvalue : some x.2 = some y.2 := by
    rw [← get?_of_mem hm hxm, ← get?_of_mem hm hym, hkey]
  exact Prod.ext hkey (Option.some.inj hvalue)

end FieldMap

namespace Value

mutual

/-- The value with the keys of all its objects in order. -/
def sortKeys : Value → Value
  | .array items => .array (sortKeysOfItems items)
  | .object fields => .object (FieldMap.sortByKey (sortKeysOfFields fields))
  | v => v
termination_by structural v => v

/-- The items with their keys in order. -/
def sortKeysOfItems : List Value → List Value
  | [] => []
  | item :: rest => sortKeys item :: sortKeysOfItems rest
termination_by structural items => items

/-- The fields with the keys of their values in order. -/
def sortKeysOfFields : List (String × Value) → List (String × Value)
  | [] => []
  | (key, v) :: rest => (key, sortKeys v) :: sortKeysOfFields rest
termination_by structural fields => fields

end

theorem sortKeysOfItems_eq_map (items : List Value) :
    sortKeysOfItems items = items.map sortKeys := by
  induction items with
  | nil => rfl
  | cons item rest ih => rw [sortKeysOfItems, ih, List.map_cons]

theorem sortKeysOfFields_eq_mapValues (fields : Document) :
    sortKeysOfFields fields = fields.mapValues sortKeys := by
  induction fields with
  | nil => rfl
  | cons entry rest ih =>
      rw [sortKeysOfFields, ih]
      rfl

theorem sortKeys_array {items others : List Value} (h : items.map sortKeys = others.map sortKeys) :
    sortKeys (.array items) = sortKeys (.array others) := by
  rw [sortKeys, sortKeys, sortKeysOfItems_eq_map, sortKeysOfItems_eq_map, h]

/-- Objects with the same keys are the same up to key order as soon as their values are. -/
theorem sortKeys_object {fields others : Document} (hfields : fields.DistinctKeys)
    (hothers : others.DistinctKeys)
    (h : ∀ key, (fields.get? key).map sortKeys = (others.get? key).map sortKeys) :
    sortKeys (.object fields) = sortKeys (.object others) := by
  rw [sortKeys, sortKeys, sortKeysOfFields_eq_mapValues, sortKeysOfFields_eq_mapValues]
  have hperm := FieldMap.perm_of_get?_eq (hfields.mapValues sortKeys) (hothers.mapValues sortKeys)
    fun key => by rw [FieldMap.get?_mapValues, FieldMap.get?_mapValues, h key]
  rw [FieldMap.sortByKey_eq_of_perm (hfields.mapValues sortKeys) hperm]

/-! ## Reordered values -/

/-- The values are the same, or objects with the same keys, whatever their order, whose values are
so again. -/
inductive Reordered : Value → Value → Prop
  | refl (v : Value) : Reordered v v
  | object {fields others : Document} (hfields : fields.DistinctKeys)
      (hothers : others.DistinctKeys)
      (hkeys : ∀ key, fields.get? key = none ↔ others.get? key = none)
      (hvalues : ∀ key v w, fields.get? key = some v → others.get? key = some w → Reordered v w) :
      Reordered (.object fields) (.object others)

theorem Reordered.sortKeys_eq {v w : Value} (h : Reordered v w) : v.sortKeys = w.sortKeys := by
  induction h with
  | refl v => rfl
  | @object fields others hfields hothers hkeys _ ih =>
      refine sortKeys_object hfields hothers fun key => ?_
      cases hv : fields.get? key with
      | none => rw [(hkeys key).mp hv]
      | some v =>
          cases hw : others.get? key with
          | none => rw [(hkeys key).mpr hw] at hv; cases hv
          | some w => exact congrArg some (ih key v w hv hw)

/-- Objects are reordered when what they hold under every key is. -/
theorem Reordered.of_get? {fields others : Document} (hfields : fields.DistinctKeys)
    (hothers : others.DistinctKeys)
    (h : ∀ key, Option.Rel Reordered (fields.get? key) (others.get? key)) :
    Reordered (.object fields) (.object others) := by
  refine .object hfields hothers (fun key => ?_) fun key v w hv hw => ?_
  · have hheld := h key
    revert hheld
    cases fields.get? key <;> cases others.get? key <;> simp
  · have hheld := h key
    rw [hv, hw] at hheld
    cases hheld with
    | some hvw => exact hvw

theorem Reordered.get? {fields others : Document}
    (hkeys : ∀ key, fields.get? key = none ↔ others.get? key = none)
    (hvalues : ∀ key v w, fields.get? key = some v → others.get? key = some w → Reordered v w)
    (key : String) : Option.Rel Reordered (fields.get? key) (others.get? key) := by
  cases hv : fields.get? key with
  | none =>
      rw [(hkeys key).mp hv]
      exact .none
  | some v =>
      cases hw : others.get? key with
      | none => rw [(hkeys key).mpr hw] at hv; cases hv
      | some w => exact .some (hvalues key v w hv hw)

end Value

end DocQuery
