/-!
# Field maps

A field map is a list of keys with values in which the order of the keys is part of the value.
Inserting a key that is there replaces its value and keeps its position; a new key goes to the end.
Maps built by `insert`, `merge` and `collect` hold every key once (`FieldMap.DistinctKeys`).
-/

namespace DocQuery

/-- Keys with values, in order. -/
abbrev FieldMap (α : Type u) := List (String × α)

namespace FieldMap

variable {α : Type u} {β : Type v}

/-- The keys, in order. -/
def keys (m : FieldMap α) : List String := m.map Prod.fst

/-- The values, in the order of their keys. -/
def values (m : FieldMap α) : List α := m.map Prod.snd

/-- No key occurs twice. -/
def DistinctKeys (m : FieldMap α) : Prop := m.keys.Nodup

instance (m : FieldMap α) : Decidable m.DistinctKeys := by unfold DistinctKeys; infer_instance

/-- The value of a key. -/
def get? : FieldMap α → String → Option α
  | [], _ => none
  | (k, v) :: rest, key => if k = key then some v else get? rest key

/-- Whether the key is there. -/
def hasKey (m : FieldMap α) (key : String) : Bool := (m.get? key).isSome

/-- Sets the value of a key, in place if it is there and at the end otherwise. -/
def insert : FieldMap α → String → α → FieldMap α
  | [], key, value => [(key, value)]
  | (k, v) :: rest, key, value =>
    if k = key then (k, value) :: rest else (k, v) :: insert rest key value

/-- Removes a key; the others keep their order. -/
def erase : FieldMap α → String → FieldMap α
  | [], _ => []
  | (k, v) :: rest, key => if k = key then rest else (k, v) :: erase rest key

/-- Inserts every entry of the second map into the first. -/
def merge (m other : FieldMap α) : FieldMap α :=
  other.foldl (fun acc entry => acc.insert entry.1 entry.2) m

/-- The map of a list of pairs: keys in order of first occurrence, each with its last value. -/
def collect (pairs : List (String × α)) : FieldMap α := merge [] pairs

/-- Applies a function to every value. -/
def mapValues (f : α → β) (m : FieldMap α) : FieldMap β := m.map fun entry => (entry.1, f entry.2)

theorem get?_insert (m : FieldMap α) (key : String) (value : α) (other : String) :
    (m.insert key value).get? other = if key = other then some value else m.get? other := by
  induction m with
  | nil => rfl
  | cons entry rest ih =>
    obtain ⟨k, v⟩ := entry
    by_cases h : k = key
    · subst h
      by_cases h' : k = other <;> simp [insert, get?, h']
    · by_cases h' : k = other
      · subst h'
        simp [insert, get?, h, Ne.symm h]
      · simp [insert, get?, h, h', ih]

theorem keys_insert (m : FieldMap α) (key : String) (value : α) :
    (m.insert key value).keys = if key ∈ m.keys then m.keys else m.keys ++ [key] := by
  induction m with
  | nil => rfl
  | cons entry rest ih =>
    obtain ⟨k, v⟩ := entry
    by_cases h : k = key
    · simp [insert, keys, h]
    · simp only [insert, h, if_false, keys, List.map_cons, List.mem_cons] at ih ⊢
      rw [ih]
      by_cases h' : key ∈ rest.map Prod.fst <;> simp [h', Ne.symm h]

theorem DistinctKeys.insert {m : FieldMap α} (h : m.DistinctKeys) (key : String) (value : α) :
    (m.insert key value).DistinctKeys := by
  unfold DistinctKeys at h ⊢
  rw [keys_insert]
  split
  · exact h
  · rename_i hk
    rw [List.nodup_append]
    refine ⟨h, by simp, ?_⟩
    intro a ha b hb
    simp only [List.mem_singleton] at hb
    rintro rfl
    exact hk (hb ▸ ha)

theorem DistinctKeys.merge {m : FieldMap α} (h : m.DistinctKeys) (other : FieldMap α) :
    (m.merge other).DistinctKeys := by
  induction other generalizing m with
  | nil => exact h
  | cons entry rest ih => exact ih (h.insert entry.1 entry.2)

theorem distinctKeys_collect (pairs : List (String × α)) : (collect pairs).DistinctKeys :=
  DistinctKeys.merge (by simp [DistinctKeys, keys]) pairs

end FieldMap

end DocQuery
