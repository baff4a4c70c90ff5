import DocQuery.FieldMap
import Mathlib.Data.List.Induction

/-!
# Theory of field maps

What erasing and merging do to the entries of a field map, and how the operations cancel. The laws
about one key written twice (`erase_insert`, `insert_insert`) hold of every list of entries; that an
erased key is gone (`get?_erase_self`) and that a map is rebuilt by its own entries
(`merge_nil_left`) need every key to stand once. Changing what a key holds (`modify`) keeps the
places of all keys, so changes of different keys commute (`modify_comm`), as they do with erasing
(`modify_erase`).

Merging is associative (`merge_assoc`), and a list of pairs may be merged before or after it is
collected (`merge_collect`). The keys of the first map keep their places, and the new ones come
behind them (`keys_merge`). `get?_collect` is the reading of a collected map: the value of a key is
that of its last entry.

The maps that can be built are those whose keys stand once (`built_iff_distinctKeys`).
-/

namespace DocQuery.FieldMap

variable {α : Type u} {β : Type v}

/-! ## Looking up -/

theorem get?_eq_none_iff {m : FieldMap α} {key : String} :
    m.get? key = none ↔ key ∉ m.keys := by
  induction m with
  | nil => simp [get?, keys]
  | cons entry rest ih =>
      obtain ⟨k, v⟩ := entry
      by_cases h : k = key
      · simp [get?, keys, h]
      · simpa [get?, keys, h, Ne.symm h] using ih

theorem mem_of_get? {m : FieldMap α} {key : String} {value : α} (h : m.get? key = some value) :
    (key, value) ∈ m := by
  induction m with
  | nil => cases h
  | cons entry rest ih =>
      obtain ⟨k, v⟩ := entry
      by_cases hk : k = key
      · simp only [get?, hk, if_true, Option.some.injEq] at h
        rw [hk, h]
        exact List.mem_cons_self ..
      · simp only [get?, hk, if_false] at h
        exact List.mem_cons_of_mem _ (ih h)

theorem get?_of_mem {m : FieldMap α} (hm : m.DistinctKeys) {key : String} {value : α}
    (h : (key, value) ∈ m) : m.get? key = some value := by
  induction m with
  | nil => cases h
  | cons entry rest ih =>
      obtain ⟨k, v⟩ := entry
      obtain ⟨hk, hrest⟩ := List.nodup_cons.mp hm
      rcases List.mem_cons.mp h with heq | htail
      · obtain ⟨rfl, rfl⟩ := Prod.mk.injEq .. |>.mp heq
        simp [get?]
      · have hne : k ≠ key := by
          rintro rfl
          exact hk (List.mem_map.mpr ⟨_, htail, rfl⟩)
        simpa [get?, hne] using ih hrest htail

/-- Maps whose keys stand once are the same when they have the same keys, in one order, with the
same values. -/
theorem eq_of_keys_of_get? {m m' : FieldMap α} (hm : m.DistinctKeys) (hkeys : m.keys = m'.keys)
    (h : ∀ key, m.get? key = m'.get? key) : m = m' := by
  induction m generalizing m' with
  | nil => exact (List.map_eq_nil_iff.mp hkeys.symm).symm
  | cons entry rest ih =>
      obtain ⟨k, v⟩ := entry
      obtain ⟨⟨k', v'⟩, rest', rfl⟩ : ∃ entry' rest', m' = entry' :: rest' := by
        cases m' with
        | nil => cases hkeys
        | cons entry' rest' => exact ⟨entry', rest', rfl⟩
      obtain ⟨rfl, hrestKeys⟩ := List.cons.inj hkeys
      obtain ⟨hk, hrest⟩ := List.nodup_cons.mp hm
      have hvalue : v = v' := by simpa [get?] using h k
      have hothers : ∀ key, get? rest key = get? rest' key := by
        intro key
        by_cases hkey : k = key
        · subst hkey
          have hk' : k ∉ keys rest' := by rwa [← show keys rest = keys rest' from hrestKeys]
          rw [get?_eq_none_iff.mpr hk, get?_eq_none_iff.mpr hk']
        · simpa [get?, hkey] using h key
      rw [hvalue, ih hrest hrestKeys hothers]

/-! ## Inserting -/

@[simp] theorem get?_insert_self (m : FieldMap α) (key : String) (value : α) :
    (m.insert key value).get? key = some value := by
  rw [get?_insert, if_pos rfl]

theorem get?_insert_of_ne (m : FieldMap α) {key other : String} (h : key ≠ other) (value : α) :
    (m.insert key value).get? other = m.get? other := by
  rw [get?_insert, if_neg h]

@[simp] theorem insert_insert (m : FieldMap α) (key : String) (value later : α) :
    (m.insert key value).insert key later = m.insert key later := by
  induction m with
  | nil => simp [insert]
  | cons entry rest ih =>
      obtain ⟨k, v⟩ := entry
      by_cases h : k = key <;> simp [insert, h, ih]

theorem mem_insert {m : FieldMap α} {key : String} {value : α} {entry : String × α}
    (h : entry ∈ m.insert key value) : entry ∈ m ∨ entry = (key, value) := by
  induction m with
  | nil => exact .inr (List.mem_singleton.mp h)
  | cons first rest ih =>
      obtain ⟨k, v⟩ := first
      unfold insert at h
      split at h
      · rename_i hk
        subst hk
        rcases List.mem_cons.mp h with heq | htail
        · exact .inr heq
        · exact .inl (List.mem_cons_of_mem _ htail)
      · rcases List.mem_cons.mp h with rfl | htail
        · exact .inl (List.mem_cons_self ..)
        · exact (ih htail).imp_left (List.mem_cons_of_mem _)

theorem mem_keys_insert {m : FieldMap α} {key other : String} {value : α} :
    other ∈ (m.insert key value).keys ↔ other = key ∨ other ∈ m.keys := by
  rw [keys_insert]
  split
  · rename_i hkey
    exact (or_iff_right_of_imp fun heq => heq ▸ hkey).symm
  · rw [List.mem_append, List.mem_singleton, or_comm]

/-- A key that is there keeps its place, so it may as well be written first. -/
theorem insert_comm {m : FieldMap α} {key other : String} (hkey : key ∈ m.keys) (h : key ≠ other)
    (value later : α) :
    (m.insert other later).insert key value = (m.insert key value).insert other later := by
  induction m with
  | nil => cases hkey
  | cons entry rest ih =>
      obtain ⟨k, v⟩ := entry
      by_cases hk : k = key
      · subst hk
        simp [insert, h]
      · have hrest : key ∈ keys rest := (List.mem_cons.mp hkey).resolve_left (Ne.symm hk)
        by_cases ho : k = other
        · subst ho
          simp [insert, hk]
        · simp [insert, hk, ho, ih hrest]

theorem insert_of_not_mem {m : FieldMap α} {key : String} (h : key ∉ m.keys) (value : α) :
    m.insert key value = m ++ [(key, value)] := by
  induction m with
  | nil => rfl
  | cons entry rest ih =>
      obtain ⟨k, v⟩ := entry
      simp only [keys, List.map_cons, List.mem_cons, not_or] at h
      simp only [insert, if_neg (Ne.symm h.1), List.cons_append]
      rw [ih h.2]

/-- Inserting what is there already changes nothing. -/
theorem insert_of_get? {m : FieldMap α} {key : String} {value : α} (h : m.get? key = some value) :
    m.insert key value = m := by
  induction m with
  | nil => cases h
  | cons entry rest ih =>
      obtain ⟨k, v⟩ := entry
      by_cases hk : k = key
      · simp only [get?, hk, if_true, Option.some.injEq] at h
        simp [insert, hk, h]
      · simp only [get?, hk, if_false] at h
        simp [insert, hk, ih h]

/-! ## Erasing -/

theorem erase_of_get?_eq_none {m : FieldMap α} {key : String} (h : m.get? key = none) :
    m.erase key = m := by
  induction m with
  | nil => rfl
  | cons entry rest ih =>
      obtain ⟨k, v⟩ := entry
      by_cases hk : k = key
      · simp [get?, hk] at h
      · simp only [get?, hk, if_false] at h
        simp [erase, hk, ih h]

@[simp] theorem erase_insert (m : FieldMap α) (key : String) (value : α) :
    (m.insert key value).erase key = m.erase key := by
  induction m with
  | nil => simp [insert, erase]
  | cons entry rest ih =>
      obtain ⟨k, v⟩ := entry
      by_cases h : k = key <;> simp [insert, erase, h, ih]

theorem erase_insert_of_ne (m : FieldMap α) {key other : String} (h : key ≠ other) (value : α) :
    (m.insert key value).erase other = (m.erase other).insert key value := by
  induction m with
  | nil => simp [insert, erase, h]
  | cons entry rest ih =>
      obtain ⟨k, v⟩ := entry
      by_cases hk : k = key
      · subst hk
        simp [insert, erase, h]
      · by_cases ho : k = other
        · subst ho
          simp [insert, erase, Ne.symm h]
        · simp [insert, erase, hk, ho, ih]

theorem get?_erase_of_ne (m : FieldMap α) {key other : String} (h : key ≠ other) :
    (m.erase key).get? other = m.get? other := by
  induction m with
  | nil => rfl
  | cons entry rest ih =>
      obtain ⟨k, v⟩ := entry
      by_cases hk : k = key
      · subst hk
        simp [erase, get?, h]
      · by_cases ho : k = other
        · subst ho
          simp [erase, get?, hk]
        · simp [erase, get?, hk, ho, ih]

theorem keys_erase (m : FieldMap α) (key : String) : (m.erase key).keys = m.keys.erase key := by
  induction m with
  | nil => rfl
  | cons entry rest ih =>
      obtain ⟨k, v⟩ := entry
      by_cases hk : k = key
      · simp [erase, keys, hk]
      · simpa [erase, keys, hk] using ih

theorem keys_erase_sublist (m : FieldMap α) (key : String) : (m.erase key).keys.Sublist m.keys := by
  rw [keys_erase]
  exact List.erase_sublist

theorem mem_of_mem_erase {m : FieldMap α} {key : String} {entry : String × α}
    (h : entry ∈ m.erase key) : entry ∈ m := by
  induction m with
  | nil => exact h
  | cons first rest ih =>
      obtain ⟨k, v⟩ := first
      unfold erase at h
      split at h
      · exact List.mem_cons_of_mem _ h
      · rcases List.mem_cons.mp h with rfl | htail
        · exact List.mem_cons_self ..
        · exact List.mem_cons_of_mem _ (ih htail)

theorem DistinctKeys.erase {m : FieldMap α} (h : m.DistinctKeys) (key : String) :
    (m.erase key).DistinctKeys :=
  (keys_erase_sublist m key).nodup h

theorem get?_erase_self {m : FieldMap α} (h : m.DistinctKeys) (key : String) :
    (m.erase key).get? key = none := by
  induction m with
  | nil => rfl
  | cons entry rest ih =>
      obtain ⟨k, v⟩ := entry
      obtain ⟨hk, hrest⟩ := List.nodup_cons.mp h
      by_cases hkey : k = key
      · subst hkey
        simpa [erase] using get?_eq_none_iff.mpr hk
      · simpa [erase, get?, hkey] using ih hrest

/-! ## Writing or removing -/

/-- Sets the value of a key, or removes the key if there is no value. -/
def put (m : FieldMap α) (key : String) : Option α → FieldMap α
  | some value => m.insert key value
  | none => m.erase key

theorem get?_put_of_ne (m : FieldMap α) {key other : String} (h : key ≠ other) (value : Option α) :
    (m.put key value).get? other = m.get? other := by
  cases value with
  | none => exact get?_erase_of_ne m h
  | some v => exact get?_insert_of_ne m h v

theorem get?_put_self {m : FieldMap α} (h : m.DistinctKeys) (key : String) (value : Option α) :
    (m.put key value).get? key = value := by
  cases value with
  | none => exact get?_erase_self h key
  | some v => exact get?_insert_self m key v

theorem DistinctKeys.put {m : FieldMap α} (h : m.DistinctKeys) (key : String) (value : Option α) :
    (m.put key value).DistinctKeys := by
  cases value with
  | none => exact h.erase key
  | some v => exact h.insert key v

/-! ## Changing what a key holds -/

/-- Applies a function to what a key holds. -/
def modify (m : FieldMap α) (key : String) (f : α → α) : FieldMap α :=
  m.put key ((m.get? key).map f)

theorem modify_of_get?_eq_none {m : FieldMap α} {key : String} (h : m.get? key = none) (f : α → α) :
    m.modify key f = m := by
  rw [modify, h]
  exact erase_of_get?_eq_none h

theorem modify_of_get? {m : FieldMap α} {key : String} {value : α} (h : m.get? key = some value)
    (f : α → α) : m.modify key f = m.insert key (f value) := by
  rw [modify, h]
  rfl

/-- Also where keys are repeated. -/
theorem get?_modify_self (m : FieldMap α) (key : String) (f : α → α) :
    (m.modify key f).get? key = (m.get? key).map f := by
  cases hget : m.get? key with
  | none => rw [modify_of_get?_eq_none hget, hget, Option.map_none]
  | some v => rw [modify_of_get? hget, get?_insert_self, Option.map_some]

theorem get?_modify_of_ne (m : FieldMap α) {key other : String} (h : key ≠ other) (f : α → α) :
    (m.modify key f).get? other = m.get? other := get?_put_of_ne m h _

theorem mem_keys_of_get? {m : FieldMap α} {key : String} {value : α} (h : m.get? key = some value) :
    key ∈ m.keys := List.mem_map.mpr ⟨_, mem_of_get? h, rfl⟩

theorem keys_modify (m : FieldMap α) (key : String) (f : α → α) :
    (m.modify key f).keys = m.keys := by
  cases hget : m.get? key with
  | none => rw [modify_of_get?_eq_none hget]
  | some v => rw [modify_of_get? hget, keys_insert, if_pos (mem_keys_of_get? hget)]

theorem modify_modify (m : FieldMap α) (key : String) (f g : α → α) :
    (m.modify key f).modify key g = m.modify key (g ∘ f) := by
  cases hget : m.get? key with
  | none =>
    rw [modify_of_get?_eq_none hget, modify_of_get?_eq_none hget, modify_of_get?_eq_none hget]
  | some v =>
      rw [modify_of_get? hget, modify_of_get? (get?_insert_self m key _), insert_insert,
        modify_of_get? hget]
      rfl

theorem modify_congr {m : FieldMap α} {key : String} {f g : α → α}
    (h : ∀ v, m.get? key = some v → f v = g v) : m.modify key f = m.modify key g := by
  rw [modify, modify, Option.map_congr h]

theorem modify_erase (m : FieldMap α) {key other : String} (h : key ≠ other) (f : α → α) :
    (m.erase other).modify key f = (m.modify key f).erase other := by
  have hget := get?_erase_of_ne m (Ne.symm h)
  cases hkey : m.get? key with
  | none => rw [modify_of_get?_eq_none (hget.trans hkey), modify_of_get?_eq_none hkey]
  | some v =>
      rw [modify_of_get? (hget.trans hkey), modify_of_get? hkey, erase_insert_of_ne m h]

/-- Changes of different keys may change places. -/
theorem modify_comm (m : FieldMap α) {key other : String} (h : key ≠ other) (f g : α → α) :
    (m.modify other g).modify key f = (m.modify key f).modify other g := by
  have hget := get?_modify_of_ne m (Ne.symm h) g
  have hget' := get?_modify_of_ne m h f
  cases hkey : m.get? key with
  | none => rw [modify_of_get?_eq_none (hget.trans hkey), modify_of_get?_eq_none hkey]
  | some v =>
      cases hother : m.get? other with
      | none => rw [modify_of_get?_eq_none hother, modify_of_get?_eq_none (hget'.trans hother)]
      | some w =>
          rw [modify_of_get? (hget.trans hkey), modify_of_get? (hget'.trans hother),
            modify_of_get? hkey, modify_of_get? hother, insert_comm (mem_keys_of_get? hkey) h]

theorem erase_comm (m : FieldMap α) (key other : String) :
    (m.erase other).erase key = (m.erase key).erase other := by
  by_cases h : key = other
  · rw [h]
  · induction m with
    | nil => rfl
    | cons entry rest ih =>
        obtain ⟨k, v⟩ := entry
        by_cases hk : k = key
        · subst hk
          simp [erase, h]
        · by_cases ho : k = other
          · subst ho
            simp [erase, hk]
          · simp [erase, hk, ho, ih]

/-! ## Merging -/

theorem merge_eq_append {m other : FieldMap α} (h : (m ++ other).DistinctKeys) :
    m.merge other = m ++ other := by
  induction other generalizing m with
  | nil => simp [merge]
  | cons entry rest ih =>
      have hnew : entry.1 ∉ m.keys := by
        simp only [DistinctKeys, keys, List.map_append, List.map_cons] at h ⊢
        exact fun hmem => (List.nodup_append.mp h).2.2 _ hmem _ (List.mem_cons_self ..) rfl
      have hinsert : m.insert entry.1 entry.2 = m ++ [entry] := insert_of_not_mem hnew entry.2
      have hassoc : m ++ entry :: rest = m ++ [entry] ++ rest := by simp
      rw [hassoc] at h ⊢
      rw [← ih h, ← hinsert]
      rfl

/-- A map whose keys stand once is rebuilt by its own entries. -/
theorem merge_nil_left {m : FieldMap α} (h : m.DistinctKeys) : merge [] m = m :=
  merge_eq_append (m := []) h

@[simp] theorem merge_nil (m : FieldMap α) : m.merge [] = m := rfl

theorem merge_cons (m : FieldMap α) (key : String) (value : α) (rest : FieldMap α) :
    m.merge ((key, value) :: rest) = (m.insert key value).merge rest := rfl

theorem merge_append (m first rest : FieldMap α) :
    m.merge (first ++ rest) = (m.merge first).merge rest := List.foldl_append

theorem insert_merge {m rest : FieldMap α} {key : String} (hkey : key ∈ m.keys)
    (hrest : key ∉ rest.keys) (value : α) :
    (m.merge rest).insert key value = (m.insert key value).merge rest := by
  induction rest generalizing m with
  | nil => rfl
  | cons entry rest ih =>
      obtain ⟨k, v⟩ := entry
      obtain ⟨hk, hrest⟩ : key ≠ k ∧ key ∉ keys rest := by simpa [keys] using hrest
      rw [merge_cons, merge_cons, ih (mem_keys_insert.mpr (.inr hkey)) hrest, insert_comm hkey hk]

/-- Merging a map with one more key is merging the map and then writing the key. -/
theorem merge_insert (m : FieldMap α) {other : FieldMap α} (h : other.DistinctKeys) (key : String)
    (value : α) : m.merge (other.insert key value) = (m.merge other).insert key value := by
  induction other generalizing m with
  | nil => rfl
  | cons entry rest ih =>
      obtain ⟨k, v⟩ := entry
      obtain ⟨hk, hrest⟩ := List.nodup_cons.mp h
      by_cases hkey : k = key
      · subst hkey
        have hthere : k ∈ (m.insert k v).keys := mem_keys_insert.mpr (.inl rfl)
        rw [merge_cons, insert_merge hthere hk, insert_insert, insert, if_pos rfl, merge_cons]
      · rw [insert, if_neg hkey, merge_cons, merge_cons, ih _ hrest]

/-- Merging is associative. -/
theorem merge_assoc (m : FieldMap α) {other : FieldMap α} (h : other.DistinctKeys)
    (last : FieldMap α) : (m.merge other).merge last = m.merge (other.merge last) := by
  induction last generalizing other with
  | nil => rfl
  | cons entry last ih =>
      obtain ⟨k, v⟩ := entry
      rw [merge_cons, merge_cons, ← ih (h.insert k v), merge_insert m h]

/-- A list of pairs is merged like the map that it makes. -/
theorem merge_collect (m : FieldMap α) (pairs : List (String × α)) :
    m.merge (collect pairs) = m.merge pairs :=
  (merge_assoc m (distinctKeys_collect []) pairs).symm

theorem collect_append (first rest : List (String × α)) :
    collect (first ++ rest) = (collect first).merge (collect rest) := by
  rw [merge_collect]
  exact merge_append [] first rest

theorem merge_eq_nil_iff {m other : FieldMap α} : m.merge other = [] ↔ m = [] ∧ other = [] := by
  induction other generalizing m with
  | nil => simp
  | cons entry rest ih =>
      obtain ⟨k, v⟩ := entry
      have hinsert : m.insert k v ≠ [] := by
        unfold insert
        split
        · simp
        · split <;> simp
      simp [merge_cons, ih, hinsert]

theorem collect_eq_nil_iff {pairs : List (String × α)} : collect pairs = [] ↔ pairs = [] := by
  simp [collect, merge_eq_nil_iff]

theorem get?_merge (m other : FieldMap α) (key : String) :
    (m.merge other).get? key = (other.reverse.lookup key).or (m.get? key) := by
  induction other generalizing m with
  | nil => rfl
  | cons entry rest ih =>
      obtain ⟨k, v⟩ := entry
      have hstep : m.merge ((k, v) :: rest) = (m.insert k v).merge rest := rfl
      rw [hstep, ih, get?_insert, List.reverse_cons, List.lookup_append]
      by_cases h : k = key
      · subst h
        cases rest.reverse.lookup k <;> simp
      · have hlookup : List.lookup key [(k, v)] = none := by simp [Ne.symm h]
        rw [if_neg h, hlookup, Option.or_none]

/-- The keys of the first map keep their places, and behind them come the new ones, in the order in
which they first occur. -/
theorem keys_merge (m other : FieldMap α) :
    (m.merge other).keys = m.keys ++ (keys other).eraseDups.filter (· ∉ m.keys) := by
  induction other using List.reverseRecOn with
  | nil => simp [keys]
  | append_singleton rest entry ih =>
      obtain ⟨k, v⟩ := entry
      have hkeys : keys (rest ++ [(k, v)]) = keys rest ++ [k] := List.map_append
      rw [merge_append, merge_cons, merge_nil, keys_insert, ih, hkeys, List.eraseDups_append]
      by_cases hm : k ∈ m.keys <;> by_cases hr : k ∈ keys rest <;>
        simp [hm, hr, List.removeAll, List.eraseDups_cons]

/-- A collected map has its keys in the order in which they first occur. -/
theorem keys_collect (pairs : List (String × α)) :
    (collect pairs).keys = (pairs.map Prod.fst).eraseDups := by
  rw [collect, keys_merge]
  simp [keys]

theorem keys_merge_of_distinct (m : FieldMap α) {other : FieldMap α} (h : other.DistinctKeys) :
    (m.merge other).keys = m.keys ++ other.keys.filter (· ∉ m.keys) := by
  have hkeys : other.keys.eraseDups = other.keys := by
    conv_rhs => rw [← merge_nil_left h]
    exact (keys_collect other).symm
  rw [keys_merge, hkeys]

/-- A collected key has the value of its last entry. -/
theorem get?_collect (pairs : List (String × α)) (key : String) :
    (collect pairs).get? key = pairs.reverse.lookup key := by
  rw [collect, get?_merge]
  simp [get?]

/-- Merging sets the keys of the second map. -/
theorem get?_merge_of_mem (m : FieldMap α) {other : FieldMap α} (h : other.DistinctKeys)
    {key : String} {value : α} (hmem : (key, value) ∈ other) :
    (m.merge other).get? key = some value := by
  rw [get?_merge, ← get?_collect, collect, merge_nil_left h, get?_of_mem h hmem, Option.some_or]

/-! ## Maps that can be built -/

/-- The map is made by inserting, merging and collecting. -/
inductive Built : FieldMap α → Prop
  | empty : Built []
  | insert {m : FieldMap α} (h : Built m) (key : String) (value : α) : Built (m.insert key value)
  | merge {m other : FieldMap α} (h : Built m) (hother : Built other) : Built (m.merge other)
  | collect (pairs : List (String × α)) : Built (collect pairs)

theorem built_iff_distinctKeys {m : FieldMap α} : m.Built ↔ m.DistinctKeys := by
  constructor
  · intro h
    induction h with
    | empty => exact List.nodup_nil
    | insert _ key value ih => exact ih.insert key value
    | merge _ _ ih _ => exact ih.merge _
    | collect pairs => exact distinctKeys_collect pairs
  · intro h
    have hself : FieldMap.collect m = m := merge_nil_left h
    rw [← hself]
    exact .collect m

instance (m : FieldMap α) : Decidable m.Built := decidable_of_iff _ built_iff_distinctKeys.symm

/-! ## Applying a function to the values -/

@[simp] theorem keys_mapValues (f : α → β) (m : FieldMap α) : (m.mapValues f).keys = m.keys := by
  rw [keys, keys, mapValues, List.map_map]
  rfl

theorem get?_mapValues (f : α → β) (m : FieldMap α) (key : String) :
    (m.mapValues f).get? key = (m.get? key).map f := by
  induction m with
  | nil => rfl
  | cons entry rest ih =>
      obtain ⟨k, v⟩ := entry
      rw [mapValues] at ih ⊢
      by_cases h : k = key <;> simp [get?, h, ih]

theorem DistinctKeys.mapValues {m : FieldMap α} (h : m.DistinctKeys) (f : α → β) :
    (m.mapValues f).DistinctKeys := by
  rw [DistinctKeys, keys_mapValues]
  exact h

theorem mapValues_insert (m : FieldMap α) (key : String) (value : α) (f : α → β) :
    (m.insert key value).mapValues f = (m.mapValues f).insert key (f value) := by
  induction m with
  | nil => rfl
  | cons entry rest ih =>
      obtain ⟨k, v⟩ := entry
      rw [mapValues, mapValues] at ih ⊢
      by_cases h : k = key <;> simp [insert, h, ih]

/-- A function may be applied to the values before they are collected. -/
theorem mapValues_collect (pairs : List (String × α)) (f : α → β) :
    (collect pairs).mapValues f = collect (mapValues f pairs) := by
  induction pairs using List.reverseRecOn with
  | nil => rfl
  | append_singleton rest entry ih =>
      obtain ⟨k, v⟩ := entry
      have hpairs : mapValues f (rest ++ [(k, v)]) = mapValues f rest ++ [(k, f v)] :=
        List.map_append
      rw [hpairs, collect, collect, merge_append, merge_append, merge_cons, merge_cons, merge_nil,
        merge_nil, mapValues_insert, ← collect, ih, ← collect]

/-- Writing the values of a map one after the other loses none. -/
theorem collect_mapValues {m : FieldMap α} (h : m.Built) (f : α → β) :
    collect (m.mapValues f) = m.mapValues f :=
  merge_nil_left ((built_iff_distinctKeys.mp h).mapValues f)

/-! ## What lies outside some keys -/

/-- The entries under other keys than the given ones, in order. -/
def outside (names : List String) (m : FieldMap α) : FieldMap α :=
  m.filter fun entry => entry.1 ∉ names

theorem outside_cons (names : List String) (k : String) (v : α) (rest : FieldMap α) :
    outside names ((k, v) :: rest)
      = if k ∈ names then rest.outside names else (k, v) :: rest.outside names := by
  by_cases h : k ∈ names <;> simp [outside, h]

theorem outside_insert {names : List String} {key : String} (h : key ∈ names) (m : FieldMap α)
    (value : α) : (m.insert key value).outside names = m.outside names := by
  induction m with
  | nil => rw [insert, outside_cons, if_pos h]
  | cons entry rest ih =>
      obtain ⟨k, v⟩ := entry
      by_cases hk : k = key
      · subst hk
        rw [insert, if_pos rfl, outside_cons, outside_cons, if_pos h, if_pos h]
      · rw [insert, if_neg hk, outside_cons, outside_cons, ih]

theorem outside_erase {names : List String} {key : String} (h : key ∈ names) (m : FieldMap α) :
    (m.erase key).outside names = m.outside names := by
  induction m with
  | nil => rfl
  | cons entry rest ih =>
      obtain ⟨k, v⟩ := entry
      by_cases hk : k = key
      · subst hk
        rw [erase, if_pos rfl, outside_cons, if_pos h]
      · rw [erase, if_neg hk, outside_cons, outside_cons, ih]

theorem outside_put {names : List String} {key : String} (h : key ∈ names) (m : FieldMap α)
    (value : Option α) : (m.put key value).outside names = m.outside names := by
  cases value with
  | none => exact outside_erase h m
  | some v => exact outside_insert h m v

/-- Merging changes nothing outside the keys of the second map. -/
theorem outside_merge {names : List String} {other : FieldMap α} (h : other.keys ⊆ names)
    (m : FieldMap α) : (m.merge other).outside names = m.outside names := by
  induction other generalizing m with
  | nil => rfl
  | cons entry rest ih =>
      obtain ⟨k, v⟩ := entry
      obtain ⟨hk, hrest⟩ := List.cons_subset.mp h
      rw [merge_cons, ih hrest, outside_insert hk]

theorem get?_outside {names : List String} {key : String} (h : key ∉ names) (m : FieldMap α) :
    (m.outside names).get? key = m.get? key := by
  induction m with
  | nil => rfl
  | cons entry rest ih =>
      obtain ⟨k, v⟩ := entry
      rw [outside_cons]
      by_cases hk : k = key
      · subst hk
        simp [h, get?]
      · by_cases hmem : k ∈ names <;> simp [hmem, get?, hk, ih]

theorem get?_eq_of_outside_eq {names : List String} {m m' : FieldMap α}
    (h : m.outside names = m'.outside names) {key : String} (hkey : key ∉ names) :
    m.get? key = m'.get? key := by
  rw [← get?_outside hkey m, h, get?_outside hkey m']

end DocQuery.FieldMap
