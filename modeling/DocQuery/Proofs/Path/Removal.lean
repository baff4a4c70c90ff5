import DocQuery.Proofs.Path.Readings
import DocQuery.Proofs.Value.WellFormed
import Mathlib.Data.List.Basic

/-!
# What a removal leaves

Removing a path changes what one field holds (`remove_cons`), and nothing that is read at a path
which does not overlap it (`resolve_remove_of_not_overlap`).

At the path itself a removal and a reading do not go the same way. Both enter the objects of an
array, but a reading also enters an array that is an item of an array, and a removal does not.
`buried` is what a reading finds there; it is exactly what can still be read once the path is
removed (`flatten_remove`). So after several removals a path below one of them gives nothing if and
only if one of the removed prefixes buries nothing (`flatten_removeAll_eq_nil_iff`).
-/

namespace DocQuery.Path

/-! ## Removal as a change of one field -/

/-- What is left of a value when a path is removed from it, or from the objects in it. -/
def removeWithin (p : Path) : Value → Value
  | .object fields => .object (remove p fields)
  | .array items => .array (items.map (Value.mapFields (remove p)))
  | v => v

theorem remove_cons (key : String) {rest : Path} (hrest : rest ≠ []) (doc : Document) :
    remove (key :: rest) doc = doc.modify key (removeWithin rest) := by
  obtain ⟨next, more, rfl⟩ := List.exists_cons_of_ne_nil hrest
  rw [remove]
  split
  · rename_i fields hget
    exact (FieldMap.modify_of_get? hget (removeWithin (next :: more))).symm
  · rename_i items hget
    exact (FieldMap.modify_of_get? hget (removeWithin (next :: more))).symm
  · rename_i hobject harray
    cases hget : doc.get? key with
    | none => exact (FieldMap.modify_of_get?_eq_none hget _).symm
    | some held =>
        have hsame : removeWithin (next :: more) held = held := by
          unfold removeWithin
          split
          · exact absurd hget (hobject _)
          · exact absurd hget (harray _)
          · rfl
        rw [FieldMap.modify_of_get? hget, hsame]
        exact (FieldMap.insert_of_get? hget).symm

/-- A removal at or below a key leaves the other keys alone. -/
theorem get?_remove_of_ne {key other : String} (h : key ≠ other) (rest : Path) (doc : Document) :
    (remove (key :: rest) doc).get? other = doc.get? other := by
  cases rest with
  | nil => exact FieldMap.get?_erase_of_ne doc h
  | cons next more =>
      rw [remove_cons key (List.cons_ne_nil _ _), FieldMap.get?_modify_of_ne doc h]

theorem get?_remove_self (key : String) {rest : Path} (hrest : rest ≠ []) (doc : Document) :
    (remove (key :: rest) doc).get? key = (doc.get? key).map (removeWithin rest) := by
  rw [remove_cons key hrest, FieldMap.get?_modify_self]

theorem wellFormed_removeWithin {p : Path}
    (hp : ∀ fields, (Value.object fields).WellFormed → (Value.object (remove p fields)).WellFormed)
    {v : Value} (hv : v.WellFormed) : (removeWithin p v).WellFormed := by
  cases v with
  | object fields => exact hp fields hv
  | array items =>
      refine Value.wellFormed_array.mpr fun item hitem => ?_
      obtain ⟨source, hsource, rfl⟩ := List.mem_map.mp hitem
      have hwf := Value.wellFormed_array.mp hv source hsource
      cases source with
      | object fields => exact hp fields hwf
      | _ => exact hwf
  | _ => exact hv

theorem wellFormed_remove {p : Path} {doc : Document} (h : (Value.object doc).WellFormed) :
    (Value.object (remove p doc)).WellFormed := by
  induction p generalizing doc with
  | nil => exact h
  | cons key rest ih =>
      cases rest with
      | nil =>
          have hnone : ∀ v, (none : Option Value) = some v → v.WellFormed := nofun
          exact h.put key hnone
      | cons next more =>
          rw [remove_cons key (List.cons_ne_nil _ _)]
          refine h.put key fun v hv => ?_
          obtain ⟨held, hget, rfl⟩ := Option.map_eq_some_iff.mp hv
          exact wellFormed_removeWithin (fun fields hfields => ih hfields) (h.held hget)

/-! ## Elsewhere -/

theorem resolve_items_mapFields {q : Path} (hq : q ≠ []) {f : Document → Document}
    (h : ∀ fields, resolve q (.object (f fields)) = resolve q (.object fields))
    (items : List Value) :
    resolve q (.array (items.map (Value.mapFields f))) = resolve q (.array items) := by
  obtain ⟨key, rest, rfl⟩ := List.exists_cons_of_ne_nil hq
  have hitem (item : Value) :
      readField key (resolve rest) (item.mapFields f) = readField key (resolve rest) item := by
    cases item with
    | object fields => exact h fields
    | _ => rfl
  rw [resolve, readField_array, readField_array, List.filterMap_map]
  exact congrArg (fun vs => some (Value.array vs)) (List.filterMap_congr fun item _ => hitem item)

/-- **Removal leaves the rest alone.** What is read at a path that does not overlap the removed one
is read there still, however arrays and objects are nested on the way. -/
theorem resolve_remove_of_not_overlap {p q : Path} (h : ¬Overlap p q) (doc : Document) :
    resolve q (.object (remove p doc)) = resolve q (.object doc) := by
  induction h using not_overlap_induct generalizing doc with
  | part hname => rw [resolve, readField_object, readField_object, get?_remove_of_ne hname]
  | @share key rest names _ hrest hne ih =>
      have hheld (v : Value) : resolve names (removeWithin rest v) = resolve names v := by
        cases v with
        | object fields => exact ih fields
        | array items => exact resolve_items_mapFields hne ih items
        | _ => rfl
      rw [resolve, readField_object, readField_object, get?_remove_self key hrest]
      cases doc.get? key with
      | none => rfl
      | some held => exact hheld held

/-! ## At the removed path -/

/-- What is read at a path in the arrays that are items of an array, in a value or below its
objects. -/
def buriedWithin (below : Document → List Value) (p : Path) : Value → List Value
  | .object fields => below fields
  | .array items => items.flatMap fun
    | .object fields => below fields
    | .array inner => flatten p (.array inner)
    | _ => []
  | _ => []

/-- The values at `p ++ rest` that stand, on the way along `p`, in an array which is an item of an
array. -/
def buried (rest : Path) : Path → Document → List Value
  | [], _ => []
  | [_], _ => []
  | key :: next :: more, doc =>
    ((doc.get? key).map (buriedWithin (buried rest (next :: more)) (next :: more ++ rest))).getD []

theorem buried_cons (rest : Path) (key : String) {tail : Path} (htail : tail ≠ [])
    (doc : Document) :
    buried rest (key :: tail) doc
      = ((doc.get? key).map (buriedWithin (buried rest tail) (tail ++ rest))).getD [] := by
  obtain ⟨next, more, rfl⟩ := List.exists_cons_of_ne_nil htail
  rfl

theorem get?_remove_last {doc : Document} (hdoc : (Value.object doc).WellFormed) (key : String) :
    (remove [key] doc).get? key = none :=
  FieldMap.get?_erase_self (Value.wellFormed_object.mp hdoc).1 key

theorem flatten_removeWithin {p rest : Path} (hp : p ≠ [])
    (h : ∀ {fields}, (Value.object fields).WellFormed →
      flatten (p ++ rest) (.object (remove p fields)) = buried rest p fields)
    {v : Value} (hv : v.WellFormed) :
    flatten (p ++ rest) (removeWithin p v) = buriedWithin (buried rest p) (p ++ rest) v := by
  cases v with
  | object fields => exact h hv
  | array items =>
      obtain ⟨key, tail, rfl⟩ := List.exists_cons_of_ne_nil hp
      rw [removeWithin, buriedWithin, List.cons_append, flatten, gatherField_array,
        List.flatMap_map]
      refine List.flatMap_congr fun item hitem => ?_
      cases item with
      | object fields => exact h (Value.wellFormed_array.mp hv _ hitem)
      | array inner => rfl
      | _ => simp [Value.mapFields, gatherField]
  | _ =>
      obtain ⟨key, tail, rfl⟩ := List.exists_cons_of_ne_nil hp
      simp [removeWithin, buriedWithin, flatten, gatherField]

/-- What can be read at a path, or below it, once it is removed is what was buried there. -/
theorem flatten_remove {p : Path} (hp : p ≠ []) (rest : Path) {doc : Document}
    (hdoc : (Value.object doc).WellFormed) :
    flatten (p ++ rest) (.object (remove p doc)) = buried rest p doc := by
  induction p generalizing doc with
  | nil => exact absurd rfl hp
  | cons key tail ih =>
      rw [List.cons_append, flatten, gatherField_object]
      by_cases htail : tail = []
      · subst htail
        rw [get?_remove_last hdoc]
        rfl
      · rw [get?_remove_self key htail, buried_cons rest key htail]
        cases hget : doc.get? key with
        | none => rfl
        | some held =>
            rw [Option.map_some, Option.map_some, Option.map_some]
            exact flatten_removeWithin htail (ih htail) (hdoc.held hget)

/-! ## After several removals

A removal brings nothing to light (`flatten_remove_eq_nil`) and buries nothing
(`buried_remove_eq_nil`). What is buried along a path stays buried, unless a shorter path is removed
(`buried_remove`). -/

theorem flatten_removeWithin_eq_nil {p q : Path}
    (h : ∀ {fields}, (Value.object fields).WellFormed → flatten q (.object fields) = [] →
      flatten q (.object (remove p fields)) = [])
    {v : Value} (hv : v.WellFormed) (hread : flatten q v = []) :
    flatten q (removeWithin p v) = [] := by
  cases v with
  | object fields => exact h hv hread
  | array items =>
      cases q with
      | nil =>
          obtain rfl : items = [] := hread
          rfl
      | cons key names =>
          rw [flatten, gatherField_array, List.flatMap_eq_nil_iff] at hread
          rw [removeWithin, flatten, gatherField_array, List.flatMap_map, List.flatMap_eq_nil_iff]
          intro item hitem
          cases item with
          | object fields => exact h (Value.wellFormed_array.mp hv _ hitem) (hread _ hitem)
          | _ => exact hread _ hitem
  | _ => exact hread

theorem flatten_remove_eq_nil {p q : Path} {doc : Document} (hdoc : (Value.object doc).WellFormed)
    (h : flatten q (.object doc) = []) : flatten q (.object (remove p doc)) = [] := by
  induction p generalizing q doc with
  | nil => exact h
  | cons key tail ih =>
      cases q with
      | nil => cases h
      | cons other names =>
          rw [flatten, gatherField_object] at h ⊢
          by_cases hname : key = other
          · subst hname
            by_cases htail : tail = []
            · subst htail
              rw [get?_remove_last hdoc]
              rfl
            · rw [get?_remove_self key htail]
              cases hget : doc.get? key with
              | none => rfl
              | some held =>
                  rw [hget] at h
                  exact flatten_removeWithin_eq_nil ih (hdoc.held hget) h
          · rw [get?_remove_of_ne hname]
            exact h

theorem buriedWithin_removeWithin_eq_nil {p q rest : Path}
    (h : ∀ {fields}, (Value.object fields).WellFormed → buried rest q fields = [] →
      buried rest q (remove p fields) = [])
    {v : Value} (hv : v.WellFormed) (hread : buriedWithin (buried rest q) (q ++ rest) v = []) :
    buriedWithin (buried rest q) (q ++ rest) (removeWithin p v) = [] := by
  cases v with
  | object fields => exact h hv hread
  | array items =>
      rw [buriedWithin, List.flatMap_eq_nil_iff] at hread
      rw [removeWithin, buriedWithin, List.flatMap_map, List.flatMap_eq_nil_iff]
      intro item hitem
      cases item with
      | object fields => exact h (Value.wellFormed_array.mp hv _ hitem) (hread _ hitem)
      | _ => exact hread _ hitem
  | _ => rfl

theorem buried_remove_eq_nil {p q rest : Path} {doc : Document}
    (hdoc : (Value.object doc).WellFormed) (h : buried rest q doc = []) :
    buried rest q (remove p doc) = [] := by
  induction p generalizing q doc with
  | nil => exact h
  | cons key tail ih =>
      match q with
      | [] => rfl
      | [_] => rfl
      | other :: second :: names =>
          rw [buried_cons rest other (List.cons_ne_nil _ _)] at h ⊢
          by_cases hname : key = other
          · subst hname
            by_cases htail : tail = []
            · subst htail
              rw [get?_remove_last hdoc]
              rfl
            · rw [get?_remove_self key htail]
              cases hget : doc.get? key with
              | none => rfl
              | some held =>
                  rw [hget] at h
                  exact buriedWithin_removeWithin_eq_nil ih (hdoc.held hget) h
          · rw [get?_remove_of_ne hname]
            exact h

theorem buriedWithin_removeWithin {p q rest : Path}
    (h : ∀ fields, buried rest q (remove p fields) = buried rest q fields) (v : Value) :
    buriedWithin (buried rest q) (q ++ rest) (removeWithin p v)
      = buriedWithin (buried rest q) (q ++ rest) v := by
  cases v with
  | object fields => exact h fields
  | array items =>
      rw [removeWithin, buriedWithin, buriedWithin, List.flatMap_map]
      refine List.flatMap_congr fun item _ => ?_
      cases item with
      | object fields => exact h fields
      | _ => rfl
  | _ => rfl

theorem buried_remove {p q : Path} (h : p <+: q → p = q) (rest : Path) (doc : Document) :
    buried rest q (remove p doc) = buried rest q doc := by
  induction p generalizing q doc with
  | nil => rfl
  | cons key tail ih =>
      match q with
      | [] => rfl
      | [_] => rfl
      | other :: second :: names =>
          rw [buried_cons rest other (List.cons_ne_nil _ _),
            buried_cons rest other (List.cons_ne_nil _ _)]
          by_cases hname : key = other
          · subst hname
            have htail : tail <+: second :: names → tail = second :: names := fun hpre =>
              (List.cons.inj (h (List.cons_prefix_cons.mpr ⟨rfl, hpre⟩))).2
            have hne : tail ≠ [] := by
              rintro rfl
              cases htail List.nil_prefix
            rw [get?_remove_self key hne, Option.map_map]
            exact congrArg (fun f => ((doc.get? key).map f).getD [])
              (funext (buriedWithin_removeWithin (ih htail)))
          · rw [get?_remove_of_ne hname]

/-- Removes paths one after the other. -/
def removeAll (paths : List Path) (doc : Document) : Document :=
  paths.foldl (fun kept p => remove p kept) doc

theorem flatten_removeAll_eq_nil (paths : List Path) {q : Path} {doc : Document}
    (hdoc : (Value.object doc).WellFormed) (h : flatten q (.object doc) = []) :
    flatten q (.object (removeAll paths doc)) = [] := by
  induction paths generalizing doc with
  | nil => exact h
  | cons p others ih => exact ih (wellFormed_remove hdoc) (flatten_remove_eq_nil hdoc h)

theorem flatten_removeAll_of_mem {paths : List Path} {q : Path} (hq : q ≠ []) (hmem : q ∈ paths)
    {rest : Path} {doc : Document} (hdoc : (Value.object doc).WellFormed)
    (h : buried rest q doc = []) : flatten (q ++ rest) (.object (removeAll paths doc)) = [] := by
  induction paths generalizing doc with
  | nil => cases hmem
  | cons p others ih =>
      rcases List.mem_cons.mp hmem with rfl | hmem
      · have hgone := (flatten_remove hq rest hdoc).trans h
        exact flatten_removeAll_eq_nil others (wellFormed_remove hdoc) hgone
      · exact ih hmem (wellFormed_remove hdoc) (buried_remove_eq_nil hdoc h)

theorem wellFormed_removeAll {paths : List Path} {doc : Document}
    (hdoc : (Value.object doc).WellFormed) : (Value.object (removeAll paths doc)).WellFormed := by
  induction paths generalizing doc with
  | nil => exact hdoc
  | cons p others ih => exact ih (wellFormed_remove hdoc)

theorem buried_removeAll {paths : List Path} {q : Path} (h : ∀ p ∈ paths, p <+: q → p = q)
    (rest : Path) (doc : Document) : buried rest q (removeAll paths doc) = buried rest q doc := by
  induction paths generalizing doc with
  | nil => rfl
  | cons p others ih =>
      obtain ⟨hp, hothers⟩ := List.forall_mem_cons.mp h
      exact (ih hothers _).trans (buried_remove hp rest doc)

/-- Among the prefixes of a path in a list there is one that no other is a prefix of. -/
theorem exists_shortest {paths : List Path} {q : Path} (hq : q ∈ paths) :
    ∃ shortest ∈ paths, shortest <+: q ∧ ∀ p ∈ paths, p <+: shortest → p = shortest := by
  induction hlength : q.length using Nat.strongRecOn generalizing q with
  | ind length ih =>
      by_cases hmin : ∀ p ∈ paths, p <+: q → p = q
      · exact ⟨q, hq, List.prefix_rfl, hmin⟩
      · push Not at hmin
        obtain ⟨p, hp, hpre, hne⟩ := hmin
        have hlt : p.length < length :=
          hlength ▸ Nat.lt_of_le_of_ne hpre.length_le fun heq => hne (hpre.eq_of_length heq)
        obtain ⟨shortest, hmem, hshort, hrest⟩ := ih p.length hlt hp rfl
        exact ⟨shortest, hmem, hshort.trans hpre, hrest⟩

/-- **What removals hide.** After some removals nothing can be read at a path below one of the
removed ones if and only if nothing is buried along one of them. -/
theorem flatten_removeAll_eq_nil_iff {paths : List Path} (hpaths : ∀ p ∈ paths, p ≠ [])
    {q : Path} (hq : ∃ p ∈ paths, p <+: q) {doc : Document} (hdoc : (Value.object doc).WellFormed) :
    flatten q (.object (removeAll paths doc)) = []
      ↔ ∃ p ∈ paths, ∃ rest, q = p ++ rest ∧ buried rest p doc = [] := by
  constructor
  · intro h
    obtain ⟨p, hp, hpre⟩ := hq
    obtain ⟨shortest, hmem, hshort, hmin⟩ := exists_shortest hp
    obtain ⟨rest, rfl⟩ := hshort.trans hpre
    refine ⟨shortest, hmem, rest, rfl, ?_⟩
    -- one more removal of the shortest prefix shows what is buried along it, and nothing is read
    have hkept := flatten_remove_eq_nil (p := shortest) (wellFormed_removeAll hdoc) h
    rw [flatten_remove (hpaths shortest hmem) rest (wellFormed_removeAll hdoc)] at hkept
    rw [← buried_removeAll hmin, hkept]
  · rintro ⟨p, hp, rest, rfl, h⟩
    exact flatten_removeAll_of_mem (hpaths p hp) hp hdoc h

theorem resolve_removeAll_of_not_overlap {paths : List Path} {q : Path}
    (h : ∀ p ∈ paths, ¬Overlap p q) (doc : Document) :
    resolve q (.object (removeAll paths doc)) = resolve q (.object doc) := by
  induction paths generalizing doc with
  | nil => rfl
  | cons p others ih =>
      obtain ⟨hp, hothers⟩ := List.forall_mem_cons.mp h
      exact (ih hothers _).trans (resolve_remove_of_not_overlap hp doc)

/-! ## The keys of the document -/

theorem keys_remove {doc : Document} (hdoc : doc.DistinctKeys) (p : Path) :
    (remove p doc).keys = doc.keys.filter fun key => p ≠ [key] := by
  match p with
  | [] => simp [remove]
  | [last] =>
      rw [remove, FieldMap.keys_erase, List.Nodup.erase_eq_filter hdoc]
      refine List.filter_congr fun key _ => ?_
      by_cases hkey : key = last
      · simp [hkey]
      · simp [hkey, Ne.symm hkey]
  | first :: second :: more =>
      rw [remove_cons first (List.cons_ne_nil _ _), FieldMap.keys_modify]
      simp

/-- The keys that are removed as a whole are gone, and the others are in their old order. -/
theorem keys_removeAll {doc : Document} (hdoc : doc.DistinctKeys) (paths : List Path) :
    (removeAll paths doc).keys = doc.keys.filter fun key => [key] ∉ paths := by
  induction paths generalizing doc with
  | nil => simp [removeAll]
  | cons p others ih =>
      have hkeys := keys_remove hdoc p
      have hnext : (remove p doc).DistinctKeys := by
        rw [FieldMap.DistinctKeys, hkeys]
        exact hdoc.filter _
      show (removeAll others (remove p doc)).keys = _
      rw [ih hnext, hkeys, List.filter_filter]
      refine List.filter_congr fun key _ => ?_
      by_cases hp : [key] = p
      · simp [hp]
      · simp [hp, Ne.symm hp]

/-! ## Nothing to read -/

/-- An array of arrays, at every depth. -/
inductive OnlyArrays : Value → Prop
  | array {items : List Value} (h : ∀ item ∈ items, OnlyArrays item) : OnlyArrays (.array items)

/-- Nothing can be read at the path: no value, and at most arrays of arrays. -/
structure Unreadable (p : Path) (doc : Value) : Prop where
  flatten_eq : flatten p doc = []
  resolve_only : ∀ v, resolve p doc = some v → OnlyArrays v

mutual

theorem onlyArrays_of_gatherField {key : String} {rest : Path}
    (h : ∀ {v w : Value}, flatten rest v = [] → resolve rest v = some w → OnlyArrays w) :
    (v : Value) → gatherField key (flatten rest) v = [] →
      ∀ w, readField key (resolve rest) v = some w → OnlyArrays w
  | .object fields, hgather, w, hread => by
      rw [readField_object] at hread
      obtain ⟨held, hget, hread⟩ := Option.bind_eq_some_iff.mp hread
      rw [gatherField_object, hget] at hgather
      exact h hgather hread
  | .array items, hgather, w, hread => by
      rw [readField, Option.some.injEq] at hread
      subst hread
      rw [gatherField] at hgather
      exact .array (onlyArrays_of_gatherFieldOfItems h items hgather)
  | .null, _, _, hread => by cases hread
  | .bool _, _, _, hread => by cases hread
  | .number _, _, _, hread => by cases hread
  | .string _, _, _, hread => by cases hread

theorem onlyArrays_of_gatherFieldOfItems {key : String} {rest : Path}
    (h : ∀ {v w : Value}, flatten rest v = [] → resolve rest v = some w → OnlyArrays w) :
    (items : List Value) → gatherFieldOfItems key (flatten rest) items = [] →
      ∀ w ∈ readFieldOfItems key (resolve rest) items, OnlyArrays w
  | [], _ => nofun
  | item :: others, hgather => by
      rw [gatherFieldOfItems, List.append_eq_nil_iff] at hgather
      rw [readFieldOfItems]
      have hothers := onlyArrays_of_gatherFieldOfItems h others hgather.2
      cases hread : readField key (resolve rest) item with
      | none => exact hothers
      | some v =>
          exact List.forall_mem_cons.mpr ⟨onlyArrays_of_gatherField h item hgather.1 v hread,
            hothers⟩

end

/-- Where `flatten` finds no value, `resolve` finds at most arrays of arrays. -/
theorem onlyArrays_of_flatten {p : Path} {v w : Value} (h : flatten p v = [])
    (hread : resolve p v = some w) : OnlyArrays w := by
  induction p generalizing v w with
  | nil =>
      obtain rfl := Option.some.inj hread
      cases v with
      | array items =>
          obtain rfl : items = [] := h
          exact .array nofun
      | _ => cases h
  | cons key rest ih => exact onlyArrays_of_gatherField ih v h w hread

theorem unreadable_iff {p : Path} {doc : Value} : Unreadable p doc ↔ flatten p doc = [] :=
  ⟨fun h => h.flatten_eq, fun h => ⟨h, fun _ => onlyArrays_of_flatten h⟩⟩

end DocQuery.Path
