import DocQuery.Proofs.Path.Removal
import DocQuery.Proofs.Value.KeyOrder

/-!
# Writes in any order

A write sets a path to a value, or removes it if there is none (`put`). It acts on one field of the
document (`get?_put`). Two writes at paths that do not overlap may change places: the results differ
in the order of keys only (`put_comm`), because under a common parent a removal and a write see the
same object, and an array or a scalar that a write replaces has nothing that a removal could have
taken from the new object.

What follows a pair of writes keeps their results alike (`Reordered.put`), so a list of writes gives
the same document, up to the order of keys, in whatever order it is carried out (`putAll_perm`).
-/

namespace DocQuery.Path

/-! ## A write as a change of one field -/

/-- Sets a path to a value, or removes what is there if there is none. -/
def put (p : Path) : Option Value → Document → Document
  | some v, doc => set p v doc
  | none, doc => remove p doc

/-- The fields that a write below a field finds there: those of an object, and otherwise none. -/
def fieldsHeld (held : Option Value) : Document := (held.bind Value.fields?).getD []

/-- What a field holds after a write at or below it. -/
def putHeld (p : Path) (value : Option Value) (held : Option Value) : Option Value :=
  match p, value with
  | [], value => value
  | p, some v => some (.object (set p v (fieldsHeld held)))
  | p, none => held.map (removeWithin p)

theorem put_cons (key : String) (tail : Path) (value : Option Value) (doc : Document) :
    put (key :: tail) value doc = doc.put key (putHeld tail value (doc.get? key)) := by
  cases value with
  | some v => cases tail <;> rfl
  | none =>
      cases tail with
      | nil => rfl
      | cons next more => exact remove_cons key (List.cons_ne_nil _ _) doc

theorem distinctKeys_put {p : Path} (value : Option Value) {doc : Document}
    (h : doc.DistinctKeys) : (put p value doc).DistinctKeys := by
  cases p with
  | nil => cases value <;> exact h
  | cons key tail =>
      rw [put_cons]
      exact FieldMap.DistinctKeys.put h key _

theorem get?_put {doc : Document} (h : doc.DistinctKeys) (key : String) (tail : Path)
    (value : Option Value) (other : String) :
    (put (key :: tail) value doc).get? other
      = if key = other then putHeld tail value (doc.get? other) else doc.get? other := by
  rw [put_cons]
  split
  · rename_i hkey
    rw [hkey, FieldMap.get?_put_self h]
  · rename_i hkey
    exact FieldMap.get?_put_of_ne doc hkey _

theorem put_nil (p : Path) : put p none [] = [] := by
  match p with
  | [] => rfl
  | [_] => rfl
  | _ :: _ :: _ => rfl

theorem putHeld_some {p : Path} (hp : p ≠ []) (v : Value) (held : Option Value) :
    putHeld p (some v) held = some (.object (put p (some v) (fieldsHeld held))) := by
  obtain ⟨key, tail, rfl⟩ := List.exists_cons_of_ne_nil hp
  rfl

theorem putHeld_none {p : Path} (hp : p ≠ []) (held : Option Value) :
    putHeld p none held = held.map (removeWithin p) := by
  obtain ⟨key, tail, rfl⟩ := List.exists_cons_of_ne_nil hp
  rfl

theorem putHeld_object {p : Path} (hp : p ≠ []) (value : Option Value) (fields : Document) :
    putHeld p value (some (.object fields)) = some (.object (put p value fields)) := by
  obtain ⟨key, tail, rfl⟩ := List.exists_cons_of_ne_nil hp
  cases value <;> rfl

theorem fieldsHeld_putHeld {p : Path} (hp : p ≠ []) (value held : Option Value) :
    fieldsHeld (putHeld p value held) = put p value (fieldsHeld held) := by
  obtain ⟨key, tail, rfl⟩ := List.exists_cons_of_ne_nil hp
  cases value with
  | some v => rfl
  | none =>
      cases held with
      | none => exact (put_nil _).symm
      | some v => cases v <;> first | rfl | exact (put_nil _).symm

/-! ## Removals in any order -/

theorem mapFields_comp (f g : Document → Document) (v : Value) :
    (v.mapFields g).mapFields f = v.mapFields fun fields => f (g fields) := by
  cases v <;> rfl

theorem removeWithin_comm {p q : Path}
    (h : ∀ fields, remove p (remove q fields) = remove q (remove p fields)) (v : Value) :
    removeWithin p (removeWithin q v) = removeWithin q (removeWithin p v) := by
  cases v with
  | object fields => exact congrArg Value.object (h fields)
  | array items =>
      simp only [removeWithin, List.map_map, Function.comp_def, mapFields_comp, h]
  | _ => rfl

/-- Removals at paths that do not overlap may change places, also in arrays. -/
theorem remove_comm {p q : Path} (h : ¬Overlap p q) (doc : Document) :
    remove p (remove q doc) = remove q (remove p doc) := by
  induction h using not_overlap_induct generalizing doc with
  | @part key other tail names hname =>
      cases tail with
      | nil =>
          cases names with
          | nil => exact FieldMap.erase_comm doc key other
          | cons next more =>
              rw [remove_cons other (List.cons_ne_nil _ _),
                remove_cons other (List.cons_ne_nil _ _)]
              exact (FieldMap.modify_erase doc (Ne.symm hname) _).symm
      | cons second rest =>
          rw [remove_cons key (List.cons_ne_nil _ _), remove_cons key (List.cons_ne_nil _ _)]
          cases names with
          | nil => exact FieldMap.modify_erase doc hname _
          | cons next more =>
              rw [remove_cons other (List.cons_ne_nil _ _),
                remove_cons other (List.cons_ne_nil _ _)]
              exact FieldMap.modify_comm doc hname _ _
  | @share key tail names _ htail hne ih =>
      have hwithin : removeWithin tail ∘ removeWithin names
          = removeWithin names ∘ removeWithin tail := funext (removeWithin_comm ih)
      rw [remove_cons key htail, remove_cons key hne, remove_cons key hne, remove_cons key htail,
        FieldMap.modify_modify, FieldMap.modify_modify, hwithin]

/-! ## Two writes -/

/-- The objects that the path leads through hold every key once. -/
def KeysAlong : Path → Document → Prop
  | [], _ => True
  | key :: rest, doc => doc.DistinctKeys ∧ KeysAlong rest (fieldsHeld (doc.get? key))

theorem keysAlong_of_wellFormed {doc : Document} (h : (Value.object doc).WellFormed) (p : Path) :
    KeysAlong p doc := by
  induction p generalizing doc with
  | nil => trivial
  | cons key rest ih =>
      refine ⟨(Value.wellFormed_object.mp h).1, ih ?_⟩
      cases hget : doc.get? key with
      | none => exact Value.wellFormed_object.mpr ⟨List.nodup_nil, nofun⟩
      | some held =>
          cases held with
          | object fields => exact h.held hget
          | _ => exact Value.wellFormed_object.mpr ⟨List.nodup_nil, nofun⟩

/-- A write elsewhere does not disturb the objects along a path. -/
theorem KeysAlong.put {p q : Path} (h : ¬Overlap p q) {doc : Document} (hq : KeysAlong q doc)
    (value : Option Value) : KeysAlong q (put p value doc) := by
  induction h using not_overlap_induct generalizing doc with
  | part hname =>
      refine ⟨distinctKeys_put value hq.1, ?_⟩
      rw [get?_put hq.1, if_neg hname]
      exact hq.2
  | share _ htail _ ih =>
      refine ⟨distinctKeys_put value hq.1, ?_⟩
      rw [get?_put hq.1, if_pos rfl, fieldsHeld_putHeld htail]
      exact ih hq.2

theorem relHeld_refl (held : Option Value) : Option.Rel Value.Reordered held held := by
  cases held with
  | none => exact .none
  | some v => exact .some (.refl v)

/-- What is written in either order is alike as soon as the fields below are: a value makes an
object of whatever was held, and two removals leave the same of it. -/
theorem putHeld_comm {p q : Path} (hp : p ≠ []) (hq : q ≠ []) (h : ¬Overlap p q)
    {value later held : Option Value}
    (hput : Value.Reordered (.object (put p value (put q later (fieldsHeld held))))
      (.object (put q later (put p value (fieldsHeld held))))) :
    Option.Rel Value.Reordered (putHeld p value (putHeld q later held))
      (putHeld q later (putHeld p value held)) := by
  cases value with
  | some v =>
      rw [putHeld_some hp, putHeld_some hp, putHeld_object hq, fieldsHeld_putHeld hq]
      exact .some hput
  | none =>
      cases later with
      | some w =>
          rw [putHeld_some hq, putHeld_some hq, putHeld_object hp, fieldsHeld_putHeld hp]
          exact .some hput
      | none =>
          have hremove : removeWithin p ∘ removeWithin q = removeWithin q ∘ removeWithin p :=
            funext (removeWithin_comm (remove_comm h))
          rw [putHeld_none hp, putHeld_none hq, putHeld_none hq, putHeld_none hp, Option.map_map,
            Option.map_map, hremove]
          exact relHeld_refl _

theorem reordered_put_put {p q : Path} {value later : Option Value} {doc : Document}
    (hkeys : doc.DistinctKeys)
    (h : ∀ name, Option.Rel Value.Reordered ((put p value (put q later doc)).get? name)
      ((put q later (put p value doc)).get? name)) :
    Value.Reordered (.object (put p value (put q later doc)))
      (.object (put q later (put p value doc))) :=
  .of_get? (distinctKeys_put _ (distinctKeys_put _ hkeys))
    (distinctKeys_put _ (distinctKeys_put _ hkeys)) h

/-- Writes at paths that do not overlap may change places, up to the order of keys. -/
theorem put_comm {p q : Path} (h : ¬Overlap p q) (value later : Option Value) {doc : Document}
    (hp : KeysAlong p doc) (hq : KeysAlong q doc) :
    Value.Reordered (.object (put p value (put q later doc)))
      (.object (put q later (put p value doc))) := by
  induction h using not_overlap_induct generalizing doc with
  | @part key other tail names hname =>
      have hkeys : doc.DistinctKeys := hp.1
      refine reordered_put_put hkeys fun name => ?_
      rw [get?_put (distinctKeys_put later hkeys), get?_put (distinctKeys_put value hkeys),
        get?_put hkeys, get?_put hkeys]
      by_cases hkey : key = name
      · subst hkey
        rw [if_pos rfl, if_pos rfl, if_neg (Ne.symm hname), if_neg (Ne.symm hname)]
        exact relHeld_refl _
      · rw [if_neg hkey, if_neg hkey]
        exact relHeld_refl _
  | @share key tail names hnames htail hne ih =>
      have hkeys : doc.DistinctKeys := hp.1
      refine reordered_put_put hkeys fun name => ?_
      rw [get?_put (distinctKeys_put later hkeys), get?_put (distinctKeys_put value hkeys),
        get?_put hkeys, get?_put hkeys]
      by_cases hkey : key = name
      · subst hkey
        rw [if_pos rfl, if_pos rfl, if_pos rfl, if_pos rfl]
        -- both go on below the same field
        exact putHeld_comm htail hne hnames (ih hp.2 hq.2)
      · rw [if_neg hkey, if_neg hkey, if_neg hkey, if_neg hkey]
        exact relHeld_refl _

theorem rel_putHeld {p : Path} {value : Option Value}
    (hput : ∀ {fields others : Document}, Value.Reordered (.object fields) (.object others) →
      Value.Reordered (.object (put p value fields)) (.object (put p value others)))
    {held other : Option Value} (h : Option.Rel Value.Reordered held other) :
    Option.Rel Value.Reordered (putHeld p value held) (putHeld p value other) := by
  cases h with
  | none => exact relHeld_refl _
  | some hvw =>
      cases hvw with
      | refl => exact relHeld_refl _
      | object hfields hothers hkeys hvalues =>
          by_cases hp : p = []
          · rw [hp]
            exact relHeld_refl _
          · rw [putHeld_object hp, putHeld_object hp]
            exact .some (hput (.object hfields hothers hkeys hvalues))

/-- Objects that differ in the order of keys differ so after the same write. -/
theorem reordered_put (p : Path) (value : Option Value) {fields others : Document}
    (h : Value.Reordered (.object fields) (.object others)) :
    Value.Reordered (.object (put p value fields)) (.object (put p value others)) := by
  induction p generalizing fields others with
  | nil => cases value <;> exact h
  | cons key tail ih =>
      cases h with
      | refl => exact .refl _
      | object hfields hothers hkeys hvalues =>
          refine .of_get? (distinctKeys_put value hfields) (distinctKeys_put value hothers)
            fun name => ?_
          have hheld := Value.Reordered.get? hkeys hvalues name
          rw [get?_put hfields, get?_put hothers]
          split
          · exact rel_putHeld ih hheld
          · exact hheld

/-! ## Many writes -/

/-- Carries out writes one after the other. -/
def putAll (writes : List (Path × Option Value)) (doc : Document) : Document :=
  writes.foldl (fun doc write => put write.1 write.2 doc) doc

theorem reordered_putAll (writes : List (Path × Option Value)) {fields others : Document}
    (h : Value.Reordered (.object fields) (.object others)) :
    Value.Reordered (.object (putAll writes fields)) (.object (putAll writes others)) := by
  induction writes generalizing fields others with
  | nil => exact h
  | cons write rest ih => exact ih (reordered_put write.1 write.2 h)

/-- **Writes in any order.** Writes at paths of which no two overlap give the same document, up to
the order of keys, in whatever order they are carried out. -/
theorem sortKeys_putAll_perm {writes others : List (Path × Option Value)} (h : writes.Perm others)
    (hapart : writes.Pairwise fun write other => ¬Overlap write.1 other.1) {doc : Document}
    (hkeys : ∀ write ∈ writes, KeysAlong write.1 doc) :
    (Value.object (putAll writes doc)).sortKeys = (Value.object (putAll others doc)).sortKeys := by
  induction h generalizing doc with
  | nil => rfl
  | cons write _ ih =>
      obtain ⟨hwrite, hrest⟩ := List.pairwise_cons.mp hapart
      refine ih hrest fun other hother => ?_
      exact (hkeys other (List.mem_cons_of_mem _ hother)).put (hwrite other hother) write.2
  | swap first second rest =>
      obtain ⟨hsecond, -⟩ := List.pairwise_cons.mp hapart
      have hoverlap := hsecond first (List.mem_cons_self ..)
      have hswap := put_comm (mt overlap_comm.mp hoverlap) first.2 second.2
        (hkeys first (List.mem_cons_of_mem _ (List.mem_cons_self ..)))
        (hkeys second (List.mem_cons_self ..))
      exact (reordered_putAll rest hswap).sortKeys_eq
  | trans hfirst _ ihfirst ihsecond =>
      have hsymm {write other : Path × Option Value} (h : ¬Overlap write.1 other.1) :
          ¬Overlap other.1 write.1 := mt overlap_comm.mp h
      -- the two steps compare different documents, so they meet in their sorted form
      rw [ihfirst hapart hkeys]
      refine ihsecond (hapart.perm hfirst hsymm) fun write hwrite => ?_
      exact hkeys write (hfirst.mem_iff.mpr hwrite)

end DocQuery.Path
