import DocQuery.Ordering
import DocQuery.Proofs.FieldMap

/-!
# Field maps as ordered maps

A collected map is known by two things that come from different places in the list of pairs. A key
stands where it first occurs, and has the value that it last has (`LastValue`). Both are kept apart
through merging: the keys of a merged map are those of the first, followed by the new ones, while
the values of the second win.

So maps that are built by inserting, merging and collecting form a monoid under merging, collecting
turns the concatenation of lists into it, and a map absorbs whatever it holds already
(`merge_of_forall_get?`), itself first of all.
-/

namespace DocQuery.FieldMap

variable {α : Type u} {m : FieldMap α} {pairs : List (String × α)} {key : String} {value : α}

/-- The last pair with the key has the value. -/
def LastValue (pairs : List (String × α)) (key : String) (value : α) : Prop :=
  ∃ before after, pairs = before ++ (key, value) :: after ∧ key ∉ keys after

theorem lastValue_iff_lookup :
    LastValue pairs key value ↔ pairs.reverse.lookup key = some value := by
  rw [List.lookup_eq_some_iff]
  constructor
  · rintro ⟨before, after, rfl, hafter⟩
    refine ⟨after.reverse, before.reverse, by simp, fun entry hentry => ?_⟩
    rw [bne_iff_ne]
    rintro rfl
    exact hafter (List.mem_map.mpr ⟨entry, List.mem_reverse.mp hentry, rfl⟩)
  · rintro ⟨later, earlier, hpairs, hlater⟩
    refine ⟨earlier.reverse, later.reverse, ?_, fun hkey => ?_⟩
    · rw [← List.reverse_reverse pairs, hpairs]
      simp
    · obtain ⟨entry, hentry, rfl⟩ := List.mem_map.mp hkey
      exact bne_iff_ne.mp (hlater entry (List.mem_reverse.mp hentry)) rfl

theorem get?_collect_eq_some_iff :
    (collect pairs).get? key = some value ↔ LastValue pairs key value := by
  rw [get?_collect, lastValue_iff_lookup]

theorem get?_eq_some_iff (h : m.DistinctKeys) : m.get? key = some value ↔ (key, value) ∈ m :=
  ⟨mem_of_get?, get?_of_mem h⟩

/-- Merging what is there already changes nothing. -/
theorem merge_of_forall_get? {other : FieldMap α}
    (h : ∀ entry ∈ other, m.get? entry.1 = some entry.2) :
    m.merge other = m := by
  induction other with
  | nil => rfl
  | cons entry rest ih =>
      obtain ⟨hentry, hrest⟩ := List.forall_mem_cons.mp h
      rw [merge_cons, insert_of_get? hentry]
      exact ih hrest

/-- **Field maps are ordered maps with an associative merge.** A collected map has every key once,
in the order of first occurrence and with the value that the key has last, and looking a key up
finds this value. Collecting a list in two parts is merging the collected parts. For maps built by
inserting, merging and collecting, merging is associative, the empty map is its unit on both sides,
and a map that is merged into itself stays as it is. -/
theorem field_maps_form_monoid (α : Type u) :
    (∀ pairs : List (String × α),
      (collect pairs).DistinctKeys ∧ (collect pairs).keys = (keys pairs).eraseDups ∧
      (∀ key value, (key, value) ∈ collect pairs ↔ LastValue pairs key value) ∧
      ∀ key value, (collect pairs).get? key = some value ↔ (key, value) ∈ collect pairs) ∧
    (∀ first rest : List (String × α),
      collect (first ++ rest) = (collect first).merge (collect rest)) ∧
    (∀ m other last : FieldMap α, m.Built → other.Built → last.Built →
      (m.merge other).merge last = m.merge (other.merge last)) ∧
    ∀ m : FieldMap α, m.Built → merge [] m = m ∧ m.merge [] = m ∧ m.merge m = m := by
  refine ⟨fun pairs => ?_, collect_append, fun m other last _ hother _ => ?_, fun m hm => ?_⟩
  · have hdistinct := distinctKeys_collect pairs
    refine ⟨hdistinct, keys_collect pairs, fun key value => ?_,
      fun key value => get?_eq_some_iff hdistinct⟩
    rw [← get?_eq_some_iff hdistinct, get?_collect_eq_some_iff]
  · exact merge_assoc m (built_iff_distinctKeys.mp hother) last
  · have hdistinct := built_iff_distinctKeys.mp hm
    exact ⟨merge_nil_left hdistinct, merge_nil m,
      merge_of_forall_get? fun _ hentry => get?_of_mem hdistinct hentry⟩

/-- An order in which one field is named twice. -/
def namedTwice : List (String × Direction) :=
  [("createdAt", .descending), ("name", .ascending), ("createdAt", .ascending)]

/-- A later order that names a field of it again. -/
def namedAgain : List (String × Direction) := [("team", .descending), ("name", .descending)]

theorem field_maps_form_monoid_directions :
    (collect namedTwice).keys = ["createdAt", "name"] ∧
    (collect namedTwice).get? "createdAt" = some .ascending ∧
    collect (namedTwice ++ namedAgain) = (collect namedTwice).merge (collect namedAgain) ∧
    (collect namedTwice).Built ∧ (collect namedAgain).Built ∧
    ((collect namedTwice).merge (collect namedAgain)).merge (collect namedTwice)
      = (collect namedTwice).merge ((collect namedAgain).merge (collect namedTwice)) ∧
    (collect namedTwice).merge (collect namedTwice) = collect namedTwice := by
  obtain ⟨hcollect, happend, hassoc, hself⟩ := field_maps_form_monoid Direction
  obtain ⟨-, hkeys, hentries, hget⟩ := hcollect namedTwice
  have hlast : LastValue namedTwice "createdAt" .ascending :=
    ⟨[("createdAt", .descending), ("name", .ascending)], [], rfl, by decide⟩
  have htwice : (collect namedTwice).Built := .collect _
  have hagain : (collect namedAgain).Built := .collect _
  exact ⟨hkeys.trans (by decide), (hget _ _).mpr ((hentries _ _).mpr hlast), happend _ _,
    htwice, hagain, hassoc _ _ _ htwice hagain htwice, (hself _ htwice).2.2⟩

end DocQuery.FieldMap
