import DocQuery.Proofs.Path.Removal
import DocQuery.Proofs.Path.Repetition
import Mathlib.Data.List.Infix

/-!
# Paths that meet no array

Reading, matching, joining, copying and removing go along a path by recursions of their own, and
what sets them apart is how they cross an array. Along a path of which no proper prefix leads to an
array (`Direct`) they all go the same way: from object to object, up to the last name, or up to a
field that is missing or holds neither an object nor an array.

`Leads` is that way, one constructor for each of the turns it can take. Every direct path has one
(`exists_leads_of_direct`), and what a traversal makes of a path is read off the way by induction on
it, down to what is found at its end (`traversals_agree`).
-/

namespace DocQuery.Path

/-! ## Direct paths -/

/-- No proper prefix of the path leads to an array. -/
def Direct (p : Path) (doc : Value) : Prop :=
  ∀ before, before <+: p → before ≠ p → (resolve before doc).bind Value.items? = none

instance (p : Path) (doc : Value) : Decidable (Direct p doc) :=
  decidable_of_iff (∀ before ∈ p.inits, before ≠ p → (resolve before doc).bind Value.items? = none)
    (forall_congr' fun before => by rw [List.mem_inits])

theorem Direct.not_array {p : Path} {v : Value} (h : Direct p v) (hp : p ≠ []) : v.items? = none :=
  h [] List.nil_prefix hp.symm

/-- Behind its first name a direct path is direct again. -/
theorem Direct.behind {key : String} {rest : Path} {doc : Document} {held : Value}
    (h : Direct (key :: rest) (.object doc)) (hget : doc.get? key = some held) :
    Direct rest held := by
  intro before hpre hne
  have hread := h (key :: before) (List.cons_prefix_cons.mpr ⟨rfl, hpre⟩)
    fun heq => hne (List.cons.inj heq).2
  rw [resolve, readField_object, hget] at hread
  exact hread

/-! ## The way along a direct path -/

/-- From the fields of a document the path leads to `found`, through objects alone: to what the last
name holds, or to nothing if a field before it is missing or holds neither an object nor an
array. -/
inductive Leads : Path → Document → Option Value → Prop
  | last (key : String) (doc : Document) : Leads [key] doc (doc.get? key)
  | missing {key : String} {rest : Path} {doc : Document} (hrest : rest ≠ [])
      (hget : doc.get? key = none) : Leads (key :: rest) doc none
  | blocked {key : String} {rest : Path} {doc : Document} {v : Value} (hrest : rest ≠ [])
      (hget : doc.get? key = some v) (hv : isContainer v = false) : Leads (key :: rest) doc none
  | through {key : String} {rest : Path} {doc fields : Document} {found : Option Value}
      (hrest : rest ≠ []) (hget : doc.get? key = some (.object fields))
      (h : Leads rest fields found) : Leads (key :: rest) doc found

theorem exists_leads_of_direct {p : Path} (hp : p ≠ []) {doc : Document}
    (h : Direct p (.object doc)) : ∃ found, Leads p doc found := by
  induction p generalizing doc with
  | nil => exact absurd rfl hp
  | cons key rest ih =>
      by_cases hrest : rest = []
      · subst hrest
        exact ⟨_, .last key doc⟩
      · cases hget : doc.get? key with
        | none => exact ⟨_, .missing hrest hget⟩
        | some held =>
            have hheld := h.behind hget
            cases held with
            | object fields =>
                obtain ⟨found, hfound⟩ := ih hrest hheld
                exact ⟨found, .through hrest hget hfound⟩
            | array items => cases hheld.not_array hrest
            | _ => exact ⟨_, .blocked hrest hget rfl⟩

section Scalars

/-! Below a value that is neither an object nor an array there is nothing. -/

variable {p : Path} {v : Value}

theorem resolve_of_not_container (hp : p ≠ []) (hv : isContainer v = false) :
    resolve p v = none := by
  obtain ⟨key, rest, rfl⟩ := List.exists_cons_of_ne_nil hp
  cases v <;> first | rfl | cases hv

theorem flatten_of_not_container (hp : p ≠ []) (hv : isContainer v = false) : flatten p v = [] := by
  obtain ⟨key, rest, rfl⟩ := List.exists_cons_of_ne_nil hp
  cases v <;> first | rfl | cases hv

theorem candidates_of_not_container (hp : p ≠ []) (hv : isContainer v = false) :
    candidates p v = [] := by
  match p, hp with
  | [key], _ => cases v <;> first | rfl | cases hv
  | key :: next :: rest, _ => cases v <;> first | rfl | cases hv

theorem removeWithin_of_not_container (hv : isContainer v = false) : removeWithin p v = v := by
  cases v <;> first | rfl | cases hv

end Scalars

/-! ## The traversals -/

/-- Matching goes on in what a field holds, unless that is an array. -/
theorem candidates_cons {key : String} {rest : Path} (hrest : rest ≠ []) {doc : Document}
    {held : Value} (hget : doc.get? key = some held) (hheld : held.items? = none) :
    candidates (key :: rest) (.object doc) = candidates rest held := by
  obtain ⟨next, more, rfl⟩ := List.exists_cons_of_ne_nil hrest
  rw [candidates, Value.fields?, Option.bind_some, hget]
  cases held <;> first | rfl | cases hheld

/-- What a field of an empty target receives. -/
theorem get?_copy_empty (key : String) (tail : Path) (src : Document) :
    (copy (key :: tail) src []).get? key
      = (src.get? key).bind fun held => receive tail held none := by
  cases hget : src.get? key with
  | none =>
      rw [copy_of_missing hget]
      rfl
  | some held => exact get?_copy_of_get? hget tail

section Leads

variable {p : Path} {doc : Document} {found : Option Value}

theorem Leads.resolve_eq (h : Leads p doc found) : resolve p (.object doc) = found := by
  induction h with
  | last key doc =>
      rw [resolve, readField_object]
      exact Option.bind_fun_some _
  | missing _ hget => rw [resolve, readField_object, hget, Option.bind_none]
  | blocked hrest hget hv =>
      rw [resolve, readField_object, hget, Option.bind_some, resolve_of_not_container hrest hv]
  | through _ hget _ ih =>
      rw [resolve, readField_object, hget]
      exact ih

theorem Leads.candidates_eq (h : Leads p doc found) :
    candidates p (.object doc) = (found.map withItems).getD [] := by
  induction h with
  | last key doc => exact candidates_field key doc
  | missing hrest hget =>
      obtain ⟨next, more, rfl⟩ := List.exists_cons_of_ne_nil hrest
      rw [candidates, Value.fields?, Option.bind_some, hget]
      rfl
  | @blocked _ _ _ v hrest hget hv =>
      have hitems : v.items? = none := by cases v <;> first | rfl | cases hv
      rw [candidates_cons hrest hget hitems]
      exact candidates_of_not_container hrest hv
  | through hrest hget _ ih =>
      rw [candidates_cons hrest hget rfl]
      exact ih

theorem Leads.flatten_eq (h : Leads p doc found) :
    flatten p (.object doc) = (found.map opened).getD [] := by
  induction h with
  | last key doc => exact flatten_field key doc
  | missing _ hget =>
      rw [flatten, gatherField_object, hget]
      rfl
  | blocked hrest hget hv =>
      rw [flatten, gatherField_object, hget, Option.map_some, flatten_of_not_container hrest hv]
      rfl
  | through _ hget _ ih =>
      rw [flatten, gatherField_object, hget]
      exact ih

theorem Leads.resolve_copy (h : Leads p doc found) :
    resolve p (.object (copy p doc [])) = found := by
  induction h with
  | last key doc =>
      rw [resolve, readField_object, get?_copy_empty]
      cases doc.get? key <;> rfl
  | missing _ hget =>
      rw [resolve, readField_object, get?_copy_empty, hget]
      rfl
  | blocked hrest hget hv =>
      rw [resolve, readField_object, get?_copy_empty, hget, Option.bind_some,
        receive_of_not_container hv hrest]
      rfl
  | through hrest hget _ ih =>
      rw [resolve, readField_object, get?_copy_empty, hget, Option.bind_some,
        receive_of_ne_nil hrest]
      exact ih

theorem Leads.resolve_remove (h : Leads p doc found) (hdoc : (Value.object doc).WellFormed) :
    resolve p (.object (remove p doc)) = none := by
  induction h with
  | last key doc =>
      rw [resolve, readField_object, get?_remove_last hdoc]
      rfl
  | missing hrest hget =>
      rw [resolve, readField_object, get?_remove_self _ hrest, hget]
      rfl
  | blocked hrest hget hv =>
      rw [resolve, readField_object, get?_remove_self _ hrest, hget, Option.map_some,
        removeWithin_of_not_container hv]
      exact resolve_of_not_container hrest hv
  | through hrest hget _ ih =>
      rw [resolve, readField_object, get?_remove_self _ hrest, hget]
      exact ih (hdoc.held hget)

/-- Where the path leads to nothing there is nothing to remove. -/
theorem Leads.remove_eq_self (h : Leads p doc found) (hfound : found = none) :
    remove p doc = doc := by
  induction h with
  | last key doc => exact FieldMap.erase_of_get?_eq_none hfound
  | missing _ hget => exact remove_of_missing hget _
  | blocked hrest hget hv =>
      rw [remove_cons _ hrest, FieldMap.modify_of_get? hget, removeWithin_of_not_container hv,
        FieldMap.insert_of_get? hget]
  | through hrest hget _ ih =>
      rw [remove_cons _ hrest, FieldMap.modify_of_get? hget, removeWithin, ih hfound,
        FieldMap.insert_of_get? hget]

end Leads

/-- **The traversals agree away from arrays.** Let no proper prefix of a path lead to an array. If a
value is read there, it is what a condition is tried on, followed by its items if it is an array; it
is the key of a join, or its items are; a copy into an empty object holds it at the path; and after
a removal nothing is read there. If nothing is read there, a condition is tried on nothing, a join
has no key, a copy holds nothing at the path, and a removal changes nothing. -/
theorem traversals_agree (dotted : String) {doc : Document} (hdoc : (Value.object doc).WellFormed)
    (h : Direct (parse dotted) (.object doc)) :
    let p := parse dotted
    (∀ v, resolve p (.object doc) = some v →
      candidates p (.object doc) = v :: v.items?.getD [] ∧
      flatten p (.object doc) = v.items?.getD [v] ∧
      resolve p (.object (copy p doc [])) = some v ∧
      resolve p (.object (remove p doc)) = none) ∧
    (resolve p (.object doc) = none →
      candidates p (.object doc) = [] ∧ flatten p (.object doc) = [] ∧
      resolve p (.object (copy p doc [])) = none ∧ remove p doc = doc) := by
  intro p
  obtain ⟨found, hleads⟩ := exists_leads_of_direct (parse_ne_nil dotted) h
  have hread : resolve p (.object doc) = found := hleads.resolve_eq
  rw [hread, hleads.candidates_eq, hleads.flatten_eq, hleads.resolve_copy,
    hleads.resolve_remove hdoc]
  constructor
  · rintro v rfl
    refine ⟨?_, ?_, rfl, rfl⟩
    · cases v <;> rfl
    · cases v <;> rfl
  · rintro rfl
    exact ⟨rfl, rfl, rfl, hleads.remove_eq_self rfl⟩

/-- A profile with an array at the end of a path and a null in the way of another. -/
def profile : Document :=
  [("name", .string "Ada"),
    ("home", .object [("rooms", .array [.string "hall", .null]), ("zip", .null)])]

theorem traversals_agree_profile :
    (Value.object profile).WellFormed ∧
    Direct (parse "home.rooms") (.object profile) ∧
    candidates (parse "home.rooms") (.object profile)
      = [.array [.string "hall", .null], .string "hall", .null] ∧
    flatten (parse "home.rooms") (.object profile) = [.string "hall", .null] ∧
    resolve (parse "home.rooms") (.object (copy (parse "home.rooms") profile []))
      = some (.array [.string "hall", .null]) ∧
    resolve (parse "home.rooms") (.object (remove (parse "home.rooms") profile)) = none ∧
    Direct (parse "home.zip.area") (.object profile) ∧
    candidates (parse "home.zip.area") (.object profile) = [] ∧
    flatten (parse "home.zip.area") (.object profile) = [] ∧
    resolve (parse "home.zip.area") (.object (copy (parse "home.zip.area") profile [])) = none ∧
    remove (parse "home.zip.area") profile = profile := by
  have hdoc : (Value.object profile).WellFormed := by decide
  have hroomsPath : parse "home.rooms" = ["home", "rooms"] := rfl
  have hareaPath : parse "home.zip.area" = ["home", "zip", "area"] := rfl
  have hrooms : Direct (parse "home.rooms") (.object profile) := by
    rw [hroomsPath]
    decide
  have harea : Direct (parse "home.zip.area") (.object profile) := by
    rw [hareaPath]
    decide
  have hfound : resolve (parse "home.rooms") (.object profile)
      = some (.array [.string "hall", .null]) := by
    rw [hroomsPath]
    rfl
  have hmissing : resolve (parse "home.zip.area") (.object profile) = none := by
    rw [hareaPath]
    rfl
  obtain ⟨hcandidates, hkeys, hcopy, hremove⟩ := (traversals_agree _ hdoc hrooms).1 _ hfound
  have hnothing := (traversals_agree _ hdoc harea).2 hmissing
  exact ⟨hdoc, hrooms, hcandidates, hkeys, hcopy, hremove, harea, hnothing⟩

end DocQuery.Path
