import DocQuery.Proofs.Path.Direct

/-!
# Laws of a write

A write along a path makes an object of every parent that is none, so what it wrote is read back at
the path (`resolve_set`), and of two writes at one path only the later one shows, in the order of
keys as well (`set_set`).

Elsewhere a write leaves the readings alone (`resolve_set_of_not_overlap`), with one proviso: an
array that stands in the way of the write is replaced like any other value, while a reading would
have gone into its items. A scalar in the way may be replaced unseen, since nothing was read below
it: for a reader it is the empty object that takes its place (`resolve_fieldsUnder`).
-/

namespace DocQuery.Path

variable {key : String} {p q rest : Path} {doc : Document}

/-! ## At the path -/

theorem set_cons (key : String) (hrest : rest ≠ []) (value : Value) (doc : Document) :
    set (key :: rest) value doc
      = doc.insert key (.object (set rest value (fieldsUnder doc key))) := by
  obtain ⟨next, more, rfl⟩ := List.exists_cons_of_ne_nil hrest
  rfl

theorem get?_set_of_ne {other : String} (h : key ≠ other) (rest : Path) (value : Value)
    (doc : Document) : (set (key :: rest) value doc).get? other = doc.get? other := by
  cases rest <;> exact FieldMap.get?_insert_of_ne doc h _

theorem fieldsUnder_insert_self (doc : Document) (key : String) (fields : Document) :
    fieldsUnder (doc.insert key (.object fields)) key = fields := by
  rw [fieldsUnder, FieldMap.get?_insert_self]
  rfl

/-- The second of two writes at a path decides. -/
theorem set_set (p : Path) (value later : Value) (doc : Document) :
    set p later (set p value doc) = set p later doc := by
  induction p generalizing doc with
  | nil => rfl
  | cons key rest ih =>
      by_cases hrest : rest = []
      · subst hrest
        exact FieldMap.insert_insert doc key value later
      · rw [set_cons key hrest, set_cons key hrest, set_cons key hrest, fieldsUnder_insert_self, ih,
          FieldMap.insert_insert]

/-! ## Elsewhere -/

theorem direct_empty (p : Path) : Direct p (.object []) := by
  intro before _ _
  cases before <;> rfl

/-- A write that goes on below a field finds no array there. -/
theorem Direct.fieldsUnder (h : Direct (key :: rest) (.object doc)) :
    Direct rest (.object (fieldsUnder doc key)) := by
  unfold Path.fieldsUnder
  cases hget : doc.get? key with
  | none => exact direct_empty rest
  | some held =>
      cases held with
      | object fields => exact h.behind hget
      | _ => exact direct_empty rest

/-- What a write finds below a field reads like the field, unless that holds an array. -/
theorem resolve_fieldsUnder (hq : q ≠ []) (h : (doc.get? key).bind Value.items? = none) :
    resolve q (.object (fieldsUnder doc key)) = (doc.get? key).bind (resolve q) := by
  obtain ⟨name, names, rfl⟩ := List.exists_cons_of_ne_nil hq
  unfold fieldsUnder
  cases hget : doc.get? key with
  | none => rfl
  | some held =>
      rw [hget] at h
      cases held <;> first | rfl | cases h

theorem Direct.get?_not_array (h : Direct (key :: rest) (.object doc)) (hrest : rest ≠ []) :
    (doc.get? key).bind Value.items? = none := by
  cases hget : doc.get? key with
  | none => rfl
  | some held => exact (h.behind hget).not_array hrest

/-- A write that meets no array leaves what is read at a path which does not overlap its own. -/
theorem resolve_set_of_not_overlap (h : ¬Overlap p q) (hdoc : Direct p (.object doc))
    (value : Value) :
    resolve q (.object (set p value doc)) = resolve q (.object doc) := by
  induction h using not_overlap_induct generalizing doc with
  | part hname => rw [resolve, readField_object, readField_object, get?_set_of_ne hname]
  | @share key rest names _ hrest hne ih =>
      calc resolve (key :: names) (.object (set (key :: rest) value doc))
          = resolve names (.object (set rest value (fieldsUnder doc key))) := by
            rw [set_cons key hrest, resolve, readField_object, FieldMap.get?_insert_self,
              Option.bind_some]
        _ = resolve names (.object (fieldsUnder doc key)) := ih hdoc.fieldsUnder
        _ = (doc.get? key).bind (resolve names) :=
            resolve_fieldsUnder hne (hdoc.get?_not_array hrest)
        _ = resolve (key :: names) (.object doc) := by rw [resolve, readField_object]

/-- Behind an array in the way of the write nothing is left to read. -/
example : resolve ["posts", "title"]
    (.object (set ["posts", "likes"] (.ofInt 1) [("posts", .array [.object [("title", .null)]])]))
      = none := rfl

/-- **A write and a reading obey the laws of a lens.** What was written at a path is read there, and
a second write at the path leaves no trace of the first. What is read at a path that is no prefix of
the written one, nor the other way round, stays as it was if the write meets no array. -/
theorem writes_obey_lens_laws (written other : String) (value later : Value) (doc : Document) :
    resolve (parse written) (.object (set (parse written) value doc)) = some value ∧
    set (parse written) later (set (parse written) value doc) = set (parse written) later doc ∧
    (¬Overlap (parse written) (parse other) → Direct (parse written) (.object doc) →
      resolve (parse other) (.object (set (parse written) value doc))
        = resolve (parse other) (.object doc)) :=
  ⟨resolve_set (parse_ne_nil written) value doc, set_set _ value later doc,
    fun hoverlap hdirect => resolve_set_of_not_overlap hoverlap hdirect value⟩

/-- A visitor whose level is a number and whose home has no street. -/
def visitor : Document := [("level", .ofInt 4), ("home", .object [("city", .string "Oslo")])]

/-- Parents that are replaced and parents that are made, one of them without a name. -/
theorem writes_obey_lens_laws_visitor :
    ¬Overlap (parse "level.now") (parse "level.before") ∧
    Direct (parse "level.now") (.object visitor) ∧
    resolve (parse "level.before") (.object (set (parse "level.now") .null visitor)) = none ∧
    ¬Overlap (parse "home..street") (parse "home.city") ∧
    Direct (parse "home..street") (.object visitor) ∧
    resolve (parse "home.city") (.object (set (parse "home..street") .null visitor))
      = some (.string "Oslo") ∧
    resolve (parse "home..street") (.object (set (parse "home..street") .null visitor))
      = some .null ∧
    set (parse "home..street") (.bool true) (set (parse "home..street") .null visitor)
      = set (parse "home..street") (.bool true) visitor := by
  have hnowPath : parse "level.now" = ["level", "now"] := rfl
  have hbeforePath : parse "level.before" = ["level", "before"] := rfl
  have hstreetPath : parse "home..street" = ["home", "", "street"] := rfl
  have hcityPath : parse "home.city" = ["home", "city"] := rfl
  have hlevels : ¬Overlap (parse "level.now") (parse "level.before") := by
    rw [hnowPath, hbeforePath]
    decide
  have hlevel : Direct (parse "level.now") (.object visitor) := by
    rw [hnowPath]
    decide
  have hhomes : ¬Overlap (parse "home..street") (parse "home.city") := by
    rw [hstreetPath, hcityPath]
    decide
  have hhome : Direct (parse "home..street") (.object visitor) := by
    rw [hstreetPath]
    decide
  have hmissing : resolve (parse "level.before") (.object visitor) = none := by
    rw [hbeforePath]
    rfl
  have hcity : resolve (parse "home.city") (.object visitor) = some (.string "Oslo") := by
    rw [hcityPath]
    rfl
  obtain ⟨-, -, hbefore⟩ :=
    writes_obey_lens_laws "level.now" "level.before" .null (.bool true) visitor
  obtain ⟨hread, hagain, hkept⟩ :=
    writes_obey_lens_laws "home..street" "home.city" .null (.bool true) visitor
  exact ⟨hlevels, hlevel, (hbefore hlevels hlevel).trans hmissing, hhomes, hhome,
    (hkept hhomes hhome).trans hcity, hread, hagain⟩

end DocQuery.Path
