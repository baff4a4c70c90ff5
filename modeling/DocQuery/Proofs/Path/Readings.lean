import DocQuery.Path.Read
import DocQuery.Path.Write
import DocQuery.Proofs.FieldMap
import DocQuery.Proofs.Path.Segments

/-!
# How the readings of a path agree

`resolve` gives an array whenever it crosses one, so a value that is none was reached through
objects alone. There the three readings see the same value: `flatten` and `candidates` give it and
nothing else.

A reading of a document looks at one of its fields only, the one that the path begins with
(`resolve_of_get?_head`, `candidates_of_get?_head`). What was written at a path is read back there
(`resolve_set`).
-/

namespace DocQuery.Path

@[simp] theorem readField_object (key : String) (next : Value → Option Value) (fields : Document) :
    readField key next (.object fields) = (fields.get? key).bind next := by
  rw [readField]

@[simp] theorem gatherField_object (key : String) (next : Value → List Value) (fields : Document) :
    gatherField key next (.object fields) = ((fields.get? key).map next).getD [] := by
  rw [gatherField]

theorem gatherFieldOfItems_eq (key : String) (next : Value → List Value) (items : List Value) :
    gatherFieldOfItems key next items = items.flatMap (gatherField key next) := by
  induction items with
  | nil => rw [gatherFieldOfItems, List.flatMap_nil]
  | cons item rest ih => rw [gatherFieldOfItems, List.flatMap_cons, ih]

@[simp] theorem gatherField_array (key : String) (next : Value → List Value) (items : List Value) :
    gatherField key next (.array items) = items.flatMap (gatherField key next) := by
  rw [gatherField, gatherFieldOfItems_eq]

theorem readFieldOfItems_eq (key : String) (next : Value → Option Value) (items : List Value) :
    readFieldOfItems key next items = items.filterMap (readField key next) := by
  induction items with
  | nil => rfl
  | cons item rest ih =>
      rw [readFieldOfItems, List.filterMap_cons]
      cases readField key next item with
      | none => exact ih
      | some v => exact congrArg (v :: ·) ih

@[simp] theorem readField_array (key : String) (next : Value → Option Value) (items : List Value) :
    readField key next (.array items) = some (.array (items.filterMap (readField key next))) := by
  rw [readField, readFieldOfItems_eq]

theorem opened_of_not_array {v : Value} (hv : v.items? = none) : opened v = [v] := by
  cases v <;> first | rfl | cases hv

theorem withItems_of_not_array {v : Value} (hv : v.items? = none) : withItems v = [v] := by
  cases v <;> first | rfl | cases hv

/-- A field whose reading is no array was read from an object. -/
theorem readField_eq_some {key : String} {next : Value → Option Value} {doc v : Value}
    (h : readField key next doc = some v) (hv : v.items? = none) :
    ∃ fields found, doc = .object fields ∧ FieldMap.get? fields key = some found
      ∧ next found = some v := by
  cases doc with
  | object fields =>
      rw [readField_object] at h
      obtain ⟨found, hget, hnext⟩ := Option.bind_eq_some_iff.mp h
      exact ⟨fields, found, rfl, hget, hnext⟩
  | array items =>
      rw [readField] at h
      obtain rfl := Option.some.inj h
      cases hv
  | null => simp [readField] at h
  | bool b => simp [readField] at h
  | number n => simp [readField] at h
  | string s => simp [readField] at h

theorem flatten_of_resolve {p : Path} {doc v : Value} (h : resolve p doc = some v)
    (hv : v.items? = none) : flatten p doc = [v] := by
  induction p generalizing doc with
  | nil =>
      obtain rfl := Option.some.inj h
      exact opened_of_not_array hv
  | cons key rest ih =>
      obtain ⟨fields, found, rfl, hget, hnext⟩ := readField_eq_some h hv
      rw [flatten, gatherField_object, hget]
      exact ih hnext

theorem candidates_of_resolve {p : Path} {doc v : Value} (h : resolve p doc = some v)
    (hv : v.items? = none) : candidates p doc = [v] := by
  induction p generalizing doc with
  | nil =>
      obtain rfl := Option.some.inj h
      exact withItems_of_not_array hv
  | cons key rest ih =>
      obtain ⟨fields, found, rfl, hget, hnext⟩ := readField_eq_some h hv
      cases rest with
      | nil =>
          obtain rfl := Option.some.inj hnext
          simpa [candidates, Value.fields?, hget] using withItems_of_not_array hv
      | cons next rest =>
          -- the value on the way is an object again: an array would be read as one
          obtain ⟨inner, -, rfl, -, -⟩ := readField_eq_some hnext hv
          simpa [candidates, Value.fields?, hget] using ih hnext

/-! ## One field -/

@[simp] theorem flatten_field (field : String) (doc : Document) :
    flatten [field] (.object doc) = ((doc.get? field).map opened).getD [] := by
  rw [flatten, gatherField_object]
  rfl

@[simp] theorem candidates_field (field : String) (doc : Document) :
    candidates [field] (.object doc) = ((doc.get? field).map withItems).getD [] := by
  rw [candidates, Value.fields?, Option.bind_some]
  cases doc.get? field <;> rfl

/-! ## The field that a path begins with -/

section Head

variable {doc doc' : Document} {dotted : String}

theorem resolve_of_get?_head (h : doc.get? (head dotted) = doc'.get? (head dotted)) :
    resolve (parse dotted) (.object doc) = resolve (parse dotted) (.object doc') := by
  obtain ⟨key, rest, hpath⟩ := List.exists_cons_of_ne_nil (parse_ne_nil dotted)
  rw [head, hpath, List.headD_cons] at h
  rw [hpath, resolve, readField_object, readField_object, h]

theorem candidates_of_get?_head (h : doc.get? (head dotted) = doc'.get? (head dotted)) :
    candidates (parse dotted) (.object doc) = candidates (parse dotted) (.object doc') := by
  obtain ⟨key, rest, hpath⟩ := List.exists_cons_of_ne_nil (parse_ne_nil dotted)
  rw [head, hpath, List.headD_cons] at h
  rw [hpath]
  cases rest with
  | nil => simp only [candidates, Value.fields?, Option.bind_some, h]
  | cons next rest => simp only [candidates, Value.fields?, Option.bind_some, h]

end Head

/-! ## What was written -/

theorem resolve_set {p : Path} (hp : p ≠ []) (value : Value) (doc : Document) :
    resolve p (.object (set p value doc)) = some value := by
  induction p generalizing doc with
  | nil => exact absurd rfl hp
  | cons key rest ih =>
      cases rest with
      | nil => rw [set, resolve, readField_object, FieldMap.get?_insert_self]; rfl
      | cons next rest =>
          rw [set, resolve, readField_object, FieldMap.get?_insert_self, Option.bind_some]
          exact ih (List.cons_ne_nil _ _) _

end DocQuery.Path
