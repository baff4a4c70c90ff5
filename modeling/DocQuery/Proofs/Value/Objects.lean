import DocQuery.Value.Basic

/-!
# Objects

Documents are objects in which every key stands once. A list of objects is the list of their fields
(`eq_map_object`), and what changes the fields of an object leaves an object.
-/

namespace DocQuery.Value

/-- An object in which every key stands once. -/
def IsDocument : Value → Prop
  | .object fields => FieldMap.DistinctKeys fields
  | _ => False

instance : (v : Value) → Decidable v.IsDocument
  | .object fields => inferInstanceAs (Decidable (FieldMap.DistinctKeys fields))
  | .null => inferInstanceAs (Decidable False)
  | .bool _ => inferInstanceAs (Decidable False)
  | .number _ => inferInstanceAs (Decidable False)
  | .string _ => inferInstanceAs (Decidable False)
  | .array _ => inferInstanceAs (Decidable False)

theorem isObject_iff {v : Value} : v.isObject = true ↔ ∃ fields, v = .object fields := by
  cases v <;> simp [isObject]

theorem IsDocument.eq_object {v : Value} (h : v.IsDocument) :
    ∃ fields, v = .object fields ∧ FieldMap.DistinctKeys fields := by
  cases v with
  | object fields => exact ⟨fields, rfl, h⟩
  | _ => exact h.elim

@[simp] theorem isObject_mapFields (f : Document → Document) (v : Value) :
    (v.mapFields f).isObject = v.isObject := by
  cases v <;> rfl

theorem fields?_eq_some {v : Value} {fields : Document} :
    v.fields? = some fields ↔ v = .object fields := by
  cases v <;> simp [fields?]

theorem filterMap_fields?_map_object (rows : List Document) :
    (rows.map Value.object).filterMap Value.fields? = rows := by
  induction rows with
  | nil => rfl
  | cons row rest ih => simp [fields?, ih]

theorem filterMap_fields?_mapFields (f : Document → Document) (vs : List Value) :
    (vs.map (Value.mapFields f)).filterMap Value.fields? = (vs.filterMap Value.fields?).map f := by
  induction vs with
  | nil => rfl
  | cons v rest ih =>
      cases v with
      | object fields => exact congrArg (f fields :: ·) ih
      | _ => exact ih

/-- A list of objects is the list of their fields. -/
theorem eq_map_object {vs : List Value} (h : ∀ v ∈ vs, v.isObject = true) :
    vs = (vs.filterMap Value.fields?).map Value.object := by
  induction vs with
  | nil => rfl
  | cons v rest ih =>
      obtain ⟨fields, rfl⟩ := isObject_iff.mp (h v (List.mem_cons_self ..))
      have hrest := ih fun w hw => h w (List.mem_cons_of_mem _ hw)
      simpa [fields?] using hrest

end DocQuery.Value
