import DocQuery.Value.Basic
import DocQuery.Proofs.FieldMap

/-!
# Well-formed values

A value is well-formed when every object in it, at whatever depth, holds every key once. The type of
values is wider than that: in an object with a repeated key a lookup sees the first entry only, and
the second one comes to light when the first is removed.
-/

namespace DocQuery.Value

mutual

/-- Every object in the value holds every key once. -/
def WellFormed : Value → Prop
  | .array items => WellFormedItems items
  | .object fields => FieldMap.DistinctKeys fields ∧ WellFormedFields fields
  | _ => True
termination_by structural v => v

/-- All the items are well-formed. -/
def WellFormedItems : List Value → Prop
  | [] => True
  | item :: rest => WellFormed item ∧ WellFormedItems rest
termination_by structural items => items

/-- The values of all the fields are well-formed. -/
def WellFormedFields : List (String × Value) → Prop
  | [] => True
  | (_, v) :: rest => WellFormed v ∧ WellFormedFields rest
termination_by structural fields => fields

end

mutual

/-- Whether a value is well-formed can be decided. -/
def decideWellFormed : (v : Value) → Decidable v.WellFormed
  | .null => inferInstanceAs (Decidable True)
  | .bool _ => inferInstanceAs (Decidable True)
  | .number _ => inferInstanceAs (Decidable True)
  | .string _ => inferInstanceAs (Decidable True)
  | .array items => decideWellFormedItems items
  | .object fields => @instDecidableAnd _ _ inferInstance (decideWellFormedFields fields)
termination_by structural v => v

/-- Whether all the items are well-formed can be decided. -/
def decideWellFormedItems : (items : List Value) → Decidable (WellFormedItems items)
  | [] => inferInstanceAs (Decidable True)
  | item :: rest => @instDecidableAnd _ _ (decideWellFormed item) (decideWellFormedItems rest)
termination_by structural items => items

/-- Whether the values of all the fields are well-formed can be decided. -/
def decideWellFormedFields : (fields : List (String × Value)) → Decidable (WellFormedFields fields)
  | [] => inferInstanceAs (Decidable True)
  | (_, v) :: rest => @instDecidableAnd _ _ (decideWellFormed v) (decideWellFormedFields rest)
termination_by structural fields => fields

end

instance : DecidablePred WellFormed := decideWellFormed

theorem wellFormedItems_iff {items : List Value} :
    WellFormedItems items ↔ ∀ item ∈ items, item.WellFormed := by
  induction items with
  | nil => simp [WellFormedItems]
  | cons item rest ih => simp [WellFormedItems, ih]

theorem wellFormedFields_iff {fields : Document} :
    WellFormedFields fields ↔ ∀ entry ∈ fields, entry.2.WellFormed := by
  induction fields with
  | nil => simp [WellFormedFields]
  | cons entry rest ih => simp [WellFormedFields, ih]

theorem wellFormed_array {items : List Value} :
    (Value.array items).WellFormed ↔ ∀ item ∈ items, item.WellFormed := by
  rw [WellFormed, wellFormedItems_iff]

theorem wellFormed_object {fields : Document} :
    (Value.object fields).WellFormed
      ↔ fields.DistinctKeys ∧ ∀ entry ∈ fields, entry.2.WellFormed := by
  rw [WellFormed, wellFormedFields_iff]

/-- What a well-formed object holds is well-formed. -/
theorem WellFormed.held {fields : Document} (h : (Value.object fields).WellFormed) {key : String}
    {v : Value} (hget : fields.get? key = some v) : v.WellFormed :=
  (wellFormed_object.mp h).2 _ (FieldMap.mem_of_get? hget)

/-- Writing a well-formed value, or removing a key, leaves a well-formed object. -/
theorem WellFormed.put {fields : Document} (h : (Value.object fields).WellFormed) (key : String)
    {value : Option Value} (hvalue : ∀ v, value = some v → v.WellFormed) :
    (Value.object (fields.put key value)).WellFormed := by
  obtain ⟨hkeys, hfields⟩ := wellFormed_object.mp h
  refine wellFormed_object.mpr ⟨hkeys.put key value, fun entry hentry => ?_⟩
  cases value with
  | none => exact hfields entry (FieldMap.mem_of_mem_erase hentry)
  | some v =>
      rcases FieldMap.mem_insert hentry with hold | rfl
      · exact hfields entry hold
      · exact hvalue v rfl

end DocQuery.Value
