import DocQuery.Proofs.FieldMap
import DocQuery.Value.Basic

/-!
# Parts of a value

The parts of a value are the value itself and the parts of its items or of what its fields hold, so
a property of values at every depth is a property of the parts. `NumbersFit` is one: the numbers in
a value are those that a document can hold, while the type of numbers has integers of any size.
-/

namespace DocQuery.Value

mutual

/-- The value and everything in it, at whatever depth. -/
def parts : Value → List Value
  | .array items => .array items :: partsOfItems items
  | .object fields => .object fields :: partsOfFields fields
  | v => [v]
termination_by structural v => v

/-- The parts of the items of an array. -/
def partsOfItems : List Value → List Value
  | [] => []
  | item :: rest => parts item ++ partsOfItems rest
termination_by structural items => items

/-- The parts of what the fields of an object hold. -/
def partsOfFields : List (String × Value) → List Value
  | [] => []
  | (_, v) :: rest => parts v ++ partsOfFields rest
termination_by structural fields => fields

end

theorem partsOfItems_eq (items : List Value) : partsOfItems items = items.flatMap parts := by
  induction items with
  | nil => rfl
  | cons item rest ih => rw [partsOfItems, ih, List.flatMap_cons]

theorem partsOfFields_eq (fields : Document) :
    partsOfFields fields = fields.flatMap fun entry => entry.2.parts := by
  induction fields with
  | nil => rfl
  | cons entry rest ih => rw [partsOfFields, ih, List.flatMap_cons]

theorem self_mem_parts (v : Value) : v ∈ v.parts := by
  cases v <;> simp [parts]

theorem parts_item_subset {items : List Value} {item : Value} (h : item ∈ items) :
    item.parts ⊆ (Value.array items).parts := by
  intro part hpart
  rw [parts, partsOfItems_eq]
  exact List.mem_cons_of_mem _ (List.mem_flatMap.mpr ⟨item, h, hpart⟩)

theorem parts_field_subset {fields : Document} {entry : String × Value} (h : entry ∈ fields) :
    entry.2.parts ⊆ (Value.object fields).parts := by
  intro part hpart
  rw [parts, partsOfFields_eq]
  exact List.mem_cons_of_mem _ (List.mem_flatMap.mpr ⟨entry, h, hpart⟩)

end DocQuery.Value

namespace DocQuery

/-- A number that a document can hold: an integer in range, or a finite double. -/
def Number.Fits : Number → Prop
  | .int i => FitsInteger i
  | .double x => isFiniteDouble x = true

instance : DecidablePred Number.Fits
  | .int i => inferInstanceAs (Decidable (Number.FitsInteger i))
  | .double x => inferInstanceAs (Decidable (Number.isFiniteDouble x = true))

namespace Value

/-- Every number in the value is one that a document can hold. -/
def NumbersFit (v : Value) : Prop := ∀ n ∈ v.parts.filterMap number?, n.Fits

instance (v : Value) : Decidable v.NumbersFit :=
  inferInstanceAs (Decidable (∀ n ∈ v.parts.filterMap number?, n.Fits))

theorem NumbersFit.of_subset {v part : Value} (h : v.NumbersFit) (hpart : part.parts ⊆ v.parts) :
    part.NumbersFit :=
  fun n hn => h n (List.filterMap_subset _ hpart hn)

theorem NumbersFit.item {items : List Value} (h : (Value.array items).NumbersFit) {item : Value}
    (hitem : item ∈ items) : item.NumbersFit := h.of_subset (parts_item_subset hitem)

theorem NumbersFit.held {fields : Document} (h : (Value.object fields).NumbersFit) {key : String}
    {v : Value} (hget : fields.get? key = some v) : v.NumbersFit :=
  h.of_subset (parts_field_subset (FieldMap.mem_of_get? hget))

theorem NumbersFit.number {n : Number} (h : (Value.number n).NumbersFit) : n.Fits :=
  h n (List.mem_singleton.mpr rfl)

end Value

end DocQuery
