import DocQuery.Proofs.Expression.Evaluate
import DocQuery.Proofs.Value.Parts

/-!
# Constants

A value is constant if nothing in it is computed, at whatever depth: no string is a reference, and
no object applies an operator. An object applies one only if its single key starts with a dollar
sign; among other keys, such a key is a name.

Evaluation builds every array and every object anew. No result of a constant is missing, so none
becomes a null among the items and none is left out of the fields, and what is built is what was
there (`eval_constant`).
-/

namespace DocQuery.Expression

/-- Whether the value itself is computed: a reference, or an object that applies an operator. -/
def isComputed : Value → Bool
  | .string text => startsWithDollar text
  | .object [(key, _)] => startsWithDollar key
  | _ => false

/-- Nothing in the value is computed. -/
def IsConstant (v : Value) : Prop := ∀ part ∈ v.parts, isComputed part = false

instance (v : Value) : Decidable (IsConstant v) :=
  inferInstanceAs (Decidable (∀ part ∈ v.parts, isComputed part = false))

theorem IsConstant.self {v : Value} (h : IsConstant v) : isComputed v = false :=
  h v v.self_mem_parts

theorem IsConstant.item {items : List Value} (h : IsConstant (.array items)) {item : Value}
    (hitem : item ∈ items) : IsConstant item :=
  fun part hpart => h part (Value.parts_item_subset hitem hpart)

theorem IsConstant.held {fields : Document} (h : IsConstant (.object fields))
    {entry : String × Value} (hentry : entry ∈ fields) : IsConstant entry.2 :=
  fun part hpart => h part (Value.parts_field_subset hentry hpart)

variable {scope : Scope}

theorem eval_array (items : List Value) :
    eval scope (.array items)
      = (fun found => some (.array (found.map (·.getD .null)))) <$> evalItems scope items := by
  rw [eval]
  cases evalItems scope items <;> rfl

/-- An object that applies no operator is evaluated field by field, also if it has one key only. -/
theorem eval_object {fields : Document} (h : isComputed (.object fields) = false) :
    eval scope (.object fields) = (fun found => some (.object found))
      <$> evalFields scope fields := by
  match fields with
  | [] => rfl
  | [(key, arg)] =>
      rw [eval_patch_eq h, evalFields]
      cases eval scope arg with
      | error e => rfl
      | ok found => cases found <;> rfl
  | first :: next :: rest =>
      show (evalFields scope (first :: next :: rest) >>= _) = _
      simp only [pure_eq_ok, bind_ok_eq_map]

-- By the structure of the value: an array or an object is what it was if all its parts are.
mutual

/-- A constant stands for itself. -/
theorem eval_constant : (v : Value) → IsConstant v → eval scope v = .ok (some v)
  | .null, _ => rfl
  | .bool _, _ => rfl
  | .number _, _ => rfl
  | .string _, h => eval_text h.self
  | .array items, h => by
      have hitems := evalItems_constant items fun item => h.item
      -- No result is missing, so none is made a null.
      have hsame : (items.map some).map (·.getD .null) = items := by
        rw [List.map_map]
        exact List.map_id items
      rw [eval_array, hitems, map_ok, hsame]
  | .object fields, h => by
      rw [eval_object h.self, evalFields_constant fields fun entry => h.held, map_ok]

theorem evalItems_constant : (items : List Value) → (∀ item ∈ items, IsConstant item) →
    evalItems scope items = .ok (items.map some)
  | [], _ => rfl
  | item :: rest, h => by
      rw [List.forall_mem_cons] at h
      rw [evalItems, eval_constant item h.1, evalItems_constant rest h.2]
      rfl

theorem evalFields_constant : (fields : Document) → (∀ entry ∈ fields, IsConstant entry.2) →
    evalFields scope fields = .ok fields
  | [], _ => rfl
  | (_, v) :: rest, h => by
      rw [List.forall_mem_cons] at h
      rw [evalFields, eval_constant v h.1, evalFields_constant rest h.2]
      rfl

end

end DocQuery.Expression
