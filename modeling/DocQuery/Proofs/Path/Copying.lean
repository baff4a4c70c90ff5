import DocQuery.Proofs.Path.Readings
import DocQuery.Proofs.Value.Objects
import Mathlib.Data.List.Basic

/-!
# Where copied values come from

Copying a path changes one field of the target, and only if the source has that field. Into an array
it copies object by object, and begins anew when the numbers of objects differ, so what was in the
target may be lost.

`mem_flatten_copy` says what a reader of the target has to know: at a path that is no proper prefix
of the copied one, every value was there before, or the copied path leads to it and the source has
it at the same place.
-/

namespace DocQuery.Path

/-! ## A copy as a change of one field -/

/-- What a field of the target holds once a path has been copied to it from the value in the
source. -/
def copiedHeld (p : Path) : (held : Value) → (out : Option Value) → Option Value
  | .object inner, none => some (.object (copy p inner []))
  | .object inner, some (.object fields) => some (.object (copy p inner fields))
  | .array items, none => some (.array (copy.copyItems (copy p) items []))
  | .array items, some (.array others) => some (.array (copy.copyItems (copy p) items others))
  | _, out => out

variable {src dst : Document}

theorem copy_of_missing {key : String} (h : src.get? key = none) (tail : Path) :
    copy (key :: tail) src dst = dst := by
  cases tail <;> rw [copy, h]

theorem get?_copy_of_ne {key other : String} (h : key ≠ other) (tail : Path) :
    (copy (key :: tail) src dst).get? other = dst.get? other := by
  cases tail with
  | nil =>
      rw [copy]
      split
      · exact FieldMap.get?_insert_of_ne dst h _
      · rfl
  | cons next more =>
      rw [copy]
      split
      · exact FieldMap.get?_insert_of_ne dst h _
      · exact FieldMap.get?_insert_of_ne dst h _
      · exact FieldMap.get?_insert_of_ne dst h _
      · exact FieldMap.get?_insert_of_ne dst h _
      · rfl

theorem get?_copy_self {key : String} {held : Value} (h : src.get? key = some held) {tail : Path}
    (htail : tail ≠ []) :
    (copy (key :: tail) src dst).get? key = copiedHeld tail held (dst.get? key) := by
  obtain ⟨next, more, rfl⟩ := List.exists_cons_of_ne_nil htail
  rw [copy, h]
  cases hget : dst.get? key with
  | none => cases held <;> first | exact FieldMap.get?_insert_self _ _ _ | exact hget
  | some out =>
      cases held <;> cases out <;> first | exact FieldMap.get?_insert_self _ _ _ | exact hget

/-! ## What is read in the target -/

theorem flatten_empty {p : Path} (hp : p ≠ []) : flatten p (.object []) = [] := by
  obtain ⟨key, tail, rfl⟩ := List.exists_cons_of_ne_nil hp
  rfl

theorem mem_flatten_array {p : Path} (hp : p ≠ []) {items : List Value} {v : Value} :
    v ∈ flatten p (.array items) ↔ ∃ item ∈ items, v ∈ flatten p item := by
  obtain ⟨key, tail, rfl⟩ := List.exists_cons_of_ne_nil hp
  rw [flatten, gatherField_array, List.mem_flatMap]

/-- Every item of a copy is an item that was there, or an empty object, with one of the objects
copied into it. -/
theorem eq_of_mem_copyItems {f : Document → Document → Document} {items others : List Value}
    {item : Value} (h : item ∈ copy.copyItems f items others) :
    ∃ inner out, .object inner ∈ items ∧ (out ∈ others ∨ out = .object [])
      ∧ item = out.mapFields (f inner) := by
  unfold copy.copyItems at h
  rw [← List.map_uncurry_zip_eq_zipWith] at h
  obtain ⟨⟨inner, out⟩, hpair, rfl⟩ := List.mem_map.mp h
  obtain ⟨hinner, hout⟩ := List.of_mem_zip hpair
  obtain ⟨source, hsource, hfields⟩ := List.mem_filterMap.mp hinner
  obtain rfl := Value.fields?_eq_some.mp hfields
  refine ⟨inner, out, hsource, ?_, rfl⟩
  unfold receivers at hout
  split at hout
  · exact .inl hout
  · exact .inr (List.eq_of_mem_replicate hout)

section Origin

variable {p q : Path} {v : Value}

/-- The values that a path leads to in a field; none if the field is missing. -/
abbrev flattenHeld (p : Path) (held : Option Value) : List Value := (held.map (flatten p)).getD []

theorem mem_flatten_copyItems (hq : q ≠ [])
    (h : ∀ {inner fields : Document}, v ∈ flatten q (.object (copy p inner fields)) →
      v ∈ flatten q (.object fields) ∨ p <+: q ∧ v ∈ flatten q (.object inner))
    {items others : List Value}
    (hv : v ∈ flatten q (.array (copy.copyItems (copy p) items others))) :
    v ∈ flatten q (.array others) ∨ p <+: q ∧ v ∈ flatten q (.array items) := by
  rw [mem_flatten_array hq] at hv
  obtain ⟨item, hitem, hv⟩ := hv
  obtain ⟨inner, out, hinner, hout, rfl⟩ := eq_of_mem_copyItems hitem
  have horigin : v ∈ flatten q out ∨ p <+: q ∧ v ∈ flatten q (.object inner) := by
    cases out with
    | object fields => exact h hv
    | _ => exact .inl hv
  rcases horigin with hold | ⟨hpre, hnew⟩
  · rcases hout with hmem | rfl
    · exact .inl ((mem_flatten_array hq).mpr ⟨out, hmem, hold⟩)
    · rw [flatten_empty hq] at hold
      cases hold
  · exact .inr ⟨hpre, (mem_flatten_array hq).mpr ⟨_, hinner, hnew⟩⟩

theorem mem_flatten_copiedHeld (hq : q ≠ [])
    (h : ∀ {inner fields : Document}, v ∈ flatten q (.object (copy p inner fields)) →
      v ∈ flatten q (.object fields) ∨ p <+: q ∧ v ∈ flatten q (.object inner))
    {held : Value} {out : Option Value} (hv : v ∈ flattenHeld q (copiedHeld p held out)) :
    v ∈ flattenHeld q out ∨ p <+: q ∧ v ∈ flatten q held := by
  unfold copiedHeld at hv
  split at hv
  · have horigin := h hv
    rw [flatten_empty hq] at horigin
    exact .inr (horigin.resolve_left List.not_mem_nil)
  · exact h hv
  · refine (mem_flatten_copyItems hq h hv).imp_left fun hnone => ?_
    obtain ⟨item, hitem, -⟩ := (mem_flatten_array hq).mp hnone
    cases hitem
  · exact mem_flatten_copyItems hq h hv
  · exact .inl hv

end Origin

/-- **Where copied values come from.** A value read in the target at a path that the copied path
does not go beyond was there before, or it lies behind the copied path and the source has it too. -/
theorem mem_flatten_copy {p q : Path} (hpq : q <+: p → q = p) {v : Value}
    (hv : v ∈ flatten q (.object (copy p src dst))) :
    v ∈ flatten q (.object dst) ∨ p <+: q ∧ v ∈ flatten q (.object src) := by
  induction p generalizing q src dst with
  | nil => exact .inl hv
  | cons key tail ih =>
      cases q with
      | nil => cases hpq List.nil_prefix
      | cons other names =>
          rw [flatten, gatherField_object] at hv
          rw [flatten, gatherField_object, gatherField_object]
          by_cases hname : key = other
          · subst hname
            cases hget : src.get? key with
            | none =>
                rw [copy_of_missing hget] at hv
                exact .inl hv
            | some held =>
                by_cases htail : tail = []
                · subst htail
                  rw [copy, hget] at hv
                  simp only [FieldMap.get?_insert_self] at hv
                  exact .inr ⟨List.cons_prefix_cons.mpr ⟨rfl, List.nil_prefix⟩, hv⟩
                · have hbehind : names <+: tail → names = tail := fun hpre =>
                    (List.cons.inj (hpq (List.cons_prefix_cons.mpr ⟨rfl, hpre⟩))).2
                  have hnames : names ≠ [] := by
                    rintro rfl
                    exact htail (hbehind List.nil_prefix).symm
                  rw [get?_copy_self hget htail] at hv
                  refine (mem_flatten_copiedHeld hnames (ih hbehind) hv).imp_right ?_
                  rintro ⟨hpre, hheld⟩
                  exact ⟨List.cons_prefix_cons.mpr ⟨rfl, hpre⟩, hheld⟩
          · rw [get?_copy_of_ne hname] at hv
            exact .inl hv

end DocQuery.Path
