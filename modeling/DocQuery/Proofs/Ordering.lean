import DocQuery.Ordering
import DocQuery.Proofs.FieldMap

/-!
# What an ordering compiles to

An ordering compiles to the map of its entries that name a field, and is refused if there is none
(`compile_eq_ok`). So the keys of a sort are never empty and stand once (`keys_of_compile`), and of
several orderings in one list of pairs the entries that name a field are those of each of them
(`named_concat`).
-/

namespace DocQuery.SortSpec

variable {s : SortSpec} {keys : FieldMap Direction}

/-- The entries that name a field, as they were given. -/
def named (s : SortSpec) : List (String × Direction) := s.entries.filter fun entry => entry.1 ≠ ""

theorem compile_eq_ok : s.compile = .ok keys ↔ s.named ≠ [] ∧ keys = FieldMap.collect s.named := by
  rw [Ne, ← FieldMap.collect_eq_nil_iff]
  cases hkeys : FieldMap.collect s.named with
  | nil =>
      have hrefused : s.compile = .error .orderingWithoutField := by rw [compile, ← named, hkeys]
      simp [hrefused]
  | cons key rest =>
      have hcompiled : s.compile = .ok (key :: rest) := by rw [compile, ← named, hkeys]
      simp [hcompiled, eq_comm]

theorem keys_of_compile (h : s.compile = .ok keys) : keys ≠ [] ∧ keys.DistinctKeys := by
  obtain ⟨hnamed, rfl⟩ := compile_eq_ok.mp h
  exact ⟨mt FieldMap.collect_eq_nil_iff.mp hnamed, FieldMap.distinctKeys_collect _⟩

/-- The pairs of several orderings, one after the other. -/
def concat (specs : List SortSpec) : SortSpec := .pairList (specs.flatMap entries)

theorem named_concat (specs : List SortSpec) : (concat specs).named = specs.flatMap named :=
  List.filter_flatMap

end DocQuery.SortSpec
