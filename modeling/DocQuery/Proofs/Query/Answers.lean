import DocQuery.Filter.RegexEngine
import DocQuery.Proofs.Query.Pages

/-!
# Counts and first rows

The pipelines of a count, of the first row and of all rows begin with the same stages, and nothing
that comes behind these but a projection can fail. A limit takes from the rows what it takes from
the documents (`run_limit`), since every document is a row. So a count is the number of rows of the
query without what it holds aside, and the first row is the first of all rows unless the query takes
none at all.
-/

namespace DocQuery

namespace Store

variable [Filter.Engine] {s : Store}

theorem run_eq_map (s : Store) (collection : String) (pipeline : Pipeline) :
    s.run collection pipeline
      = List.filterMap Value.fields? <$> s.apply pipeline (s.documents collection) := by
  rw [run]
  cases s.apply pipeline (s.documents collection) <;> rfl

/-- A limit at the end takes rows. -/
theorem run_limit (hs : s.HoldsObjects) (collection : String) (pipeline : Pipeline) (n : Nat) :
    s.run collection (pipeline ++ [.limit n]) = List.take n <$> s.run collection pipeline := by
  cases hrun : s.run collection pipeline with
  | error e =>
      refine run_eq_error.mpr ?_
      rw [apply_append, run_eq_error.mp hrun]
      rfl
  | ok rows =>
      rw [run_eq_map, apply_append, run_eq_ok hs hrun, ok_bind, apply_singleton, applyStage, map_ok,
        map_ok, ← List.map_take, Value.filterMap_fields?_map_object]

theorem head?_run_limit (hs : s.HoldsObjects) (collection : String) (pipeline : Pipeline) {n : Nat}
    (hn : 1 ≤ n) :
    List.head? <$> s.run collection (pipeline ++ [.limit n])
      = List.head? <$> s.run collection pipeline := by
  rw [run_limit hs]
  cases s.run collection pipeline with
  | error e => rfl
  | ok rows => rw [map_ok, map_ok, map_ok, List.head?_take, if_neg (Nat.ne_of_gt hn)]

end Store

namespace Query

/-- The query without what it holds aside. -/
def bare (q : Query) : Query := { q with projection := none, toSkip := none, toTake := none }

@[simp] theorem pipeline_bare (q : Query) : q.bare.pipeline = q.stages := by
  simp [bare, pipeline, finalize, window]

theorem finalize_limit (q : Query) (skip : Option Nat) (n : Nat) :
    q.finalize ⟨skip, some n⟩ = q.finalize ⟨skip, none⟩ ++ [.limit n] := by
  simp [finalize]

section Answers

variable [Filter.Engine] {s : Store}

/-- A count is the number of rows of the accumulated stages. -/
theorem count_eq_length (hs : s.HoldsObjects) (q : Query) :
    q.count s.run = List.length <$> q.bare.rows s.run := by
  cases hrows : q.bare.rows s.run with
  | ok rows => exact count_of_run (q := q.bare) hs hrows
  | error e =>
      have happly := Store.run_eq_error.mp hrows
      rw [pipeline_bare] at happly
      have hcount : s.run q.collection q.countPipeline = .error e := by
        rw [Store.run_eq_error, countPipeline, Store.apply_append]
        exact congrArg (· >>= s.apply [.count countField]) happly
      rw [count, hcount]
      rfl

/-- The first row is the first of the rows, unless the query takes none. -/
theorem first_eq_head? (hs : s.HoldsObjects) (q : Query) (htake : ∀ n, q.toTake = some n → 1 ≤ n) :
    q.first s.run = List.head? <$> q.rows s.run := by
  rw [first, firstPipeline, finalize_limit, Store.head?_run_limit hs _ _ (Nat.le_refl 1), rows,
    pipeline, window]
  cases hlimit : q.toTake with
  | none => rfl
  | some n => rw [finalize_limit, Store.head?_run_limit hs _ _ (htake n hlimit)]

/-- **Counts and first rows agree with the rows.** A count succeeds when the accumulated stages do,
and is then the number of rows of the query without what it holds aside. Unless the query takes no
rows at all, its first row is the first of its rows, there is none when there are no rows, and it
fails as they fail. -/
theorem count_and_first_agree (hs : s.HoldsObjects) (q : Query) :
    ((∃ n, q.count s.run = .ok n) ↔
      ∃ docs, s.apply q.stages (s.documents q.collection) = .ok docs) ∧
    q.count s.run = List.length <$> q.bare.rows s.run ∧
    ((∀ n, q.toTake = some n → 1 ≤ n) →
      q.first s.run = List.head? <$> q.rows s.run ∧
      (q.first s.run = .ok none ↔ q.rows s.run = .ok [])) := by
  refine ⟨?_, count_eq_length hs q, fun htake => ?_⟩
  · rw [count_eq_length hs q, rows, pipeline_bare, Store.run_eq_map, Functor.map_map]
    show (∃ n, _ <$> s.apply q.stages (s.documents q.collection) = .ok n) ↔ _
    cases s.apply q.stages (s.documents q.collection) with
    | error e => simp
    | ok docs => simp
  · have hfirst := first_eq_head? hs q htake
    refine ⟨hfirst, ?_⟩
    rw [hfirst]
    cases q.rows s.run with
    | error e => simp
    | ok rows => simp

end Answers

attribute [local instance] Filter.regexEngine

theorem count_and_first_agree_sampleAdmins :
    sampleMembers.HoldsObjects ∧ sampleAdmins.count sampleMembers.run = .ok 3 ∧
      sampleAdmins.first sampleMembers.run = .ok (some [("name", .string "Cy")]) := by
  have hs : sampleMembers.HoldsObjects := by decide
  obtain ⟨-, hcount, hfirst⟩ := count_and_first_agree hs sampleAdmins
  have htake : ∀ n, sampleAdmins.toTake = some n → 1 ≤ n := by
    rintro n ⟨rfl⟩
    exact Nat.le_refl 1
  exact ⟨hs, hcount.trans rfl, (hfirst htake).1.trans rfl⟩

end Query

end DocQuery
