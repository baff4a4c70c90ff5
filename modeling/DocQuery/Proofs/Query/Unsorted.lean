import DocQuery.Filter.RegexEngine
import DocQuery.Proofs.Join.History
import DocQuery.Proofs.Query.Accumulated
import DocQuery.Proofs.Query.Answers
import DocQuery.Proofs.Store.Rowwise

/-!
# Queries without their sorts

The calls that do not sort are accepted without the others as well, and accumulate the same stages
but for the sorts (`calls_unsorted`). All stages that are left treat documents one by one, so a
query fails or not, and counts, as it does with its sorts, and has the same rows in some order. When
several documents make a query fail, the sorts decide which of them does so first, and with it which
error is given.
-/

namespace DocQuery

/-- The calls that do not sort, in order. -/
def withoutSorts (history : List Call) : List Call := history.filter fun c => !c.isSort

/-- The part of some rows that a window shows. -/
def Window.part (w : Window) (rows : List Value) : List Value :=
  let rest := rows.drop (w.skip.getD 0)
  match w.limit with
  | some n => rest.take n
  | none => rest

namespace Query

open Join (blogQuery)

variable {q q' : Query} {history : List Call}

/-! ## Building -/

theorem unsorted_pushSort (stages : Pipeline) (keys : FieldMap Direction) :
    unsorted (pushSort stages keys) = unsorted stages := by
  rcases pushSort_cases stages keys with ⟨before, earlier, rfl, hsort⟩ | ⟨-, hsort⟩
  · rw [hsort, unsorted_append, unsorted_append, unsorted_cons_sort, unsorted_cons_sort]
  · rw [hsort, unsorted_append, unsorted_cons_sort]
    exact List.append_nil _

/-- Without the calls that sort, the same query is built but for the sorts. -/
theorem calls_unsorted (h : q.calls history = .ok q') :
    (q.withStages (unsorted q.stages)).calls (withoutSorts history)
      = .ok (q'.withStages (unsorted q'.stages)) := by
  induction history generalizing q with
  | nil =>
      obtain rfl := Except.ok.inj h
      rfl
  | cons c rest ih =>
      rw [calls_cons] at h
      obtain ⟨mid, hcall, hrest⟩ := bind_eq_ok.mp h
      cases hc : c.isSort with
      | true =>
          obtain ⟨keys, -, -, rfl⟩ := call_sort hc hcall
          have hskip : withoutSorts (c :: rest) = withoutSorts rest := by simp [withoutSorts, hc]
          rw [hskip, ← ih hrest, stages_withStages, unsorted_pushSort]
          rfl
      | false =>
          obtain ⟨added, hadded, hcalls⟩ := call_withStages hc hcall
          have hkeep : withoutSorts (c :: rest) = c :: withoutSorts rest := by
            simp [withoutSorts, hc]
          have hmid : mid.stages = q.stages ++ added :=
            congrArg stages (Except.ok.inj (hcall.symm.trans (hcalls q.stages)))
          rw [hkeep, calls_cons, hcalls, ok_bind, ← ih hrest, hmid, unsorted_append,
            hadded.unsorted]

/-! ## Running -/

section Running

variable [Filter.Engine]

/-- A window only cuts the rows. -/
theorem apply_finalize (s : Store) (q : Query) (w : Window) (docs : List Value) :
    s.apply (q.finalize w) docs = w.part <$> s.apply (q.finalize {}) docs := by
  obtain ⟨skip, limit⟩ := w
  have hwindow : q.finalize ⟨skip, limit⟩ = q.finalize {} ++ ((skip.map Stage.skip).toList
      ++ (limit.map Stage.limit).toList) := by simp [finalize]
  rw [hwindow, Store.apply_append]
  cases s.apply (q.finalize {}) docs with
  | error e => rfl
  | ok rows => cases skip <;> cases limit <;> rfl

theorem count_eq_map (s : Store) (q : Query) :
    q.count s.run = List.length <$> s.apply q.stages (s.documents q.collection) := by
  rw [count, Store.run_eq_map, countPipeline, Store.apply_append]
  cases s.apply q.stages (s.documents q.collection) with
  | error e => rfl
  | ok docs =>
      rw [ok_bind, Store.apply_singleton, Store.applyStage, map_ok, map_ok, map_ok, readCount_count]

/-- Without its sorts a query has the same rows before the window, in some order. -/
theorem apply_finalize_unsorted (s : Store) (hq : ∀ stage ∈ q.stages, stage.isAccumulated = true)
    (docs : List Value) :
    OkTogether List.Perm (s.apply (q.finalize {}) docs)
      (s.apply ((q.withStages (unsorted q.stages)).finalize {}) docs) := by
  have hfinalize (stages : Pipeline) : (q.withStages stages).finalize {}
      = stages ++ (q.projection.map Stage.project).toList := by simp [finalize, withStages]
  rw [← withStages_stages q, hfinalize, withStages_withStages, hfinalize, Store.apply_append,
    Store.apply_append]
  refine (Store.apply_unsorted s hq (.refl docs)).bind fun rows rows' hperm => ?_
  cases q.projection with
  | none => exact hperm
  | some flags =>
      rw [Option.map_some, Option.toList_some, Store.apply_singleton, Store.apply_singleton,
        Store.applyStage, Store.applyStage]
      exact Store.project_perm flags hperm

theorem page_eq_ok_iff (s : Store) (q : Query) (page perPage : Int) :
    (∃ p, q.page s.run page perPage = .ok p) ↔
      ∃ rows, s.apply (q.finalize {}) (s.documents q.collection) = .ok rows := by
  cases hrows : s.apply (q.finalize {}) (s.documents q.collection) with
  | error e => simp [page_of_run_error (Store.run_eq_error.mpr hrows)]
  | ok rows =>
      obtain ⟨mid, hmid, -⟩ := Store.length_of_apply_finalize hrows
      rw [Query.page, pagePipeline, Store.run_eq_map, Store.apply_singleton, Store.applyStage,
        Store.applyBranches, apply_finalize, hrows, Store.applyBranches, Store.apply_append, hmid]
      exact iff_of_true ⟨_, rfl⟩ ⟨rows, rfl⟩

theorem run_eq_ok_iff (s : Store) (q : Query) (w : Window) :
    (∃ rows, s.run q.collection (q.finalize w) = .ok rows) ↔
      ∃ rows, s.apply (q.finalize {}) (s.documents q.collection) = .ok rows := by
  rw [Store.run_eq_map, exists_map_eq_ok, apply_finalize, exists_map_eq_ok]

/-- **Sorts only permute.** Let some calls be accepted. The calls that do not sort are then accepted
without the others. On every store their query gives rows, a first row, a page or a count when the
query with the sorts does, and the count is the same. But for the skip and the limit, its rows are
those of the query with the sorts, in some order. -/
theorem sorts_only_permute {entity : String} {schema : Schema} {options : Options}
    {history : List Call} {q : Query}
    (h : ({ entity, schema, options } : Query).calls history = .ok q) (s : Store) :
    ∃ q', ({ entity, schema, options } : Query).calls (withoutSorts history) = .ok q' ∧
      ((∃ rows, q.rows s.run = .ok rows) ↔ ∃ rows, q'.rows s.run = .ok rows) ∧
      ((∃ row, q.first s.run = .ok row) ↔ ∃ row, q'.first s.run = .ok row) ∧
      (∀ page perPage, (∃ p, q.page s.run page perPage = .ok p) ↔
        ∃ p, q'.page s.run page perPage = .ok p) ∧
      (∀ n, q.count s.run = .ok n ↔ q'.count s.run = .ok n) ∧
      OkTogether List.Perm (s.run q.collection (q.finalize {}))
        (s.run q'.collection (q'.finalize {})) := by
  have hq := accumulated_of_calls h
  have hrows := apply_finalize_unsorted s hq (s.documents q.collection)
  have hstages : OkTogether List.Perm (s.apply q.stages (s.documents q.collection))
      (s.apply (unsorted q.stages) (s.documents q.collection)) :=
    Store.apply_unsorted s hq (.refl _)
  have hrun (w : Window) := (run_eq_ok_iff s q w).trans (hrows.exists_iff.trans
    (run_eq_ok_iff s (q.withStages (unsorted q.stages)) w).symm)
  refine ⟨_, calls_unsorted h, hrun q.window, ?_, fun page perPage => ?_, fun n => ?_, ?_⟩
  · rw [Query.first, exists_map_eq_ok, Query.first, exists_map_eq_ok]
    exact hrun ⟨q.toSkip, some 1⟩
  · rw [page_eq_ok_iff, page_eq_ok_iff]
    exact hrows.exists_iff
  · rw [count_eq_map, count_eq_map]
    exact (hstages.map fun _ _ hperm => hperm.length_eq).eq_ok_iff n
  · rw [Store.run_eq_map, Store.run_eq_map]
    exact hrows.map fun _ _ hperm => hperm.filterMap _

end Running

/-- A user with two posts, and one without. -/
def blog : Store :=
  ⟨[("users", [
      .object [("name", .string "Ada"), ("posts", .array [.ofInt 1, .ofInt 2])],
      .object [("name", .string "Bo"), ("posts", .array [])]]),
    ("posts", [.object [("_id", .ofInt 1)], .object [("_id", .ofInt 2)]])]⟩

/-- Users with their posts, sorted before the join and behind it. -/
def sortedCalls : List Call :=
  [.orderByField "name" .descending, .join "posts", .orderByField "posts._id" .descending,
    .select ⟨["name"]⟩, .limit 1]

attribute [local instance] Filter.regexEngine

theorem sorts_only_permute_blog :
    ∃ q q', blogQuery.calls sortedCalls = .ok q ∧
      blogQuery.calls [.join "posts", .select ⟨["name"]⟩, .limit 1] = .ok q' ∧
      q.count blog.run = .ok 2 ∧ q'.count blog.run = .ok 2 := by
  obtain ⟨q, hq⟩ : ∃ q, blogQuery.calls sortedCalls = .ok q := ⟨_, rfl⟩
  obtain ⟨q', hq', htwo⟩ : ∃ q', blogQuery.calls (withoutSorts sortedCalls) = .ok q' ∧
      (q'.count blog.run).toOption = some 2 := ⟨_, rfl, by decide +kernel⟩
  obtain ⟨same, hsame, -, -, -, hcount, -⟩ := sorts_only_permute hq blog
  obtain rfl := Except.ok.inj (hq'.symm.trans hsame)
  cases hcounted : q'.count blog.run with
  | error e =>
      rw [hcounted] at htwo
      cases htwo
  | ok n =>
      rw [hcounted] at htwo
      obtain rfl := Option.some.inj htwo
      exact ⟨q, q', hq, hq', (hcount 2).mpr hcounted, hcounted⟩

end Query

end DocQuery
