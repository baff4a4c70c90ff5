import DocQuery.Proofs.Query.Aside
import Mathlib.Data.List.Chain

/-!
# Sorts that follow each other

A sort that goes into a sort merges its keys into those that are there, and merging is associative;
so two sorts in a row are the sort by the keys of both (`pushSort_pushSort`), and a chain of
orderings is one ordering by all their pairs (`calls_of_chain`). The calls between them may hold
something aside or join what is joined already, since neither adds a stage.

No two sorts ever stand next to each other in a query, and the keys of each of them are some, and
stand once (`WellSorted`).
-/

namespace DocQuery

/-- The ordering that a call sorts by. -/
def Call.ordering? : Call → Option SortSpec
  | .orderBy s => some s
  | _ => none

namespace Query

open Join (Consistent blogQuery)

variable {q q' : Query} {c : Call} {history chain : List Call}

/-! ## Two sorts -/

/-- Keys to sort by that follow others are merged into them. -/
theorem pushSort_pushSort (stages : Pipeline) {keys : FieldMap Direction} (h : keys.DistinctKeys)
    (later : FieldMap Direction) :
    pushSort (pushSort stages keys) later = pushSort stages (keys.merge later) := by
  have hlast (before : Pipeline) (earlier keys : FieldMap Direction) :
      pushSort (before ++ [.sort earlier]) keys = before ++ [.sort (earlier.merge keys)] :=
    pushSort_append keys before (List.cons_ne_nil _ _)
  rcases pushSort_cases stages keys with ⟨before, earlier, rfl, hsort⟩ | ⟨hnot, hsort⟩
  · rw [hsort, hlast, hlast, FieldMap.merge_assoc earlier h]
  · rw [hsort, hlast]
    rcases pushSort_cases stages (keys.merge later) with ⟨before, earlier, rfl, -⟩ | ⟨-, hmerged⟩
    · exact absurd (by simp) (hnot earlier)
    · exact hmerged.symm

/-- Adds sorts to stages, one after the other. -/
def pushSorts (stages : Pipeline) (specs : List SortSpec) : Pipeline :=
  specs.foldl (fun stages s => pushSort stages (.collect s.named)) stages

theorem pushSorts_pushSort (stages : Pipeline) (pairs : List (String × Direction))
    (specs : List SortSpec) :
    pushSorts (pushSort stages (.collect pairs)) specs
      = pushSort stages (.collect (pairs ++ specs.flatMap SortSpec.named)) := by
  induction specs generalizing pairs with
  | nil =>
      rw [List.flatMap_nil, List.append_nil]
      rfl
  | cons s rest ih =>
      have hstep : pushSorts (pushSort stages (.collect pairs)) (s :: rest)
          = pushSorts (pushSort (pushSort stages (.collect pairs)) (.collect s.named)) rest := rfl
      rw [hstep, pushSort_pushSort stages (FieldMap.distinctKeys_collect pairs),
        ← FieldMap.collect_append, ih, List.flatMap_cons, List.append_assoc]

/-- Several sorts are one by all their entries. -/
theorem pushSorts_eq (stages : Pipeline) {specs : List SortSpec} (h : specs ≠ []) :
    pushSorts stages specs = pushSort stages (.collect (specs.flatMap SortSpec.named)) := by
  obtain ⟨s, rest, rfl⟩ := List.exists_cons_of_ne_nil h
  exact pushSorts_pushSort stages s.named rest

/-! ## A chain of sorts -/

/-- Orderings that compile, and calls that add no stage: those that hold something aside, and joins
of what the query has joined. -/
def SortChain (q : Query) (chain : List Call) : Prop :=
  ∀ c ∈ chain, (∃ s keys, c = .orderBy s ∧ s.compile = .ok keys) ∨ c.isAside = true ∨
    ∃ path ∈ q.joined, c = .join path

/-- A call of a chain adds the keys of its ordering, if it has one. -/
theorem call_of_chain (hq : Consistent q) (hc : SortChain q [c]) :
    ∃ q', q.call c = .ok q' ∧ q'.joined = q.joined ∧
      q'.stages = pushSorts q.stages c.ordering?.toList := by
  rcases hc c (List.mem_singleton_self c) with ⟨s, keys, rfl, hkeys⟩ | haside | ⟨path, hpath, rfl⟩
  · obtain ⟨-, rfl⟩ := SortSpec.compile_eq_ok.mp hkeys
    exact ⟨_, bind_eq_ok.mpr ⟨_, hkeys, rfl⟩, rfl, rfl⟩
  · obtain ⟨mid, hcall, hmid, -⟩ := call_aside haside q []
    refine ⟨mid, hcall, by rw [hmid]; rfl, ?_⟩
    rw [hmid]
    cases c with
    | orderBy s => cases haside
    | _ => rfl
  · exact ⟨q, hq.join_of_mem hpath, rfl, rfl⟩

theorem calls_of_chain (hq : Consistent q) (hchain : SortChain q chain) :
    ∃ q', q.calls chain = .ok q' ∧
      q'.stages = pushSorts q.stages (chain.filterMap Call.ordering?) := by
  induction chain generalizing q with
  | nil => exact ⟨q, rfl, rfl⟩
  | cons c rest ih =>
      obtain ⟨mid, hcall, hjoined, hstages⟩ := call_of_chain hq fun c' hc' =>
        hchain c' (by rw [List.mem_singleton.mp hc']; exact List.mem_cons_self ..)
      have hrest : SortChain mid rest := by
        intro c' hc'
        rw [hjoined]
        exact hchain c' (List.mem_cons_of_mem c hc')
      obtain ⟨q', hcalls, hlast⟩ := ih (hq.call hcall) hrest
      refine ⟨q', by rw [calls_cons, hcall, ok_bind, hcalls], ?_⟩
      rw [hlast, hstages]
      cases hc : c.ordering? with
      | none => rw [List.filterMap_cons_none hc]; rfl
      | some s => rw [List.filterMap_cons_some hc]; rfl

theorem SortChain.compile_concat (hchain : SortChain q chain)
    (hsome : chain.filterMap Call.ordering? ≠ []) :
    (SortSpec.concat (chain.filterMap Call.ordering?)).compile
      = .ok (.collect ((chain.filterMap Call.ordering?).flatMap SortSpec.named)) := by
  refine SortSpec.compile_eq_ok.mpr ⟨?_, by rw [SortSpec.named_concat]⟩
  obtain ⟨s, rest, hspecs⟩ := List.exists_cons_of_ne_nil hsome
  obtain ⟨c, hc, hordering⟩ : ∃ c ∈ chain, c.ordering? = some s :=
    List.mem_filterMap.mp (by rw [hspecs]; exact List.mem_cons_self ..)
  rw [SortSpec.named_concat, hspecs, List.flatMap_cons, Ne, List.append_eq_nil_iff, not_and_or]
  refine .inl ?_
  rcases hchain c hc with ⟨s', keys, rfl, hkeys⟩ | haside | ⟨path, -, rfl⟩
  · obtain rfl := Option.some.inj hordering
    exact (SortSpec.compile_eq_ok.mp hkeys).1
  · cases c with
    | orderBy s => cases haside
    | _ => cases hordering
  · cases hordering

/-! ## Sorts of a query -/

/-- No two sorts stand next to each other, and each has keys, which stand once. -/
structure WellSorted (stages : Pipeline) : Prop where
  apart : stages.IsChain fun x y => ¬ (x.isSort = true ∧ y.isSort = true)
  keys : ∀ keys : FieldMap Direction, .sort keys ∈ stages → keys ≠ [] ∧ keys.DistinctKeys

theorem WellSorted.append {stages added : Pipeline} (h : WellSorted stages)
    (hadded : Rowwise added) :
    WellSorted (stages ++ added) := by
  refine ⟨List.isChain_append.mpr ⟨h.apart, ?_, ?_⟩, fun keys hmem => ?_⟩
  · refine (List.pairwise_iff_getElem.mpr fun i j hi hj _ hboth => ?_).isChain
    rw [Stage.isSort_of_isRowwise (hadded _ (List.getElem_mem hi))] at hboth
    cases hboth.1
  · rintro x - y hy ⟨-, hsort⟩
    rw [Stage.isSort_of_isRowwise (hadded y (List.mem_of_mem_head? hy))] at hsort
    cases hsort
  · rcases List.mem_append.mp hmem with hold | hnew
    · exact h.keys keys hold
    · cases hadded _ hnew

theorem WellSorted.pushSort {stages : Pipeline} (h : WellSorted stages) {keys : FieldMap Direction}
    (hne : keys ≠ []) (hkeys : keys.DistinctKeys) : WellSorted (pushSort stages keys) := by
  refine ⟨?_, fun keys' hmem => ?_⟩
  · rcases pushSort_cases stages keys with ⟨before, earlier, rfl, hsort⟩ | ⟨hnot, hsort⟩
    · obtain ⟨hbefore, -, hlast⟩ := List.isChain_append.mp h.apart
      rw [hsort]
      refine List.isChain_append.mpr ⟨hbefore, List.isChain_singleton _, fun x hx y hy => ?_⟩
      obtain rfl : .sort (earlier.merge keys) = y := by simpa using hy
      exact hlast x hx (.sort earlier) rfl
    · rw [hsort]
      refine List.isChain_append.mpr ⟨h.apart, List.isChain_singleton _, ?_⟩
      rintro x hx y - ⟨hsort, -⟩
      obtain ⟨earlier, rfl⟩ := Stage.eq_sort hsort
      exact hnot earlier hx
  · rcases mem_pushSort hmem with hold | heq | ⟨earlier, hold, heq⟩
    · exact h.keys keys' hold
    · obtain rfl := Stage.sort.inj heq
      exact ⟨hne, hkeys⟩
    · obtain rfl := Stage.sort.inj heq
      obtain ⟨hne', hkeys'⟩ := h.keys earlier hold
      exact ⟨fun hnil => hne' (FieldMap.merge_eq_nil_iff.mp hnil).1, hkeys'.merge keys⟩

theorem WellSorted.call (hq : WellSorted q.stages) (h : q.call c = .ok q') :
    WellSorted q'.stages := by
  rcases stages_cases h with ⟨added, hadded, hstages⟩ | ⟨keys, hne, hkeys, hstages⟩
  · rw [hstages]
    exact hq.append hadded
  · rw [hstages]
    exact hq.pushSort hne hkeys

/-- **Chained sorts are one sort.** Behind any accepted calls, orderings in a chain leave the stages
of one ordering by all their pairs, whatever the calls between them hold aside, and though they join
again what is joined. No two sorts of a query stand next to each other, and the keys of each are
some, and stand once. -/
theorem chained_sorts {entity : String} {schema : Schema} {options : Options}
    (h : ({ entity, schema, options } : Query).calls history = .ok q) :
    (∀ chain, SortChain q chain → chain.filterMap Call.ordering? ≠ [] →
      ∃ q' q'', q.calls chain = .ok q' ∧
        q.orderBy (.concat (chain.filterMap Call.ordering?)) = .ok q'' ∧ q'.stages = q''.stages) ∧
    WellSorted q.stages := by
  have hq : Consistent q := (Join.consistent_fresh entity schema options).calls h
  refine ⟨fun chain hchain hsome => ?_, ?_⟩
  · obtain ⟨q', hcalls, hstages⟩ := calls_of_chain hq hchain
    have hcompile := hchain.compile_concat hsome
    exact ⟨q', _, hcalls, bind_eq_ok.mpr ⟨_, hcompile, rfl⟩,
      hstages.trans (pushSorts_eq q.stages hsome)⟩
  · refine calls_induct (P := fun q => WellSorted q.stages)
      (fun _ _ _ hmid hcall => hmid.call hcall) h ?_
    exact ⟨List.isChain_nil, fun _ hmem => nomatch hmem⟩

/-- Two orderings with a limit between them, a join that is made again, and an ordering that turns a
direction round. -/
def ageChain : List Call :=
  [.orderBy (.tokenList ["name", "-age"]), .limit 3, .orderBy (.tokenList ["", "role"]),
    .join "role", .orderBy (.pairList [("age", .ascending)])]

theorem chained_sorts_blog :
    ∃ q, blogQuery.calls [.join "role", .orderByField "active" .descending] = .ok q ∧
      SortChain q ageChain ∧
      ∃ q' q'', q.calls ageChain = .ok q' ∧
        q.orderBy (.pairList [("name", .ascending), ("age", .descending), ("", .ascending),
          ("role", .ascending), ("age", .ascending)]) = .ok q'' ∧ q'.stages = q''.stages := by
  obtain ⟨q, hq⟩ :
      ∃ q, blogQuery.calls [.join "role", .orderByField "active" .descending] = .ok q := ⟨_, rfl⟩
  have hrole : "role" ∈ q.joined := by
    obtain rfl := Except.ok.inj hq
    decide
  have hchain : SortChain q ageChain := by
    intro c hc
    simp only [ageChain, List.mem_cons, List.not_mem_nil, or_false] at hc
    rcases hc with rfl | rfl | rfl | rfl | rfl
    · exact .inl ⟨_, _, rfl, rfl⟩
    · exact .inr (.inl rfl)
    · exact .inl ⟨_, _, rfl, rfl⟩
    · exact .inr (.inr ⟨"role", hrole, rfl⟩)
    · exact .inl ⟨_, _, rfl, rfl⟩
  exact ⟨q, hq, hchain, (chained_sorts hq).1 ageChain hchain (List.cons_ne_nil _ _)⟩

end Query

end DocQuery
