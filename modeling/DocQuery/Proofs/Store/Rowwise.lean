import DocQuery.Proofs.Stage
import DocQuery.Proofs.Store.Documents

/-!
# Stages that treat documents one by one

A stage that filters, joins or computes makes rows of every document by itself and puts them
together in order (`applyStage_rowwise`), and so do several of them (`apply_eq_ok_iff`). So the
order of the documents decides only on the order of the rows, and a sort makes no difference but in
the order. Hence all sorts may be taken out of a run of such stages (`apply_unsorted`): it succeeds
as before, with the same rows in some order.
-/

namespace DocQuery

namespace Store

variable {s : Store} {stage : Stage} {docs docs' : List Value}

/-! ## Row by row -/

theorem ok_flatMap (f : Value → List Value) (docs : List Value) :
    (.ok (docs.flatMap f) : Except StoreError (List Value))
      = List.flatten <$> docs.mapM fun doc => .ok (f doc) := by
  rw [mapM_of_ok fun doc _ => rfl, map_ok, List.flatMap_def]

theorem ok_map (f : Value → Value) (docs : List Value) :
    (.ok (docs.map f) : Except StoreError (List Value))
      = List.flatten <$> docs.mapM fun doc => .ok [f doc] := by
  rw [List.map_eq_flatMap, ok_flatMap]

theorem mapM_eq_rows (f : Value → Except StoreError Value) (docs : List Value) :
    docs.mapM f = List.flatten <$> docs.mapM fun doc => (fun row => [row]) <$> f doc := by
  rw [mapM_map_result, Functor.map_map]
  simp only [← List.flatMap_def, List.flatMap_singleton', id_map']

theorem filterItems_eq_rows (test : Value → Except StoreError Bool) (docs : List Value) :
    Expression.filterItems test docs
      = List.flatten <$> docs.mapM fun doc =>
          (fun keep => if keep then [doc] else []) <$> test doc := by
  induction docs with
  | nil => rfl
  | cons doc rest ih =>
      rw [Expression.filterItems, List.mapM_cons, ih]
      cases test doc with
      | error e => rfl
      | ok keep =>
          cases rest.mapM fun doc => (fun keep => if keep then [doc] else []) <$> test doc with
          | error e => rfl
          | ok rows => cases keep <;> rfl

/-- A stage that treats documents one by one puts the rows of each together. -/
theorem applyStage_rowwise [Filter.Engine] (s : Store) (h : stage.isRowwise = true) :
    ∃ rows : Value → Except StoreError (List Value),
      ∀ docs, s.applyStage stage docs = List.flatten <$> docs.mapM rows := by
  cases stage with
  | filter condition => exact ⟨_, fun docs => by rw [applyStage, filter, filterItems_eq_rows]⟩
  | lookup join => exact ⟨_, fun docs => by rw [applyStage, ok_map]⟩
  | unwind u => exact ⟨_, fun docs => by rw [applyStage, ok_flatMap]⟩
  | set fields => exact ⟨_, fun docs => by rw [applyStage, mapM_eq_rows]⟩
  | unset field => exact ⟨_, fun docs => by rw [applyStage, ok_map]⟩
  | addFields fields => exact ⟨_, fun docs => by rw [applyStage, mapM_eq_rows]⟩
  | _ => cases h

theorem apply_pointwise [Filter.Engine] (s : Store) {stages : Pipeline} (h : Rowwise stages) :
    ∃ (succeeds : Value → Prop) (rows : Value → List Value), ∀ docs out,
      s.apply stages docs = .ok out ↔ (∀ doc ∈ docs, succeeds doc) ∧ out = docs.flatMap rows := by
  induction stages with
  | nil =>
      refine ⟨fun _ => True, fun doc => [doc], fun docs out => ?_⟩
      rw [apply, Except.ok.injEq, List.flatMap_singleton', eq_comm]
      exact (and_iff_right fun _ _ => trivial).symm
  | cons stage rest ih =>
      obtain ⟨first, hfirst⟩ := applyStage_rowwise s (h stage (List.mem_cons_self ..))
      obtain ⟨succeeds, rows, hrest⟩ :=
        ih fun later hlater => h later (List.mem_cons_of_mem _ hlater)
      let before (doc : Value) : List Value := (first doc).toOption.getD []
      refine ⟨fun doc => (∃ mid, first doc = .ok mid) ∧ ∀ mid ∈ before doc, succeeds mid,
        fun doc => (before doc).flatMap rows, fun docs out => ?_⟩
      rw [apply_cons, hfirst, bind_eq_ok]
      simp only [flatten_mapM_eq_ok, hrest]
      constructor
      · rintro ⟨_, ⟨hall, rfl⟩, hsucceeds, rfl⟩
        refine ⟨fun doc hdoc => ⟨hall doc hdoc, fun mid hmid => ?_⟩, List.flatMap_assoc⟩
        exact hsucceeds mid (List.mem_flatMap.mpr ⟨doc, hdoc, hmid⟩)
      · rintro ⟨hall, rfl⟩
        refine ⟨docs.flatMap before, ⟨fun doc hdoc => (hall doc hdoc).1, rfl⟩, fun mid hmid => ?_,
          List.flatMap_assoc.symm⟩
        obtain ⟨doc, hdoc, hmem⟩ := List.mem_flatMap.mp hmid
        exact (hall doc hdoc).2 mid hmem

/-- The rows that stages make of one document, if they succeed on it. -/
def rowsOf [Filter.Engine] (s : Store) (stages : Pipeline) (doc : Value) : List Value :=
  (s.apply stages [doc]).toOption.getD []

/-- Stages that treat documents one by one succeed on several when they succeed on each, and then
put the rows of each together. -/
theorem apply_eq_ok_iff [Filter.Engine] (s : Store) {stages : Pipeline} (h : Rowwise stages)
    {out : List Value} :
    s.apply stages docs = .ok out ↔
      (∀ doc ∈ docs, ∃ rows, s.apply stages [doc] = .ok rows) ∧
        out = docs.flatMap (s.rowsOf stages) := by
  obtain ⟨succeeds, rows, hrows⟩ := apply_pointwise s h
  have hsingle (doc : Value) (hdoc : succeeds doc) : s.apply stages [doc] = .ok (rows doc) :=
    (hrows [doc] _).mpr ⟨List.forall_mem_singleton.mpr hdoc, (List.flatMap_singleton ..).symm⟩
  have hsame (doc : Value) (hdoc : succeeds doc) : rows doc = s.rowsOf stages doc := by
    rw [rowsOf, hsingle doc hdoc]
    rfl
  constructor
  · intro hrun
    obtain ⟨hall, rfl⟩ := (hrows docs out).mp hrun
    refine ⟨fun doc hdoc => ⟨_, hsingle doc (hall doc hdoc)⟩, ?_⟩
    exact List.flatMap_congr fun doc hdoc => hsame doc (hall doc hdoc)
  · rintro ⟨hall, rfl⟩
    have hsucceeds : ∀ doc ∈ docs, succeeds doc := by
      intro doc hdoc
      obtain ⟨out, hout⟩ := hall doc hdoc
      exact ((hrows [doc] out).mp hout).1 doc (List.mem_singleton_self doc)
    refine (hrows docs _).mpr ⟨hsucceeds, ?_⟩
    exact List.flatMap_congr fun doc hdoc => (hsame doc (hsucceeds doc hdoc)).symm

/-! ## In any order -/

theorem applyStage_perm [Filter.Engine] (s : Store) (h : stage.isRowwise = true)
    (hdocs : docs.Perm docs') :
    OkTogether List.Perm (s.applyStage stage docs) (s.applyStage stage docs') := by
  obtain ⟨rows, hrows⟩ := applyStage_rowwise s h
  rw [hrows, hrows]
  exact (okTogether_mapM rows hdocs).map fun _ _ hperm => hperm.flatten

theorem project_perm (flags : FieldMap Inclusion) (hdocs : docs.Perm docs') :
    OkTogether List.Perm (project flags docs) (project flags docs') := by
  unfold project
  split
  · split
    · trivial
    · exact hdocs.map _
  · exact hdocs.map _

theorem sort_perm (keys : FieldMap Direction) (docs : List Value) : (sort keys docs).Perm docs :=
  List.mergeSort_perm docs _

/-- Sorts decide only on the order of the rows. -/
theorem apply_unsorted [Filter.Engine] (s : Store) {stages : Pipeline}
    (h : ∀ stage ∈ stages, stage.isAccumulated = true) (hdocs : docs.Perm docs') :
    OkTogether List.Perm (s.apply stages docs) (s.apply (unsorted stages) docs') := by
  induction stages generalizing docs docs' with
  | nil => exact hdocs
  | cons stage rest ih =>
      have hrest := fun stage hstage => h stage (List.mem_cons_of_mem _ hstage)
      rw [apply_cons]
      rcases Bool.or_eq_true_iff.mp (h stage (List.mem_cons_self ..)) with hsort | hrowwise
      · obtain ⟨keys, rfl⟩ := Stage.eq_sort hsort
        rw [unsorted_cons_sort, applyStage, ok_bind]
        exact ih hrest ((sort_perm keys docs).trans hdocs)
      · rw [unsorted_cons hrowwise, apply_cons]
        exact (applyStage_perm s hrowwise hdocs).bind fun _ _ hperm => ih hrest hperm

end Store

end DocQuery
