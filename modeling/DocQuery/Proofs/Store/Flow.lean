import DocQuery.Filter.RegexEngine
import DocQuery.Proofs.Store.Updates

/-!
# What flows through a pipeline

Between two stages a pipeline hands on a list of values, and a facet hands what it is given to each
of its branches (`Handed`). A stage that is handed objects hands on objects, so nothing else is ever
handed on (`Handed.objects`), and the rows of a run are what its last stage made
(`only_objects_flow`).
-/

namespace DocQuery.Store

section Flow

variable [Filter.Engine] {s : Store}

/-- A pipeline that is given `docs` hands on `out`: to its first stage, to a later one or to the
reader behind the last, or inside a branch of a facet. -/
inductive Handed (s : Store) : Pipeline → List Value → List Value → Prop where
  | first (stages : Pipeline) (docs : List Value) : Handed s stages docs docs
  | later {stage : Stage} {rest : Pipeline} {docs next out : List Value}
      (hstage : s.applyStage stage docs = .ok next) (hrest : Handed s rest next out) :
      Handed s (stage :: rest) docs out
  | inside {branches : FieldMap Pipeline} {name : String} {stages rest : Pipeline}
      {docs out : List Value} (hbranch : (name, stages) ∈ branches)
      (hstages : Handed s stages docs out) : Handed s (.facet branches :: rest) docs out

theorem Handed.objects {stages : Pipeline} {docs out : List Value} (h : Handed s stages docs out)
    (hdocs : ∀ doc ∈ docs, doc.isObject = true) : ∀ row ∈ out, row.isObject = true := by
  induction h with
  | first stages docs => exact hdocs
  | later hstage _ ih => exact ih (applyStage_objects hstage hdocs)
  | inside _ _ ih => exact ih hdocs

/-- What a pipeline ends in was handed on by its last stage. -/
theorem handed_of_apply {stages : Pipeline} {docs out : List Value}
    (h : s.apply stages docs = .ok out) : Handed s stages docs out := by
  induction stages generalizing docs with
  | nil =>
      rw [apply] at h
      obtain rfl := Except.ok.inj h
      exact .first [] docs
  | cons stage rest ih =>
      rw [apply_cons] at h
      obtain ⟨next, hstage, h⟩ := bind_eq_ok.mp h
      exact .later hstage (ih h)

/-- **Only objects flow through a pipeline.** In a store that any calls have filled, refused ones
among them, every pipeline hands on objects only, facets and their branches included. So a run
succeeds with the rows that come out of the last stage, all of them and in order. -/
theorem only_objects_flow (updates : List Update) (collection : String) (pipeline : Pipeline) :
    (∀ docs, Handed (ofUpdates updates) pipeline ((ofUpdates updates).documents collection) docs →
      ∀ doc ∈ docs, doc.isObject = true) ∧
    (∀ out,
      (ofUpdates updates).apply pipeline ((ofUpdates updates).documents collection) = .ok out →
      Handed (ofUpdates updates) pipeline ((ofUpdates updates).documents collection) out ∧
      ∃ rows, (ofUpdates updates).run collection pipeline = .ok rows ∧
        rows.map Value.object = out) := by
  have hs := holdsObjects_ofUpdates updates
  have hdocs : ∀ doc ∈ (ofUpdates updates).documents collection, doc.isObject = true :=
    fun doc hdoc => hs.isObject hdoc
  refine ⟨fun docs hhanded => hhanded.objects hdocs, fun out hout => ?_⟩
  have hrows := Value.eq_map_object (apply_objects hout hdocs)
  exact ⟨handed_of_apply hout, _, run_of_apply hout, hrows.symm⟩

end Flow

attribute [local instance] Filter.regexEngine

/-- Calls of which every kind is refused once. -/
def refusedUpdates : List Update :=
  [.insert "posts" .null,
    .insertMany "posts" [.object [("title", .string "Draft")], .null, .object []],
    .withCollection "posts" [.object [], .null]]

/-- A facet with a facet in it. -/
def nestedFacets : Pipeline :=
  [.facet [("first", [.limit 1, .facet [("again", [.skip 0])]]), ("total", [.count "count"])]]

theorem only_objects_flow_refusedUpdates :
    (∀ doc ∈ (ofUpdates refusedUpdates).documents "posts", doc.isObject = true) ∧
    ∃ rows, (ofUpdates refusedUpdates).run "posts" nestedFacets = .ok rows ∧
      rows.map Value.object = [.object [
        ("first", .array [.object [("again", .array [.object [("title", .string "Draft")]])]]),
        ("total", .array [.object [("count", .ofInt 1)]])]] := by
  obtain ⟨hobjects, hrows⟩ := only_objects_flow refusedUpdates "posts" nestedFacets
  refine ⟨hobjects _ ?_, (hrows _ rfl).2⟩
  exact .inside (List.mem_cons_self ..) (.later rfl (.inside (List.mem_cons_self ..) (.first _ _)))

end DocQuery.Store
