import DocQuery.Filter.RegexEngine
import DocQuery.Proofs.Store.Documents

/-!
# Documents do not see each other

A stage that filters, projects, joins, unwinds or changes fields makes rows of every document by
itself. So it treats a list of documents in parts as it treats the whole: it succeeds when it does
on each part, and the rows of one part follow those of the other (`applyStage_docs_append`). One
step hands such a division on to the next, and a run keeps it (`apply_docs_append_eq_ok`).

A projection may be refused, and then it is refused for an empty list as well; this is why a run is
compared with the runs on the parts and not with the runs on single documents. Of two errors a run
of several stages meets the one in the earlier stage and the runs on the parts the one in the
earlier part, so only success and rows are compared.
-/

namespace DocQuery

/-- Whether the stage looks at one document at a time. -/
def Stage.isLocal : Stage → Bool
  | .filter _ | .project _ | .lookup _ | .unwind _ | .set _ | .addFields _ | .unset _ => true
  | _ => false

/-- Stages that look at one document at a time. -/
def Local (stages : Pipeline) : Prop := ∀ stage ∈ stages, stage.isLocal = true

instance (stages : Pipeline) : Decidable (Local stages) := by unfold Local; infer_instance

namespace Store

theorem project_append (flags : FieldMap Inclusion) (docs others : List Value) :
    project flags (docs ++ others)
      = (project flags docs >>= fun rows => (rows ++ ·) <$> project flags others) := by
  unfold project
  split
  · split
    · rfl
    · rw [List.map_append]
      rfl
  · rw [List.map_append]
    rfl

theorem mapM_docs_append (f : Value → Except StoreError Value) (docs others : List Value) :
    (docs ++ others).mapM f = (docs.mapM f >>= fun rows => (rows ++ ·) <$> others.mapM f) := by
  rw [List.mapM_append]
  simp only [pure_eq_ok, bind_ok_eq_map]

section Parts

variable [Filter.Engine] {stage : Stage} {stages : Pipeline}

/-- A stage that looks at one document at a time goes through a list part by part. -/
theorem applyStage_docs_append (s : Store) (h : stage.isLocal = true) (docs others : List Value) :
    s.applyStage stage (docs ++ others)
      = (s.applyStage stage docs >>= fun rows => (rows ++ ·) <$> s.applyStage stage others) := by
  cases stage with
  | filter condition => exact filterItems_append _ docs others
  | project flags => exact project_append flags docs others
  | lookup join => simp only [applyStage, ok_bind, map_ok, List.map_append]
  | unwind u => simp only [applyStage, ok_bind, map_ok, List.flatMap_append]
  | set fields => exact mapM_docs_append _ docs others
  | addFields fields => exact mapM_docs_append _ docs others
  | unset field => simp only [applyStage, ok_bind, map_ok, List.map_append]
  | _ => cases h

/-- A run of such stages goes through a list part by part. -/
theorem apply_docs_append_eq_ok (s : Store) (h : Local stages) {docs others out : List Value} :
    s.apply stages (docs ++ others) = .ok out ↔
      ∃ rows rows', s.apply stages docs = .ok rows ∧ s.apply stages others = .ok rows' ∧
        out = rows ++ rows' := by
  induction stages generalizing docs others with
  | nil => simp [apply, eq_comm]
  | cons stage rest ih =>
      obtain ⟨hstage, hrest⟩ := List.forall_mem_cons.mp h
      simp only [apply_cons, applyStage_docs_append s hstage, bind_eq_ok, map_eq_ok]
      constructor
      · rintro ⟨_, ⟨mid, hmid, mid', hmid', rfl⟩, hrun⟩
        obtain ⟨rows, rows', hrows, hrows', rfl⟩ := (ih hrest).mp hrun
        exact ⟨rows, rows', ⟨mid, hmid, hrows⟩, ⟨mid', hmid', hrows'⟩, rfl⟩
      · rintro ⟨rows, rows', ⟨mid, hmid, hrows⟩, ⟨mid', hmid', hrows'⟩, rfl⟩
        exact ⟨mid ++ mid', ⟨mid, hmid, mid', hmid', rfl⟩,
          (ih hrest).mpr ⟨rows, rows', hrows, hrows', rfl⟩⟩

/-- **Evaluation is local to each row.** Stages that look at one document at a time succeed on two
lists together if and only if they succeed on each of them, and then the rows of the first come
first and those of the second follow. -/
theorem evaluation_is_local (s : Store) (h : Local stages) (docs others : List Value) :
    ((∃ out, s.apply stages (docs ++ others) = .ok out) ↔
      (∃ rows, s.apply stages docs = .ok rows) ∧ ∃ rows, s.apply stages others = .ok rows) ∧
    ∀ rows rows', s.apply stages docs = .ok rows → s.apply stages others = .ok rows' →
      s.apply stages (docs ++ others) = .ok (rows ++ rows') := by
  have happend (rows rows' : List Value) (hrows : s.apply stages docs = .ok rows)
      (hrows' : s.apply stages others = .ok rows') :
      s.apply stages (docs ++ others) = .ok (rows ++ rows') :=
    (apply_docs_append_eq_ok s h).mpr ⟨rows, rows', hrows, hrows', rfl⟩
  refine ⟨⟨?_, ?_⟩, happend⟩
  · rintro ⟨out, hout⟩
    obtain ⟨rows, rows', hrows, hrows', -⟩ := (apply_docs_append_eq_ok s h).mp hout
    exact ⟨⟨rows, hrows⟩, rows', hrows'⟩
  · rintro ⟨⟨rows, hrows⟩, rows', hrows'⟩
    exact ⟨_, happend rows rows' hrows hrows'⟩

end Parts

/-- A store of two tags. -/
def sampleTags : Store :=
  ⟨[("tags", [.object [("_id", .string "a"), ("rank", .ofInt 1)],
    .object [("_id", .string "b"), ("rank", .ofInt 2)]])]⟩

/-- Stages of every local kind: documents that are live, one row for each of their tags, the number
of their notes, and names without the rest. -/
def tagStages : Pipeline :=
  [.filter [("live", .bool true)], .lookup ⟨"tags", "tags", "_id", "tags"⟩, .unwind ⟨"$tags", true⟩,
    .set [("rank", .string "$tags.rank")],
    .addFields [("notes", .object [("$size", .string "$notes")])], .unset "tags",
    .project [("live", .excluded)]]

/-- A document with two tags. -/
def taggedTwice : Value :=
  .object [("live", .bool true), ("tags", .array [.string "b", .string "a"]), ("notes", .array [])]

/-- A document without a tag. -/
def untagged : Value := .object [("live", .bool true), ("notes", .array [.null])]

/-- A document on which the number of notes cannot be computed. -/
def noteless : Value := .object [("live", .bool true)]

attribute [local instance] Filter.regexEngine

theorem evaluation_is_local_tags :
    Local tagStages ∧
    (∃ rows rows', sampleTags.apply tagStages [taggedTwice] = .ok rows ∧ rows.length = 2 ∧
      sampleTags.apply tagStages [untagged] = .ok rows' ∧ rows'.length = 1 ∧
      sampleTags.apply tagStages [taggedTwice, untagged] = .ok (rows ++ rows')) ∧
    ¬∃ out, sampleTags.apply tagStages [taggedTwice, noteless] = .ok out := by
  have h : Local tagStages := by decide
  have hfirst : sampleTags.apply tagStages [taggedTwice]
      = .ok [.object [("notes", .ofInt 0), ("rank", .ofInt 1)],
        .object [("notes", .ofInt 0), ("rank", .ofInt 2)]] := by cbv
  have hsecond : sampleTags.apply tagStages [untagged]
      = .ok [.object [("notes", .ofInt 1)]] := by cbv
  have hthird : sampleTags.apply tagStages [noteless]
      = .error (.invalidArgument "$size" .notArray) := by cbv
  have htwo := evaluation_is_local sampleTags h [taggedTwice] [untagged]
  have hnone := evaluation_is_local sampleTags h [taggedTwice] [noteless]
  refine ⟨h, ⟨_, _, hfirst, rfl, hsecond, rfl, htwo.2 _ _ hfirst hsecond⟩, fun hout => ?_⟩
  obtain ⟨-, rows, hrows⟩ := hnone.1.mp hout
  rw [hthird] at hrows
  cases hrows

end Store

end DocQuery
