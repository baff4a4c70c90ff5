import DocQuery.Proofs.Join.History
import DocQuery.Proofs.Query.Accumulated

/-!
# What calls hold aside

A selection, a skip and a limit replace what was held aside before, and nothing else in a query
depends on it (`call_holding`). So a run of calls accumulates what its other calls accumulate, and
holds aside what the last selection, the last skip and the last limit say (`calls_eq_holding`).
Where these three stand among the other calls makes no difference, not even between two sorts.

Behind the accumulated stages come a projection, a skip and a limit, in this order and each of them
at most once; calls accumulate no stage of these kinds.
-/

namespace DocQuery

/-! ## Calls that set something aside -/

namespace Call

/-- The fields that a call selects. -/
def selected? : Call → Option Selection
  | .select s => some s
  | _ => none

/-- How many rows a call skips. -/
def skipped? : Call → Option Nat
  | .skip n => some n
  | _ => none

/-- How many rows a call takes at most. -/
def limited? : Call → Option Nat
  | .limit n => some n
  | _ => none

/-- Whether a call does nothing but set something aside. -/
def isAside : Call → Bool
  | .select _ | .skip _ | .limit _ => true
  | _ => false

end Call

/-- The calls that do more than set something aside, in order. -/
def others (history : List Call) : List Call := history.filter fun c => !c.isAside

/-- The other calls are made in the same order, and of the selections, the skips and the limits only
the last is made, anywhere among them. -/
structure Moved (history moved : List Call) : Prop where
  others : DocQuery.others moved = DocQuery.others history
  selected : moved.filterMap Call.selected? = (history.filterMap Call.selected?).getLast?.toList
  skipped : moved.filterMap Call.skipped? = (history.filterMap Call.skipped?).getLast?.toList
  limited : moved.filterMap Call.limited? = (history.filterMap Call.limited?).getLast?.toList

namespace Query

open Join (blogQuery)

variable {q q' : Query} {c : Call} {history : List Call}

/-- The query with other things held aside. -/
def holding (q : Query) (projection : Option (FieldMap Inclusion)) (toSkip toTake : Option Nat) :
    Query := { q with projection, toSkip, toTake }

/-- The projection of a selection; a selection without a field is none. -/
def projectionOf (s : Selection) : Option (FieldMap Inclusion) :=
  if s.compile.isEmpty then none else some s.compile

/-! ## Nothing depends on what is held aside -/

theorem call_holding (hc : c.isAside = false) (projection : Option (FieldMap Inclusion))
    (toSkip toTake : Option Nat) :
    (q.holding projection toSkip toTake).call c
      = (fun q' => q'.holding projection toSkip toTake) <$> q.call c := by
  cases c with
  | filter condition =>
      simp only [call, Query.filter]
      cases Condition.ofValue condition <;> rfl
  | filterEquals field value => rfl
  | filterCompare field token operand =>
      simp only [call, filterCompare]
      cases Condition.compare field token operand <;> rfl
  | orderBy s =>
      simp only [call, Query.orderBy]
      cases s.compile <;> rfl
  | orderByField field direction => rfl
  | join path =>
      simp only [call, Query.join, holding]
      cases Join.plan q.schema q.entity path q.options.maxJoinDepth q.joined with
      | error e => rfl
      | ok plan => cases plan <;> rfl
  | addFields fields => cases fields <;> rfl
  | _ => cases hc

theorem calls_holding (projection : Option (FieldMap Inclusion)) (toSkip toTake : Option Nat) :
    (q.holding projection toSkip toTake).calls (others history)
      = (fun q' => q'.holding projection toSkip toTake) <$> q.calls (others history) := by
  induction history generalizing q with
  | nil => rfl
  | cons c rest ih =>
      cases hc : c.isAside with
      | true => simpa [others, hc] using ih
      | false =>
          have hcons : others (c :: rest) = c :: others rest := by simp [others, hc]
          rw [hcons, calls_cons, calls_cons, call_holding hc]
          cases q.call c with
          | error e => rfl
          | ok mid => exact ih

/-- A call that is made for something else changes nothing that is held aside. -/
theorem held_of_call (hc : c.isAside = false) (h : q.call c = .ok q') :
    q'.projection = q.projection ∧ q'.toSkip = q.toSkip ∧ q'.toTake = q.toTake := by
  have hsame : q.call c = (fun q' => q'.holding q.projection q.toSkip q.toTake) <$> q.call c :=
    call_holding hc q.projection q.toSkip q.toTake
  rw [h, map_ok] at hsame
  rw [Except.ok.inj hsame]
  exact ⟨rfl, rfl, rfl⟩

/-! ## A run of calls -/

/-- The projection behind some calls: that of the last selection. -/
def projectionAfter (q : Query) (history : List Call) : Option (FieldMap Inclusion) :=
  ((history.filterMap Call.selected?).getLast?.map projectionOf).getD q.projection

/-- How many rows are skipped behind some calls. -/
def skipAfter (q : Query) (history : List Call) : Option Nat :=
  (history.filterMap Call.skipped?).getLast?.or q.toSkip

/-- How many rows are taken behind some calls. -/
def limitAfter (q : Query) (history : List Call) : Option Nat :=
  (history.filterMap Call.limited?).getLast?.or q.toTake

/-- A later call takes the place of an earlier one. -/
theorem call_aside (hc : c.isAside = true) (q : Query) (rest : List Call) :
    ∃ mid, q.call c = .ok mid ∧ mid = q.holding mid.projection mid.toSkip mid.toTake ∧
      mid.projectionAfter rest = q.projectionAfter (c :: rest) ∧
      mid.skipAfter rest = q.skipAfter (c :: rest) ∧
      mid.limitAfter rest = q.limitAfter (c :: rest) := by
  cases c with
  | select s =>
      refine ⟨q.select s, rfl, rfl, ?_, rfl, rfl⟩
      simp only [projectionAfter, List.filterMap_cons, Call.selected?, List.getLast?_cons,
        Option.map_some, Option.getD_some]
      cases (rest.filterMap Call.selected?).getLast? <;> rfl
  | skip n =>
      refine ⟨q.skip n, rfl, rfl, rfl, ?_, rfl⟩
      simp only [skipAfter, List.filterMap_cons, Call.skipped?, List.getLast?_cons]
      cases (rest.filterMap Call.skipped?).getLast? <;> rfl
  | limit n =>
      refine ⟨q.limit n, rfl, rfl, rfl, rfl, ?_⟩
      simp only [limitAfter, List.filterMap_cons, Call.limited?, List.getLast?_cons]
      cases (rest.filterMap Call.limited?).getLast? <;> rfl
  | _ => cases hc

theorem after_of_other (hc : c.isAside = false) (h : q.call c = .ok q') (rest : List Call) :
    q'.projectionAfter rest = q.projectionAfter (c :: rest) ∧
      q'.skipAfter rest = q.skipAfter (c :: rest) ∧
      q'.limitAfter rest = q.limitAfter (c :: rest) := by
  obtain ⟨hprojection, hskip, hlimit⟩ := held_of_call hc h
  cases c with
  | select s => cases hc
  | skip n => cases hc
  | limit n => cases hc
  | _ =>
      simp only [projectionAfter, skipAfter, limitAfter, hprojection, hskip, hlimit]
      exact ⟨rfl, rfl, rfl⟩

/-- A run of calls accumulates what the other calls accumulate, and holds aside what was said
last. -/
theorem calls_eq_holding (q : Query) (history : List Call) :
    q.calls history
      = (fun q' =>
          q'.holding (q.projectionAfter history) (q.skipAfter history) (q.limitAfter history))
          <$> q.calls (others history) := by
  induction history generalizing q with
  | nil => rfl
  | cons c rest ih =>
      cases hc : c.isAside with
      | true =>
          obtain ⟨mid, hcall, hmid, hprojection, hskip, hlimit⟩ := call_aside hc q rest
          have hcons : others (c :: rest) = others rest := by simp [others, hc]
          rw [calls_cons, hcall, ok_bind, ih, hprojection, hskip, hlimit, hcons, hmid,
            calls_holding, Functor.map_map]
          rfl
      | false =>
          have hcons : others (c :: rest) = c :: others rest := by simp [others, hc]
          rw [hcons, calls_cons, calls_cons]
          cases hcall : q.call c with
          | error e => rfl
          | ok mid =>
              obtain ⟨hprojection, hskip, hlimit⟩ := after_of_other hc hcall rest
              rw [ok_bind, ok_bind, ih, hprojection, hskip, hlimit]

theorem getLast?_toList {α : Type} (last : Option α) : last.toList.getLast? = last := by
  cases last <;> rfl

theorem calls_of_moved {moved : List Call} (hmoved : Moved history moved) (q : Query) :
    q.calls moved = q.calls history := by
  obtain ⟨hothers, hselected, hskipped, hlimited⟩ := hmoved
  rw [calls_eq_holding q moved, calls_eq_holding q history, hothers]
  simp only [projectionAfter, skipAfter, limitAfter, hselected, hskipped, hlimited, getLast?_toList]

/-! ## Behind the accumulated stages -/

/-- The kinds of the stages that come behind the accumulated ones, in order. -/
def heldKinds : List String := ["$project", "$skip", "$limit"]

theorem kind_of_isAccumulated {stage : Stage} (h : stage.isAccumulated = true) :
    stage.kind ∉ heldKinds := by
  cases stage with
  | project flags => cases h
  | skip n => cases h
  | limit n => cases h
  | _ => simp [Stage.kind, heldKinds]

theorem finalize_eq_append (q : Query) (w : Window) :
    ∃ tail, q.finalize w = q.stages ++ tail ∧ (tail.map Stage.kind).Sublist heldKinds := by
  refine ⟨(q.projection.map Stage.project).toList ++ ((w.skip.map Stage.skip).toList
    ++ (w.limit.map Stage.limit).toList), by simp [finalize], ?_⟩
  rw [List.map_append, List.map_append]
  have hproject :
      ((q.projection.map Stage.project).toList.map Stage.kind).Sublist ["$project"] := by
    cases q.projection <;> simp [Stage.kind]
  have hskip : ((w.skip.map Stage.skip).toList.map Stage.kind).Sublist ["$skip"] := by
    cases w.skip <;> simp [Stage.kind]
  have hlimit : ((w.limit.map Stage.limit).toList.map Stage.kind).Sublist ["$limit"] := by
    cases w.limit <;> simp [Stage.kind]
  exact hproject.append (hskip.append hlimit)

/-- **What is held aside may be said anywhere.** Let some calls be accepted. Of the selections, the
skips and the limits all but the last may be left out and the last made anywhere: the query is the
same, with all its pipelines. What is accumulated depends on the other calls alone. A pipeline is
the accumulated stages, and then at most one projection, one skip and one limit, in this order;
neither the accumulated stages nor the pipelines that count have any stage of these kinds. -/
theorem asides_move_freely {entity : String} {schema : Schema} {options : Options}
    {history : List Call} {q : Query}
    (h : ({ entity, schema, options } : Query).calls history = .ok q) :
    (∀ moved, Moved history moved → ({ entity, schema, options } : Query).calls moved = .ok q) ∧
    (∀ history', others history' = others history →
      ∃ q', ({ entity, schema, options } : Query).calls history' = .ok q' ∧ q'.stages = q.stages) ∧
    (∃ tail, q.pipeline = q.stages ++ tail ∧ (tail.map Stage.kind).Sublist heldKinds) ∧
    (∀ stage ∈ q.stages, stage.kind ∉ heldKinds) ∧
    (∀ stage ∈ q.countPipeline, stage.kind ∉ heldKinds) ∧
    ∀ w, ∃ data total, q.pagePipeline w = [.facet [(dataBranch, data), (totalBranch, total)]] ∧
      ∀ stage ∈ total, stage.kind ∉ heldKinds := by
  have hstages (stage : Stage) (hstage : stage ∈ q.stages) : stage.kind ∉ heldKinds :=
    kind_of_isAccumulated (accumulated_of_calls h stage hstage)
  have hcount (field : String) : ∀ stage ∈ q.stages ++ [.count field], stage.kind ∉ heldKinds := by
    intro stage hstage
    rcases List.mem_append.mp hstage with hold | hlast
    · exact hstages stage hold
    · rw [List.mem_singleton.mp hlast]
      simp [Stage.kind, heldKinds]
  refine ⟨fun moved hmoved => ?_, fun history' hothers => ?_, finalize_eq_append q q.window,
    hstages, hcount countField, fun w => ⟨_, _, rfl, hcount totalField⟩⟩
  · rw [calls_of_moved hmoved, h]
  · rw [calls_eq_holding] at h ⊢
    obtain ⟨last, hlast, rfl⟩ := map_eq_ok.mp h
    exact ⟨_, map_eq_ok.mpr ⟨last, hothers ▸ hlast, rfl⟩, rfl⟩

/-- A selection that is taken back, and a skip and a limit between two sorts. -/
def asideCalls : List Call :=
  [.select ⟨["name"]⟩, .skip 1, .orderByField "name" .ascending, .limit 10, .skip 5,
    .orderByField "age" .descending, .select ⟨[]⟩, .join "role"]

theorem asides_move_freely_blog :
    ∃ q, blogQuery.calls asideCalls = .ok q ∧
      blogQuery.calls [.orderByField "name" .ascending, .orderByField "age" .descending,
        .join "role", .limit 10, .select ⟨[]⟩, .skip 5] = .ok q := by
  obtain ⟨q, hq⟩ : ∃ q, blogQuery.calls asideCalls = .ok q := ⟨_, rfl⟩
  exact ⟨q, hq, (asides_move_freely hq).1 _ ⟨rfl, rfl, rfl, rfl⟩⟩

end Query

end DocQuery
