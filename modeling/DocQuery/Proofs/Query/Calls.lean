import DocQuery.Query.Basic
import DocQuery.Proofs.Outcome

/-!
# Sequences of calls

A query is reached from a fresh one by a list of calls, each of which is made on the query that the
one before it gave. An accepted call is a join, or adds one stage that is no lookup, or adds keys to
sort by, or sets something aside (`step_of_call`); later proofs about calls go through these four
cases. A call leaves alone what the query is bound to, and all stages up to the last one that is no
sort (`stages_of_call`).
-/

namespace DocQuery

/-- A call that builds a query. -/
inductive Call where
  | filter (condition : Value)
  | filterEquals (field : String) (value : Value)
  | filterCompare (field token : String) (operand : Operand)
  | orderBy (s : SortSpec)
  | orderByField (field : String) (direction : Direction)
  | join (path : String)
  | addFields (fields : Value)
  | select (s : Selection)
  | skip (n : Nat)
  | limit (n : Nat)

/-- The path of a join. -/
def Call.path? : Call → Option String
  | .join path => some path
  | _ => none

theorem Call.eq_join {c : Call} {path : String} (h : c.path? = some path) : c = .join path := by
  cases c with
  | join path' => rw [Option.some.inj h]
  | _ => cases h

namespace Query

/-- Makes a call. -/
def call (q : Query) : Call → Except BuildError Query
  | .filter condition => q.filter condition
  | .filterEquals field value => .ok (q.filterEquals field value)
  | .filterCompare field token operand => q.filterCompare field token operand
  | .orderBy s => q.orderBy s
  | .orderByField field direction => .ok (q.orderByField field direction)
  | .join path => q.join path
  | .addFields fields => q.addFields fields
  | .select s => .ok (q.select s)
  | .skip n => .ok (q.skip n)
  | .limit n => .ok (q.limit n)

/-- Makes calls one after the other; the first that is refused ends them. -/
def calls (q : Query) (history : List Call) : Except BuildError Query := history.foldlM call q

variable {q q' : Query} {c : Call} {history : List Call}

@[simp] theorem calls_nil (q : Query) : q.calls [] = .ok q := rfl

theorem calls_cons (q : Query) (c : Call) (rest : List Call) :
    q.calls (c :: rest) = (q.call c >>= fun q => q.calls rest) := by
  rw [calls, List.foldlM_cons]
  rfl

theorem calls_append (q : Query) (first rest : List Call) :
    q.calls (first ++ rest) = (q.calls first >>= fun q => q.calls rest) := by
  induction first generalizing q with
  | nil => rfl
  | cons c first ih =>
      rw [List.cons_append, calls_cons, calls_cons]
      cases q.call c with
      | error e => rfl
      | ok q => exact ih q

/-- What every accepted call keeps, every sequence of accepted calls keeps. -/
theorem calls_induct {P : Query → Prop} (hstep : ∀ q c q', P q → q.call c = .ok q' → P q')
    (h : q.calls history = .ok q') (hq : P q) : P q' := by
  induction history generalizing q with
  | nil =>
      obtain rfl := Except.ok.inj h
      exact hq
  | cons c rest ih =>
      rw [calls_cons] at h
      obtain ⟨mid, hmid, h⟩ := bind_eq_ok.mp h
      exact ih h (hstep q c mid hq hmid)

/-! ## One call -/

/-- What an accepted call does to a query. -/
inductive Step (q : Query) : Call → Query → Prop where
  | join {path : String} {q' : Query} (hjoin : q.join path = .ok q') : Step q (.join path) q'
  | filter {c : Call} (hc : c.path? = none) (condition : Document) :
      Step q c (q.push (.filter condition))
  | addFields {c : Call} (hc : c.path? = none) (fields : Document) :
      Step q c (q.push (.addFields fields))
  | sort {c : Call} (hc : c.path? = none) (keys : FieldMap Direction) :
      Step q c { q with stages := pushSort q.stages keys }
  | aside {c : Call} (hc : c.path? = none) (projection : Option (FieldMap Inclusion))
      (toSkip toTake : Option Nat) : Step q c { q with projection, toSkip, toTake }

theorem step_of_call (h : q.call c = .ok q') : Step q c q' := by
  cases c with
  | filter condition =>
      obtain ⟨body, -, h⟩ := bind_eq_ok.mp h
      obtain rfl := Except.ok.inj h
      exact .filter rfl body
  | filterEquals field value =>
      obtain rfl := Except.ok.inj h
      exact .filter rfl _
  | filterCompare field token operand =>
      obtain ⟨body, -, h⟩ := bind_eq_ok.mp h
      obtain rfl := Except.ok.inj h
      exact .filter rfl body
  | orderBy s =>
      obtain ⟨keys, -, h⟩ := bind_eq_ok.mp h
      obtain rfl := Except.ok.inj h
      exact .sort rfl keys
  | orderByField field direction =>
      obtain rfl := Except.ok.inj h
      exact .sort rfl _
  | join path => exact .join h
  | addFields fields =>
      cases fields with
      | object fields =>
          obtain rfl := Except.ok.inj h
          exact .addFields rfl fields
      | _ => cases h
  | select s =>
      obtain rfl := Except.ok.inj h
      exact .aside rfl _ _ _
  | skip n =>
      obtain rfl := Except.ok.inj h
      exact .aside rfl _ _ _
  | limit n =>
      obtain rfl := Except.ok.inj h
      exact .aside rfl _ _ _

/-- An accepted join adds stages and joined paths, or nothing. -/
theorem join_adds {path : String} (h : q.join path = .ok q') :
    ∃ added fresh, q' = { q with stages := q.stages ++ added, joined := q.joined ++ fresh } := by
  obtain ⟨plan, -, h⟩ := bind_eq_ok.mp h
  cases plan with
  | none =>
      obtain rfl := Except.ok.inj h
      exact ⟨[], [], by rw [List.append_nil, List.append_nil]⟩
  | some plan => exact ⟨_, _, (Except.ok.inj h).symm⟩

/-! ## What a call leaves alone -/

/-- Two queries for the same entity, by the same schema and with the same options. -/
structure SameBinding (q q' : Query) : Prop where
  entity : q'.entity = q.entity
  schema : q'.schema = q.schema
  options : q'.options = q.options

theorem sameBinding_of_call (h : q.call c = .ok q') : SameBinding q q' := by
  cases step_of_call h with
  | join hjoin =>
      obtain ⟨added, fresh, rfl⟩ := join_adds hjoin
      exact ⟨rfl, rfl, rfl⟩
  | filter => exact ⟨rfl, rfl, rfl⟩
  | addFields => exact ⟨rfl, rfl, rfl⟩
  | sort => exact ⟨rfl, rfl, rfl⟩
  | aside => exact ⟨rfl, rfl, rfl⟩

theorem sameBinding_of_calls (h : q.calls history = .ok q') : SameBinding q q' := by
  refine calls_induct (P := SameBinding q) (fun mid c next hmid hcall => ?_) h ⟨rfl, rfl, rfl⟩
  have hnext := sameBinding_of_call hcall
  exact ⟨hnext.entity.trans hmid.entity, hnext.schema.trans hmid.schema,
    hnext.options.trans hmid.options⟩

theorem joined_of_call (hc : c.path? = none) (h : q.call c = .ok q') : q'.joined = q.joined := by
  cases step_of_call h with
  | join => cases hc
  | filter => rfl
  | addFields => rfl
  | sort => rfl
  | aside => rfl

theorem joined_subset_of_call (h : q.call c = .ok q') : q.joined ⊆ q'.joined := by
  cases step_of_call h with
  | join hjoin =>
      obtain ⟨added, fresh, rfl⟩ := join_adds hjoin
      exact List.subset_append_left _ _
  | filter => exact List.Subset.refl _
  | addFields => exact List.Subset.refl _
  | sort => exact List.Subset.refl _
  | aside => exact List.Subset.refl _

theorem joined_subset_of_calls (h : q.calls history = .ok q') : q.joined ⊆ q'.joined :=
  calls_induct (P := fun mid => q.joined ⊆ mid.joined)
    (fun _ _ _ hmid hcall => List.Subset.trans hmid (joined_subset_of_call hcall)) h
    (List.Subset.refl _)

theorem pushSort_cons (keys : FieldMap Direction) (first : Stage) {rest : Pipeline}
    (hrest : rest ≠ []) :
    pushSort (first :: rest) keys = first :: pushSort rest keys := by
  obtain ⟨second, rest, rfl⟩ := List.exists_cons_of_ne_nil hrest
  cases first <;> rfl

theorem pushSort_append (keys : FieldMap Direction) (before : Pipeline) {rest : Pipeline}
    (hrest : rest ≠ []) : pushSort (before ++ rest) keys = before ++ pushSort rest keys := by
  induction before with
  | nil => rfl
  | cons first before ih =>
      rw [List.cons_append, pushSort_cons keys first (by simp [hrest]), ih, List.cons_append]

/-- Keys to sort by become tie-breakers of a sort at the end, or a sort of their own. -/
theorem pushSort_cases (stages : Pipeline) (keys : FieldMap Direction) :
    (∃ before earlier, stages = before ++ [.sort earlier] ∧
      pushSort stages keys = before ++ [.sort (earlier.merge keys)]) ∨
    ((∀ earlier, stages.getLast? ≠ some (.sort earlier)) ∧
      pushSort stages keys = stages ++ [.sort keys]) := by
  rcases List.eq_nil_or_concat stages with rfl | ⟨before, last, rfl⟩
  · exact .inr ⟨by simp, rfl⟩
  · rw [List.concat_eq_append, pushSort_append keys before (List.cons_ne_nil last [])]
    cases last with
    | sort earlier => exact .inl ⟨before, earlier, rfl, rfl⟩
    | _ => exact .inr ⟨by simp, by rw [List.append_assoc]; rfl⟩

theorem mem_pushSort {stages : Pipeline} {keys : FieldMap Direction} {stage : Stage}
    (h : stage ∈ pushSort stages keys) : stage ∈ stages ∨ stage = .sort keys ∨
      ∃ earlier, .sort earlier ∈ stages ∧ stage = .sort (earlier.merge keys) := by
  rcases pushSort_cases stages keys with ⟨before, earlier, rfl, hsort⟩ | ⟨-, hsort⟩
  · rw [hsort] at h
    rcases List.mem_append.mp h with hold | hlast
    · exact .inl (List.mem_append_left _ hold)
    · exact .inr (.inr ⟨earlier, by simp, List.mem_singleton.mp hlast⟩)
  · rw [hsort] at h
    rcases List.mem_append.mp h with hold | hlast
    · exact .inl hold
    · exact .inr (.inl (List.mem_singleton.mp hlast))

/-- Keys to sort by go behind every stage that is no sort. -/
theorem pushSort_behind (keys : FieldMap Direction) {stage : Stage}
    (hstage : ∀ keys, stage ≠ .sort keys) (before after : Pipeline) :
    pushSort (before ++ stage :: after) keys = before ++ stage :: pushSort after keys := by
  rw [pushSort_append keys before (List.cons_ne_nil stage after)]
  cases stage with
  | sort earlier => exact absurd rfl (hstage earlier)
  | _ => cases after <;> rfl

/-- No call changes a stage that is no sort, or one that stands before it. -/
theorem stages_of_call (h : q.call c = .ok q') {stage : Stage} (hstage : ∀ keys, stage ≠ .sort keys)
    {before after : Pipeline} (hq : q.stages = before ++ stage :: after) :
    ∃ after', q'.stages = before ++ stage :: after' := by
  have happend (added : Pipeline) : q.stages ++ added = before ++ stage :: (after ++ added) := by
    rw [hq, List.append_assoc, List.cons_append]
  cases step_of_call h with
  | join hjoin =>
      obtain ⟨added, fresh, rfl⟩ := join_adds hjoin
      exact ⟨_, happend added⟩
  | filter => exact ⟨_, happend _⟩
  | addFields => exact ⟨_, happend _⟩
  | sort hc keys =>
      refine ⟨pushSort after keys, ?_⟩
      rw [← pushSort_behind keys hstage, ← hq]
  | aside => exact ⟨after, hq⟩

end Query

end DocQuery
