import DocQuery.Proofs.Join.Routes
import DocQuery.Proofs.Ordering
import DocQuery.Proofs.Query.Calls
import DocQuery.Proofs.Stage

/-!
# What calls accumulate

No call looks at the stages before it, except that a sort goes into a sort at the end (`call_sort`):
every other call adds the same stages whatever is accumulated already, and no sort among them
(`call_withStages`). So the stages of a query filter, sort, join and compute, and do nothing else
(`accumulated_of_calls`).
-/

namespace DocQuery

/-- Whether the call sorts. -/
def Call.isSort : Call → Bool
  | .orderBy _ | .orderByField _ _ => true
  | _ => false

/-! ## Joins -/

namespace Join

theorem rowwise_directStages (schema : Schema) (field : String) (r : Relationship) :
    Rowwise (directStages schema field r) := by
  unfold directStages
  cases r.cardinality <;> simp [Rowwise, Stage.isRowwise]

theorem rowwise_nestedStages (schema : Schema) (parent child : String) (r t : Relationship) :
    Rowwise (nestedStages schema parent r child t) := by
  simp [nestedStages, Rowwise, Stage.isRowwise]

theorem rowwise_route (schema : Schema) (route : Route) (known : Bool) :
    Rowwise (route.stages schema known) := by
  have hdirect : Rowwise (if known then [] else directStages schema route.parent route.first) := by
    cases known with
    | true => exact rowwise_nil
    | false => exact rowwise_directStages schema route.parent route.first
  unfold Route.stages
  refine hdirect.append ?_
  cases route.next with
  | none => exact rowwise_nil
  | some next => exact rowwise_nestedStages schema route.parent next.1 route.first next.2

end Join

/-! ## Calls -/

namespace Query

variable {q q' : Query} {c : Call} {history : List Call}

/-- The query with other stages. -/
def withStages (q : Query) (stages : Pipeline) : Query := { q with stages }

@[simp] theorem stages_withStages (q : Query) (stages : Pipeline) :
    (q.withStages stages).stages = stages := rfl

@[simp] theorem withStages_stages (q : Query) : q.withStages q.stages = q := rfl

@[simp] theorem withStages_withStages (q : Query) (stages later : Pipeline) :
    (q.withStages stages).withStages later = q.withStages later := rfl

theorem join_withStages {path : String} (h : q.join path = .ok q') :
    ∃ added, Rowwise added ∧
      ∀ stages, (q.withStages stages).join path = .ok (q'.withStages (stages ++ added)) := by
  cases hknown : q.joined.contains path with
  | true =>
      rw [Join.join_of_known hknown] at h
      obtain ⟨found, hnames, rfl⟩ := map_eq_ok.mp h
      refine ⟨[], rowwise_nil, fun stages => ?_⟩
      rw [Join.join_of_known (q := q.withStages stages) hknown, List.append_nil]
      exact map_eq_ok.mpr ⟨found, hnames, rfl⟩
  | false =>
      rw [Join.join_of_new hknown] at h
      obtain ⟨route, hroute, rfl⟩ := map_eq_ok.mp h
      refine ⟨_, Join.rowwise_route q.schema route (q.joined.contains route.parent),
        fun stages => ?_⟩
      rw [Join.join_of_new (q := q.withStages stages) hknown]
      refine map_eq_ok.mpr ⟨route, hroute, ?_⟩
      rw [Join.along_of_new hknown, Join.along_of_new (q := q.withStages stages) hknown]
      rfl

/-- An accepted call that does not sort adds the same stages to any other. -/
theorem call_withStages (hc : c.isSort = false) (h : q.call c = .ok q') :
    ∃ added, Rowwise added ∧
      ∀ stages, (q.withStages stages).call c = .ok (q'.withStages (stages ++ added)) := by
  cases c with
  | filter condition =>
      obtain ⟨body, hbody, h⟩ := bind_eq_ok.mp h
      obtain rfl := Except.ok.inj h
      refine ⟨[.filter body], rowwise_singleton rfl, fun stages => ?_⟩
      exact bind_eq_ok.mpr ⟨body, hbody, rfl⟩
  | filterEquals field value =>
      obtain rfl := Except.ok.inj h
      exact ⟨[_], rowwise_singleton rfl, fun stages => rfl⟩
  | filterCompare field token operand =>
      obtain ⟨body, hbody, h⟩ := bind_eq_ok.mp h
      obtain rfl := Except.ok.inj h
      refine ⟨[.filter body], rowwise_singleton rfl, fun stages => ?_⟩
      exact bind_eq_ok.mpr ⟨body, hbody, rfl⟩
  | orderBy s => cases hc
  | orderByField field direction => cases hc
  | join path => exact join_withStages h
  | addFields fields =>
      cases fields with
      | object fields =>
          obtain rfl := Except.ok.inj h
          refine ⟨[.addFields fields], rowwise_singleton rfl, fun stages => rfl⟩
      | _ => cases h
  | select s =>
      obtain rfl := Except.ok.inj h
      exact ⟨[], rowwise_nil, fun stages => by rw [List.append_nil]; rfl⟩
  | skip n =>
      obtain rfl := Except.ok.inj h
      exact ⟨[], rowwise_nil, fun stages => by rw [List.append_nil]; rfl⟩
  | limit n =>
      obtain rfl := Except.ok.inj h
      exact ⟨[], rowwise_nil, fun stages => by rw [List.append_nil]; rfl⟩

/-- An accepted call that sorts adds keys, each of which stands once. -/
theorem call_sort (hc : c.isSort = true) (h : q.call c = .ok q') :
    ∃ keys : FieldMap Direction, keys ≠ [] ∧ keys.DistinctKeys ∧
      q' = q.withStages (pushSort q.stages keys) := by
  cases c with
  | orderBy s =>
      obtain ⟨keys, hkeys, h⟩ := bind_eq_ok.mp h
      obtain ⟨hne, hdistinct⟩ := SortSpec.keys_of_compile hkeys
      exact ⟨keys, hne, hdistinct, (Except.ok.inj h).symm⟩
  | orderByField field direction =>
      exact ⟨[(field, direction)], List.cons_ne_nil _ _,
        FieldMap.distinctKeys_collect [(field, direction)], (Except.ok.inj h).symm⟩
  | _ => cases hc

/-- What an accepted call does to the accumulated stages. -/
theorem stages_cases (h : q.call c = .ok q') :
    (∃ added, Rowwise added ∧ q'.stages = q.stages ++ added) ∨
      ∃ keys : FieldMap Direction, keys ≠ [] ∧ keys.DistinctKeys ∧
        q'.stages = pushSort q.stages keys := by
  cases hc : c.isSort with
  | true =>
      obtain ⟨keys, hne, hdistinct, rfl⟩ := call_sort hc h
      exact .inr ⟨keys, hne, hdistinct, rfl⟩
  | false =>
      obtain ⟨added, hadded, hcall⟩ := call_withStages hc h
      have hsame := Except.ok.inj (h.symm.trans (hcall q.stages))
      exact .inl ⟨added, hadded, congrArg stages hsame⟩

theorem accumulated_of_call (h : q.call c = .ok q')
    (hq : ∀ stage ∈ q.stages, stage.isAccumulated = true) :
    ∀ stage ∈ q'.stages, stage.isAccumulated = true := by
  intro stage hstage
  rcases stages_cases h with ⟨added, hadded, hstages⟩ | ⟨keys, -, -, hstages⟩
  · rw [hstages] at hstage
    rcases List.mem_append.mp hstage with hold | hnew
    · exact hq stage hold
    · exact Stage.isAccumulated_of_isRowwise (hadded stage hnew)
  · rw [hstages] at hstage
    rcases mem_pushSort hstage with hold | rfl | ⟨earlier, -, rfl⟩
    · exact hq stage hold
    · rfl
    · rfl

/-- All that calls accumulate are filters, sorts, joins and computed fields. -/
theorem accumulated_of_calls {entity : String} {schema : Schema} {options : Options}
    (h : ({ entity, schema, options } : Query).calls history = .ok q) :
    ∀ stage ∈ q.stages, stage.isAccumulated = true :=
  calls_induct (P := fun q => ∀ stage ∈ q.stages, stage.isAccumulated = true)
    (fun _ _ _ hmid hcall => accumulated_of_call hcall hmid) h (fun _ hstage => nomatch hstage)

end Query

end DocQuery
