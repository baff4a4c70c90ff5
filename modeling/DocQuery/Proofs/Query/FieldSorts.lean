import DocQuery.Proofs.Join.History
import DocQuery.Proofs.Ordering

/-!
# Sorts by one field

A sort by one field is made by a call of its own, or as an ordering of one pair. With a field that
has a name the two calls have one outcome (`call_single`), so in a sequence of calls each may be
spelled the other way, wherever it stands and whatever it is merged into (`calls_of_respelled`).

An ordering drops entries without a name, and is refused when none is left. The call for one field
takes the name as it is. So with an empty name one call is refused and the other goes on, and the
condition of the equation is necessary (`field_sort_is_ordering_iff`).
-/

namespace DocQuery

namespace SortSpec

/-- The ordering by one field. -/
def single (field : String) (direction : Direction) : SortSpec := .pairList [(field, direction)]

theorem compile_single {field : String} (h : field ≠ "") (direction : Direction) :
    (single field direction).compile = .ok [(field, direction)] := by
  have hnamed : (single field direction).named = [(field, direction)] := by
    simp [named, single, entries, h]
  exact compile_eq_ok.mpr ⟨by simp [hnamed], by rw [hnamed]; rfl⟩

theorem compile_single_unnamed (direction : Direction) :
    (single "" direction).compile = .error .orderingWithoutField := rfl

end SortSpec

/-- The second call is the first, or sorts by the same named field as an ordering. -/
inductive Call.Respelled : Call → Call → Prop
  | same (c : Call) : Respelled c c
  | ordering {field : String} (h : field ≠ "") (direction : Direction) :
      Respelled (.orderByField field direction) (.orderBy (.single field direction))

namespace Query

open Join (blogQuery)

theorem call_single {field : String} (h : field ≠ "") (direction : Direction) (q : Query) :
    q.call (.orderBy (.single field direction)) = q.call (.orderByField field direction) := by
  rw [call, orderBy, SortSpec.compile_single h direction]
  rfl

theorem call_single_unnamed (direction : Direction) (q : Query) :
    q.call (.orderBy (.single "" direction)) = .error .orderingWithoutField := by
  rw [call, orderBy, SortSpec.compile_single_unnamed, error_bind]

theorem call_of_respelled {c c' : Call} (h : c.Respelled c') (q : Query) :
    q.call c = q.call c' := by
  cases h with
  | same => rfl
  | ordering hfield direction => exact (call_single hfield direction q).symm

/-- Calls that are spelled the other way, some or all of them, have the same outcome. -/
theorem calls_of_respelled {history respelled : List Call}
    (h : List.Forall₂ Call.Respelled history respelled) (q : Query) :
    q.calls history = q.calls respelled := by
  induction h generalizing q with
  | nil => rfl
  | cons hc _ ih =>
      rw [calls_cons, calls_cons, call_of_respelled hc]
      exact congrArg _ (funext ih)

/-- The pipelines that a query can send: for its rows, the first of them, their number, and a
page. -/
def pipelines (q : Query) : Pipeline × Pipeline × Pipeline × (PageWindow → Pipeline) :=
  (q.pipeline, q.firstPipeline, q.countPipeline, q.pagePipeline)

/-- **A sort by one field is an ordering.** In every sequence of calls one may stand for the other,
without a difference in what is accepted or in a pipeline, if and only if the field has a name; and
then any number of them may be replaced, with the same outcome. -/
theorem field_sort_is_ordering_iff (q : Query) (field : String) (direction : Direction) :
    ((∀ before after,
        pipelines <$> (q.calls (before ++ .orderByField field direction :: after)).toOption
          = pipelines
            <$> (q.calls (before ++ .orderBy (.single field direction) :: after)).toOption)
      ↔ field ≠ "") ∧
    ∀ history respelled, List.Forall₂ Call.Respelled history respelled →
      q.calls history = q.calls respelled := by
  refine ⟨⟨?_, fun hfield before after => ?_⟩, fun history respelled h => calls_of_respelled h q⟩
  · rintro hsame rfl
    have hfirst := hsame [] []
    rw [List.nil_append, List.nil_append, calls_cons, calls_cons, call_single_unnamed] at hfirst
    cases hfirst
  · have hrest : List.Forall₂ Call.Respelled after after := List.forall₂_same.mpr fun c _ => .same c
    have hbefore : List.Forall₂ Call.Respelled before before :=
      List.forall₂_same.mpr fun c _ => .same c
    rw [calls_of_respelled (List.rel_append hbefore (.cons (.ordering hfield direction) hrest))]

/-- Sorts by one field, of which the last is merged into the one before it. -/
def fieldSorts : List Call :=
  [.orderByField "name" .ascending, .join "role", .orderByField "age" .descending, .limit 3,
    .orderByField "name" .descending]

/-- The same sorts, two of them as orderings. -/
def pairSorts : List Call :=
  [.orderBy (.single "name" .ascending), .join "role", .orderByField "age" .descending, .limit 3,
    .orderBy (.single "name" .descending)]

theorem field_sort_is_ordering_iff_blog :
    List.Forall₂ Call.Respelled fieldSorts pairSorts ∧
    ∃ q, blogQuery.calls fieldSorts = .ok q ∧ blogQuery.calls pairSorts = .ok q ∧
      q.stages.getLast? = some (.sort [("age", .descending), ("name", .descending)]) := by
  have h : List.Forall₂ Call.Respelled fieldSorts pairSorts :=
    .cons (.ordering (by decide) _) (.cons (.same _) (.cons (.same _) (.cons (.same _)
      (.cons (.ordering (by decide) _) .nil))))
  obtain ⟨q, hq⟩ : ∃ q, blogQuery.calls fieldSorts = .ok q := ⟨_, rfl⟩
  have hpairs := (field_sort_is_ordering_iff blogQuery "name" .ascending).2 _ _ h
  refine ⟨h, q, hq, hpairs.symm.trans hq, ?_⟩
  obtain rfl := Except.ok.inj hq
  rfl

/-- Without a name the sort by one field is accepted, and the ordering is not. -/
theorem unnamed_field_sort_is_no_ordering :
    (∃ q, blogQuery.calls [.orderByField "" .ascending] = .ok q ∧
      q.pipeline = [.sort [("", .ascending)]]) ∧
    blogQuery.calls [.orderBy (.pairList [("", .ascending)])] = .error .orderingWithoutField :=
  ⟨⟨_, rfl, rfl⟩, rfl⟩

end Query

end DocQuery
