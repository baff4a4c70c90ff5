import DocQuery.Filter.RegexEngine
import DocQuery.Proofs.Expression.Constants
import DocQuery.Proofs.Query.Answers
import DocQuery.Proofs.Store.ComputedFields

/-!
# Constant fields

Fields computed from constants do not depend on the document, and under names without dots each is
written at the top of it. Writing them is therefore merging them into the document
(`setFields_constants`), which sets these fields and leaves the others in their places
(`setsExactly_merge`). The stage never fails, so the rows of a query that it is added to are those
from before, with the fields set.
-/

namespace DocQuery

/-- Every field is a constant under a name without dots. -/
def ConstantFields (body : Document) : Prop :=
  ∀ entry ∈ body, Path.Undotted entry.1 ∧ Expression.IsConstant entry.2

instance (body : Document) : Decidable (ConstantFields body) :=
  inferInstanceAs (Decidable (∀ entry ∈ body, _ ∧ _))

/-- The row is the document with the fields of the body set, and no other field changed: those that
were there keep their places, and the new ones come behind them in the order of the body. -/
structure SetsExactly (body doc row : Document) : Prop where
  set : ∀ entry ∈ body, row.get? entry.1 = some entry.2
  others : row.outside body.keys = doc.outside body.keys
  keys : row.keys = doc.keys ++ body.keys.filter (· ∉ doc.keys)

theorem setsExactly_merge {body : Document} (h : body.DistinctKeys) (doc : Document) :
    SetsExactly body doc (doc.merge body) where
  set _ hentry := FieldMap.get?_merge_of_mem doc h hentry
  others := FieldMap.outside_merge (List.Subset.refl _) doc
  keys := FieldMap.keys_merge_of_distinct doc h

namespace Store

variable {body : Document}

theorem computed_constants (h : ConstantFields body) (doc : Value) :
    computed doc body = .ok (body.map fun entry => (entry.1, some entry.2)) := by
  rw [computed_eq_mapM]
  refine mapM_of_ok fun entry hentry => ?_
  rw [Expression.eval_constant entry.2 (h entry hentry).2, map_ok]

theorem foldl_setField_constants (h : ConstantFields body) (doc : Document) :
    (body.map fun entry => (entry.1, some entry.2)).foldl setField doc = doc.merge body := by
  induction body generalizing doc with
  | nil => rfl
  | cons entry rest ih =>
      obtain ⟨⟨hname, -⟩, hrest⟩ := List.forall_mem_cons.mp h
      rw [List.map_cons, List.foldl_cons, ih hrest, setField, Path.parse_of_undotted hname]
      rfl

theorem setFields_constants (h : ConstantFields body) (doc : Value) :
    setFields body doc = .ok (doc.mapFields (·.merge body)) := by
  rw [setFields, computed_constants h, ok_bind, funext (foldl_setField_constants h)]
  rfl

theorem apply_addFields_constants [Filter.Engine] (s : Store) (h : ConstantFields body)
    (stages : Pipeline) (docs : List Value) :
    s.apply (stages ++ [.addFields body]) docs
      = List.map (Value.mapFields (·.merge body)) <$> s.apply stages docs := by
  have hstage (rows : List Value) : s.apply [.addFields body] rows
      = .ok (rows.map (Value.mapFields (·.merge body))) := by
    rw [apply_singleton, applyStage, mapM_of_ok fun doc _ => setFields_constants h doc]
  rw [apply_append, funext hstage, bind_ok_eq_map]

end Store

namespace Query

/-- **Constants stand for themselves.** A constant is its own value in every scope. So a call that
computes fields from constants, under names without dots, sets these fields on every document and
changes no other, whatever the store: the rows of the query are those from before, with the fields
set, and if there is an error it is an earlier one. -/
theorem constants_stand_for_themselves [Filter.Engine] :
    (∀ v, Expression.IsConstant v → ∀ scope, Expression.eval scope v = .ok (some v)) ∧
    ∀ body : Document, body.DistinctKeys → ConstantFields body →
      (∀ doc : Document, SetsExactly body doc (doc.merge body)) ∧
      (∀ (s : Store) docs, s.applyStage (.addFields body) docs
        = .ok (docs.map (Value.mapFields (·.merge body)))) ∧
      ∀ q : Query, ∃ q', q.addFields (.object body) = .ok q' ∧
        ∀ s : Store, q'.bare.rows s.run = List.map (·.merge body) <$> q.bare.rows s.run := by
  refine ⟨fun v hv scope => Expression.eval_constant v hv, fun body hbody hconstant => ?_⟩
  refine ⟨setsExactly_merge hbody, fun s docs => ?_,
    fun q => ⟨q.push (.addFields body), rfl, fun s => ?_⟩⟩
  · rw [← Store.apply_singleton]
    exact Store.apply_addFields_constants s hconstant [] docs
  · rw [rows, rows, pipeline_bare, pipeline_bare, Store.run_eq_map, Store.run_eq_map, push,
      Store.apply_addFields_constants s hconstant, Functor.map_map, Functor.map_map]
    exact congrArg (· <$> _) (funext (Value.filterMap_fields?_mapFields _))

/-- Constants of every shape. The name with a dollar sign stands beside another one. -/
def badge : Document :=
  [("role", .null), ("levels", .array [.ofInt 1, .null, .array [.object []]]),
    ("card", .object [("$id", .string "a$"), ("none", .null),
      ("owner", .object [("id", .ofInt 2)])])]

attribute [local instance] Filter.regexEngine

theorem constants_stand_for_themselves_badge :
    badge.DistinctKeys ∧ ConstantFields badge ∧
    (∀ scope, Expression.eval scope (.object badge) = .ok (some (.object badge))) ∧
    ∃ q', sampleAdmins.addFields (.object badge) = .ok q' ∧
      q'.bare.rows sampleMembers.run = .ok (["Ada", "Cy", "Di"].map fun name =>
        ("name", .string name) :: badge) := by
  have hbody : badge.DistinctKeys := by decide
  have hconstant : ConstantFields badge := by decide
  obtain ⟨hself, hfields⟩ := constants_stand_for_themselves
  obtain ⟨-, -, hquery⟩ := hfields badge hbody hconstant
  obtain ⟨q', hq', hrows⟩ := hquery sampleAdmins
  exact ⟨hbody, hconstant, hself _ (by decide), q', hq', (hrows sampleMembers).trans rfl⟩

end Query

end DocQuery
