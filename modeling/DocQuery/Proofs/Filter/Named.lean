import DocQuery.Filter.RegexEngine
import DocQuery.Proofs.Expression.Named
import DocQuery.Proofs.Filter.Reads

/-!
# The names in a filter

The clauses of a filter that have no branches name fields: a condition the first one of its path, an
expression those of its strings. There are no variables around a filter, so all that an expression
can name besides fields is the document as a whole. Evaluation looks at what is named and at nothing
else (`reads_only_named`), with whatever outcome.
-/

namespace DocQuery.Filter

open Expression (AgreeOn documentNames eval variablesOf)

/-- The fields of the document that a clause without branches names. -/
def fieldsOfSimple (key : String) (cond : Value) : List String :=
  if key = "$expr" then Expression.fieldsOf cond
  else if startsWithDollar key then [] else [Path.head key]

/-- The fields of the document that a filter names. -/
def fieldsOf (filter : Document) : List String :=
  (simpleClauses filter).flatMap fun clause => fieldsOfSimple clause.1 clause.2

/-- Whether an expression of a filter names the document as a whole. -/
def namesDocument (filter : Document) : Bool :=
  (simpleClauses filter).any fun clause =>
    clause.1 = "$expr" && (variablesOf clause.2).any (· ∈ documentNames)

variable {filter doc doc' : Document}

theorem mem_fieldsOf {key field : String} {cond : Value}
    (hclause : (key, cond) ∈ simpleClauses filter) (hfield : field ∈ fieldsOfSimple key cond) :
    field ∈ fieldsOf filter :=
  List.mem_flatMap.mpr ⟨(key, cond), hclause, hfield⟩

/-- Only the names of the document have a value around a filter. -/
theorem agreeOn_of_clause {cond : Value} (hclause : ("$expr", cond) ∈ simpleClauses filter)
    (hfields : ∀ field ∈ fieldsOf filter, doc.get? field = doc'.get? field)
    (hdocument : namesDocument filter = true → doc = doc') :
    AgreeOn (Expression.fieldsOf cond) (variablesOf cond) { root := .object doc }
      { root := .object doc' } := by
  refine ⟨⟨doc, doc', rfl, rfl, ?_⟩, ?_⟩
  · intro field hfield
    refine hfields field (mem_fieldsOf hclause ?_)
    rw [fieldsOfSimple, if_pos rfl]
    exact hfield
  · intro name hname
    by_cases hnamed : name = "ROOT" ∨ name = "CURRENT"
    · have hany : (variablesOf cond).any (· ∈ documentNames) = true := by
        refine List.any_eq_true.mpr ⟨name, hname, ?_⟩
        rcases hnamed with rfl | rfl <;> decide
      have hnames : namesDocument filter = true :=
        List.any_eq_true.mpr ⟨("$expr", cond), hclause, by rw [hany]; rfl⟩
      rw [hdocument hnames]
    · rw [Expression.Scope.lookup?, Expression.Scope.lookup?, if_neg hnamed, if_neg hnamed]

theorem holds_of_named [Engine]
    (hfields : ∀ field ∈ fieldsOf filter, doc.get? field = doc'.get? field)
    (hdocument : namesDocument filter = true → doc = doc') :
    holds (.object doc) filter = holds (.object doc') filter := by
  refine holds_of_simple filter ?_
  rintro ⟨key, cond⟩ hclause
  refine sameOutcome_of_reads ?_ ?_
  · rintro rfl
    exact Expression.eval_of_agreeOn (agreeOn_of_clause hclause hfields hdocument)
  · intro hdollar
    refine Path.candidates_of_get?_head (hfields _ (mem_fieldsOf hclause ?_))
    have hexpr : key ≠ "$expr" := by
      rintro rfl
      cases hdollar
    rw [fieldsOfSimple, if_neg hexpr, hdollar, if_neg Bool.false_ne_true]
    exact List.mem_singleton_self _

/-- **Evaluation reads only what is named.** An expression has the same value, nothing or the same
error in two scopes that agree on its fields and variables, where `ROOT` and `CURRENT` count as
variables that have the document as their value. A filter has the same answer or the same error on
two documents that agree on its fields, unless it names the document as a whole. -/
theorem reads_only_named [Engine] :
    (∀ (e : Value) (scope scope' : Expression.Scope),
      AgreeOn (Expression.fieldsOf e) (variablesOf e) scope scope' →
      eval scope e = eval scope' e) ∧
    (∀ filter doc doc' : Document,
      (∀ field ∈ fieldsOf filter, doc.get? field = doc'.get? field) →
      (namesDocument filter = true → doc = doc') →
      holds (.object doc) filter = holds (.object doc') filter) :=
  ⟨fun _ _ _ => Expression.eval_of_agreeOn, fun _ _ _ => holds_of_named⟩

/-! ## Scores with a bonus -/

attribute [local instance] regexEngine

/-- Every score with the bonus added. -/
def raisedScores : Value :=
  .object [("$map", .object [("input", .string "$scores"), ("as", .string "score"),
    ("in", .object [("$add", .array [.string "$$score", .string "$$bonus"])])])]

/-- Documents of a given name, or of two raised scores. -/
def raisedCondition : Document :=
  [("$or", .array [.object [("name.last", .string "Lovelace")],
    .object [("$expr", .object [("$eq", .array [.object [("$size", raisedScores)], .ofInt 2])])]])]

/-- A document with scores, a name and more. -/
def scored (rest : Document) : Document :=
  ("scores", .array [.ofInt 1, .ofInt 2]) :: ("name", .string "Ada") :: rest

theorem reads_only_named_scored :
    eval ⟨.object (scored [("seen", .bool true)]), [("bonus", .ofInt 5)]⟩ raisedScores
      = eval ⟨.object (scored []), [("unused", .null), ("bonus", .ofInt 5)]⟩ raisedScores ∧
    holds (.object (scored [("seen", .bool true)])) raisedCondition
      = holds (.object (scored [])) raisedCondition := by
  have hfields : Expression.fieldsOf raisedScores = ["scores"] := by decide +kernel
  have hvariables : variablesOf raisedScores = ["score", "bonus"] := by decide +kernel
  have hnamed : fieldsOf raisedCondition = ["name", "scores"] := by decide +kernel
  have hdocument : namesDocument raisedCondition = false := by decide +kernel
  refine ⟨reads_only_named.1 _ _ _ ⟨⟨_, _, rfl, rfl, ?_⟩, ?_⟩, reads_only_named.2 _ _ _ ?_ ?_⟩
  · rw [hfields]
    intro field hfield
    obtain rfl := List.mem_singleton.mp hfield
    rfl
  · rw [hvariables]
    intro name hname
    rcases List.mem_pair.mp hname with rfl | rfl <;> rfl
  · rw [hnamed]
    intro field hfield
    rcases List.mem_pair.mp hfield with rfl | rfl <;> rfl
  · rw [hdocument]
    intro h
    cases h

end DocQuery.Filter
