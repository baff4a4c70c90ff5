import DocQuery.Expression.Evaluate
import DocQuery.Filter.Comparison

/-!
# Filters

A filter is a document of clauses, all of which must hold. A clause is a condition on a field, a
connective of filters, or an expression. Clauses are tried in order up to the first that fails to
hold; the branches of a connective are all evaluated.
-/

namespace DocQuery.Filter

mutual

/-- Whether the condition of a field holds of its candidates. -/
def holdsOfCondition [Engine] (candidates : List Value) : Value → Except StoreError Bool
  | .object fields =>
    if (operators? (.object fields)).isSome then holdsOfOperators candidates fields fields
    else holdsOfValue candidates (.object fields)
  | value => holdsOfValue candidates value
termination_by structural v => v

/-- Whether the candidates satisfy every operator of a list, up to the first that they do not;
`siblings` are all operators of the condition. -/
def holdsOfOperators [Engine] (candidates : List Value) (siblings : Document) :
    List (String × Value) → Except StoreError Bool
  | [] => .ok true
  | (key, arg) :: rest => do
    let hit ← (if key = "$not" then (!·) <$> holdsOfCondition candidates arg
      else holdsOfOperator candidates siblings key arg)
    if hit then holdsOfOperators candidates siblings rest else return false
termination_by structural operators => operators

end

/-- How the branches of a connective decide. -/
inductive Connective where
  | all
  | any
  | none
  deriving Repr, DecidableEq

/-- The connective of a key. -/
def Connective.ofKey? : String → Option Connective
  | "$and" => some .all
  | "$or" => some .any
  | "$nor" => some .none
  | _ => Option.none

/-- The decision on the answers of the branches. -/
def Connective.decide : Connective → List Bool → Bool
  | .all, answers => answers.all id
  | .any, answers => answers.any id
  | .none, answers => !answers.any id

/-- Whether a document satisfies a clause that has no branches: an expression, or the condition of a
field. -/
def holdsOfSimpleClause [Engine] (doc : Value) (key : String) (cond : Value) :
    Except StoreError Bool :=
  if (Connective.ofKey? key).isSome then Expression.fault key .notConditions
  else if key = "$expr" then Value.truthy <$> Expression.eval { root := doc } cond
  else if startsWithDollar key then .error (.unsupportedCondition key)
  else holdsOfCondition (Path.candidates (Path.parse key) doc) cond

mutual

/-- Whether a document satisfies one clause. -/
def holdsOfClause [Engine] (doc : Value) (key : String) : Value → Except StoreError Bool
  | .array branches =>
    match Connective.ofKey? key with
    | some connective => connective.decide <$> branchAnswers doc key branches
    | none => holdsOfSimpleClause doc key (.array branches)
  | cond => holdsOfSimpleClause doc key cond
termination_by structural cond => cond

/-- The answers of the branches of a connective. -/
def branchAnswers [Engine] (doc : Value) (key : String) : List Value → Except StoreError (List Bool)
  | [] => .ok []
  | .object filter :: rest => do
    let answer ← holds doc filter
    let others ← branchAnswers doc key rest
    return answer :: others
  | other :: _ => Expression.fault key (.otherThanObjects other)
termination_by structural branches => branches

/-- Whether a document satisfies every clause of a filter. -/
def holds [Engine] (doc : Value) : List (String × Value) → Except StoreError Bool
  | [] => .ok true
  | (key, cond) :: rest => do
    if ← holdsOfClause doc key cond then holds doc rest else return false
termination_by structural clauses => clauses

end

end DocQuery.Filter
