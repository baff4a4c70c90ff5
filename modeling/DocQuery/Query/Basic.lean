import DocQuery.Condition
import DocQuery.Join
import DocQuery.Options
import DocQuery.Page

/-!
# Queries

A query on an entity is built call by call. Conditions, orderings, joins and computed fields
accumulate as stages in the order of the calls. The projection, how many rows to skip and how many
to take are held aside, the last call winning, and come behind the accumulated stages in this order.
A call that fails gives an error and no query.
-/

namespace DocQuery

/-- A query under construction. -/
structure Query where
  entity : String
  schema : Schema
  options : Options := {}
  stages : Pipeline := []
  projection : Option (FieldMap Inclusion) := none
  toSkip : Option Nat := none
  toTake : Option Nat := none
  joined : List String := []

/-- How many rows to skip and how many to take. -/
structure Window where
  skip : Option Nat := none
  limit : Option Nat := none
  deriving Repr, DecidableEq

namespace Query

/-- The collection of the entity. -/
def collection (q : Query) : String := q.schema.collectionOf q.entity

/-- Adds a stage. -/
def push (q : Query) (stage : Stage) : Query := { q with stages := q.stages ++ [stage] }

/-! ## Conditions -/

/-- Requires a condition object. -/
def filter (q : Query) (condition : Value) : Except BuildError Query := do
  return q.push (.filter (← Condition.ofValue condition))

/-- Requires a field to equal a value. -/
def filterEquals (q : Query) (field : String) (value : Value) : Query :=
  q.push (.filter (Condition.equals field value))

/-- Requires a comparison of a field. -/
def filterCompare (q : Query) (field token : String) (operand : Operand) :
    Except BuildError Query := do
  return q.push (.filter (← Condition.compare field token operand))

/-! ## Orderings -/

/-- Adds a sort to stages; directly behind a sort it becomes its tie-breakers. -/
def pushSort : Pipeline → FieldMap Direction → Pipeline
  | [], keys => [.sort keys]
  | [.sort earlier], keys => [.sort (earlier.merge keys)]
  | stage :: rest, keys => stage :: pushSort rest keys

/-- Sorts by an ordering. -/
def orderBy (q : Query) (s : SortSpec) : Except BuildError Query := do
  return { q with stages := pushSort q.stages (← s.compile) }

/-- Sorts by one field. -/
def orderByField (q : Query) (field : String) (direction : Direction) : Query :=
  { q with stages := pushSort q.stages [(field, direction)] }

/-! ## Joins and computed fields -/

/-- Joins the documents that a path refers to; joining them again changes nothing. -/
def join (q : Query) (path : String) : Except BuildError Query := do
  match ← Join.plan q.schema q.entity path q.options.maxJoinDepth q.joined with
  | some plan =>
    let fresh := plan.joined.filter fun path => !q.joined.contains path
    return { q with stages := q.stages ++ plan.stages, joined := q.joined ++ fresh }
  | none => return q

/-- Computes fields from expressions. -/
def addFields (q : Query) : Value → Except BuildError Query
  | .object fields => .ok (q.push (.addFields fields))
  | other => .error (.computedFieldsNotObject other)

/-! ## What is held aside -/

/-- Selects fields; a selection without a field selects everything. -/
def select (q : Query) (s : Selection) : Query :=
  { q with projection := if s.compile.isEmpty then none else some s.compile }

/-- Skips rows. -/
def skip (q : Query) (n : Nat) : Query := { q with toSkip := some n }

/-- Takes at most so many rows. -/
def limit (q : Query) (n : Nat) : Query := { q with toTake := some n }

/-! ## Pipelines -/

/-- The field that holds the number of rows. -/
def countField : String := "total"

/-- The branch that holds the rows of a page. -/
def dataBranch : String := "data"

/-- The branch that holds the number of rows of all pages. -/
def totalBranch : String := "total"

/-- The field of the total branch that holds the number of rows. -/
def totalField : String := "count"

/-- How many rows the query itself skips and takes. -/
def window (q : Query) : Window := ⟨q.toSkip, q.toTake⟩

/-- The accumulated stages, then the projection, then the window. -/
def finalize (q : Query) (w : Window) : Pipeline :=
  q.stages ++ (q.projection.map Stage.project).toList ++ (w.skip.map Stage.skip).toList
    ++ (w.limit.map Stage.limit).toList

/-- The pipeline for all rows. -/
def pipeline (q : Query) : Pipeline := q.finalize q.window

/-- The pipeline for the first row. -/
def firstPipeline (q : Query) : Pipeline := q.finalize ⟨q.toSkip, some 1⟩

/-- The pipeline for the number of rows before any are skipped. -/
def countPipeline (q : Query) : Pipeline := q.stages ++ [.count countField]

/-- The pipeline for a page and the number of rows. -/
def pagePipeline (q : Query) (w : PageWindow) : Pipeline :=
  [.facet [(dataBranch, q.finalize ⟨some w.skip, some w.perPage⟩),
    (totalBranch, q.stages ++ [.count totalField])]]

end Query

end DocQuery
