import DocQuery.Query.Basic

/-!
# Running queries

A query is run by an executor, which takes a collection and a pipeline and gives rows in a monad of
its own. Every call here asks the executor once. What the rows mean is decided here: the first of
them, a count, or a page.
-/

namespace DocQuery

/-- Runs a pipeline on a collection. -/
abbrev Executor (m : Type → Type) := (collection : String) → Pipeline → m (List Document)

/-- A schema and an executor, with the options of their queries. -/
structure Client (m : Type → Type) where
  schema : Schema
  executor : Executor m
  options : Options := {}

/-- Starts a query, with the client's options unless it is given its own. -/
def Client.query {m : Type → Type} (c : Client m) (entity : String) (options : Option Options) :
    Query :=
  { entity, schema := c.schema, options := options.getD c.options }

namespace Query

/-- The count in the first of some rows; zero if there is none. -/
def readCount (field : String) (rows : List Document) : Nat :=
  ((rows.head?.bind (FieldMap.get? · field)).bind countOf?).getD 0

/-- The count of the total branch: in the first of its rows, or itself a number. -/
def readTotal : Value → Nat
  | .array rows =>
    (((rows.head?.bind Value.fields?).bind (FieldMap.get? · totalField)).bind countOf?).getD 0
  | other => (countOf? other).getD 0

/-- The rows of the data branch. -/
def readData : Option Value → List Document
  | some (.array items) => items.filterMap Value.fields?
  | _ => []

/-- The page in the answer to a pipeline of two branches. -/
def readPage (w : PageWindow) (rows : List Document) : Page :=
  let answer : Document := rows.head?.getD []
  .make (readData (answer.get? dataBranch)) w.page w.perPage
    (((answer.get? totalBranch).map readTotal).getD 0)

variable {m : Type → Type} [Monad m]

/-- All rows. -/
def rows (q : Query) (run : Executor m) : m (List Document) := run q.collection q.pipeline

/-- The first row. -/
def first (q : Query) (run : Executor m) : m (Option Document) :=
  List.head? <$> run q.collection q.firstPipeline

/-- The number of rows before any are skipped. -/
def count (q : Query) (run : Executor m) : m Nat :=
  readCount countField <$> run q.collection q.countPipeline

/-- A page of the rows and the number of pages. -/
def page (q : Query) (run : Executor m) (page perPage : Int) : m Page :=
  let w := PageWindow.ofRequest page perPage
  readPage w <$> run q.collection (q.pagePipeline w)

end Query

end DocQuery
