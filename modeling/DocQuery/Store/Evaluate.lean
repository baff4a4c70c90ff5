import DocQuery.Filter.Evaluate
import DocQuery.Store.Basic
import DocQuery.Store.Project

/-!
# Running pipelines

Each stage turns a list of documents into another. `Store.apply` runs a list of stages on a list of
documents, and `Store.run` on the documents of a collection.
-/

namespace DocQuery.Store

/-! ## Stages without branches -/

/-- The keys that a document is joined by at a path; a document without any is joined by null. -/
def joinKeys (path : Path) (doc : Value) : List Value :=
  match Path.flatten path doc with
  | [] => [.null]
  | keys => keys

/-- Whether two lists of keys have a value in common. -/
def shareKey (keys others : List Value) : Bool :=
  others.any fun other => keys.any fun key => key.same other

/-- The documents of a collection that share a key with the given document. -/
def joined (s : Store) (join : Lookup) (doc : Value) : List Value :=
  let keys := joinKeys (Path.parse join.localField) doc
  (s.documents join.collection).filter fun candidate =>
    shareKey keys (joinKeys (Path.parse join.foreignField) candidate)

/-- Puts the joined documents into a document. -/
def lookup (s : Store) (join : Lookup) (doc : Value) : Value :=
  doc.mapFields (Path.set (Path.parse join.into) (.array (s.joined join doc)))

/-- The documents that one document is unwound to: one for each item of the array at the path. -/
def unwind (u : Unwind) (doc : Value) : List Value :=
  let path := Path.parse u.field
  match Path.resolve path doc with
  | some (.array []) =>
    if u.preserveEmpty ∧ doc.isObject then [doc.mapFields (Path.remove path)] else []
  | some (.array items) => items.map fun item => doc.mapFields (Path.set path item)
  | none => if u.preserveEmpty then [doc] else []
  | some .null => if u.preserveEmpty then [doc] else []
  | some _ => [doc]

/-- The values of the fields to set; every expression sees the document as it was. -/
def computed (doc : Value) :
    List (String × Value) → Except StoreError (List (String × Option Value))
  | [] => .ok []
  | (field, expression) :: rest => do
    let v ← Expression.eval { root := doc } expression
    let others ← computed doc rest
    return (field, v) :: others

/-- Sets a field, or removes it if there is no value. -/
def setField (doc : Document) (entry : String × Option Value) : Document :=
  match entry.2 with
  | some v => Path.set (Path.parse entry.1) v doc
  | none => Path.remove (Path.parse entry.1) doc

/-- Sets computed fields in a document. -/
def setFields (fields : Document) (doc : Value) : Except StoreError Value := do
  let values ← computed doc fields
  return doc.mapFields fun d => values.foldl setField d

/-- The order of two documents by the fields to sort by, the first field that tells them apart
deciding. -/
def orderBy (keys : FieldMap Direction) (x y : Value) : Ordering :=
  match keys with
  | [] => .eq
  | (field, direction) :: rest =>
    let path := Path.parse field
    (direction.apply (Value.orderMissing (Path.resolve path x) (Path.resolve path y))).then
      (orderBy rest x y)

/-- Sorts documents; equal ones keep their order. -/
def sort (keys : FieldMap Direction) (docs : List Value) : List Value :=
  docs.mergeSort fun x y => orderBy keys x y != .gt

/-- The documents that satisfy a filter. -/
def filter [Filter.Engine] (condition : Document) : List Value → Except StoreError (List Value) :=
  Expression.filterItems fun doc => Filter.holds doc condition

/-- One document with the number of documents, or none if there are none. -/
def count (field : String) (docs : List Value) : List Value :=
  if docs.isEmpty then [] else [.object [(field, .ofNat docs.length)]]

/-! ## Pipelines -/

mutual

/-- Runs a stage. -/
def applyStage [Filter.Engine] (s : Store) : Stage → List Value → Except StoreError (List Value)
  | .filter condition, docs => filter condition docs
  | .sort keys, docs => .ok (sort keys docs)
  | .skip n, docs => .ok (docs.drop n)
  | .limit n, docs => .ok (docs.take n)
  | .project flags, docs => project flags docs
  | .lookup l, docs => .ok (docs.map (s.lookup l))
  | .unwind u, docs => .ok (docs.flatMap (unwind u))
  | .set fields, docs => docs.mapM (setFields fields)
  | .unset field, docs => .ok (docs.map (Value.mapFields (Path.remove (Path.parse field))))
  | .addFields fields, docs => docs.mapM (setFields fields)
  | .facet branches, docs => do
    return [.object (FieldMap.collect (← applyBranches s branches docs))]
  | .count field, docs => .ok (count field docs)
termination_by structural stage => stage

/-- Runs stages one after the other. -/
def apply [Filter.Engine] (s : Store) : List Stage → List Value → Except StoreError (List Value)
  | [], docs => .ok docs
  | stage :: rest, docs => do apply s rest (← applyStage s stage docs)
termination_by structural stages => stages

/-- Runs every branch of a facet on the same documents. -/
def applyBranches [Filter.Engine] (s : Store) :
    List (String × List Stage) → List Value → Except StoreError (List (String × Value))
  | [], _ => .ok []
  | (name, stages) :: rest, docs => do
    let rows ← apply s stages docs
    let others ← applyBranches s rest docs
    return (name, .array rows) :: others
termination_by structural branches => branches

end

/-- Runs a pipeline on a collection. -/
def run [Filter.Engine] (s : Store) (collection : String) (pipeline : Pipeline) :
    Except StoreError (List Document) := do
  return (← s.apply pipeline (s.documents collection)).filterMap Value.fields?

end DocQuery.Store
