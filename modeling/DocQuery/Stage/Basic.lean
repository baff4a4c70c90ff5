import DocQuery.Ordering

/-!
# Stages

A pipeline is a list of stages, each a step that turns documents into documents. A stage is sent as
an object with one field, whose key is the kind of the stage (`Stage.toValue`). The entries of a
field map are written into an object one after the other.
-/

namespace DocQuery

/-- A join with another collection: documents whose `foreignField` equals the `localField` go under
`into`. -/
structure Lookup where
  collection : String
  localField : String
  foreignField : String
  into : String
  deriving Repr, DecidableEq

/-- The unwinding of an array field; `path` is the field with a dollar sign in front. -/
structure Unwind where
  path : String
  preserveEmpty : Bool
  deriving Repr, DecidableEq

namespace Unwind

/-- Unwinds a field and keeps the documents without items. -/
def preserving (field : String) : Unwind := ⟨"$" ++ field, true⟩

/-- The unwound field, without the dollar sign. -/
def field (u : Unwind) : String :=
  match u.path.toList with
  | '$' :: name => String.ofList name
  | _ => u.path

end Unwind

/-- A step of a pipeline. -/
inductive Stage where
  | filter (condition : Document)
  | sort (keys : FieldMap Direction)
  | skip (count : Nat)
  | limit (count : Nat)
  | project (flags : FieldMap Inclusion)
  | lookup (join : Lookup)
  | unwind (field : Unwind)
  | set (fields : Document)
  | unset (field : String)
  | addFields (fields : Document)
  | facet (branches : List (String × List Stage))
  | count (field : String)
  deriving Repr, BEq, Inhabited

/-- The stages that documents pass, first one first. -/
abbrev Pipeline := List Stage

namespace Lookup

/-- The body of a join stage. -/
def toValue (l : Lookup) : Value :=
  .object [("from", .string l.collection), ("localField", .string l.localField),
    ("foreignField", .string l.foreignField), ("as", .string l.into)]

end Lookup

/-- The body of an unwinding stage. -/
def Unwind.toValue (u : Unwind) : Value :=
  .object [("path", .string u.path), ("preserveNullAndEmptyArrays", .bool u.preserveEmpty)]

namespace Stage

/-- The key of the stage. -/
def kind : Stage → String
  | .filter _ => "$match"
  | .sort _ => "$sort"
  | .skip _ => "$skip"
  | .limit _ => "$limit"
  | .project _ => "$project"
  | .lookup _ => "$lookup"
  | .unwind _ => "$unwind"
  | .set _ => "$set"
  | .unset _ => "$unset"
  | .addFields _ => "$addFields"
  | .facet _ => "$facet"
  | .count _ => "$count"

mutual

/-- What stands under the key of the stage. -/
def body : Stage → Value
  | .filter condition => .object condition
  | .sort keys => .object (FieldMap.collect (FieldMap.mapValues Direction.toValue keys))
  | .skip n => .ofNat n
  | .limit n => .ofNat n
  | .project flags => .object (FieldMap.collect (FieldMap.mapValues Inclusion.toValue flags))
  | .lookup l => l.toValue
  | .unwind u => u.toValue
  | .set fields => .object fields
  | .unset field => .string field
  | .addFields fields => .object fields
  | .facet branches => .object (FieldMap.collect (branchValues branches))
  | .count field => .string field
termination_by structural s => s

/-- The values of the stages of a pipeline. -/
def stageValues : List Stage → List Value
  | [] => []
  | stage :: rest => .object [(stage.kind, body stage)] :: stageValues rest
termination_by structural stages => stages

/-- The values of the branches of a facet. -/
def branchValues : List (String × List Stage) → List (String × Value)
  | [] => []
  | (name, stages) :: rest => (name, .array (stageValues stages)) :: branchValues rest
termination_by structural branches => branches

end

/-- The stage as it is sent. -/
def toValue (s : Stage) : Value := .object [(s.kind, s.body)]

end Stage

/-- The pipeline as it is sent. -/
def Pipeline.toValue (p : Pipeline) : Value := .array (p.map Stage.toValue)

end DocQuery
