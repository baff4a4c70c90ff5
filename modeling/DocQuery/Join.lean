import DocQuery.Path.Basic
import DocQuery.Schema.Basic
import DocQuery.Stage.Basic

/-!
# Join plans

A join path names a reference of an entity, `posts`, or a reference of the documents it refers to,
`posts.category`. Its plan is a list of stages. A reference is looked up into its own field; a
reference to one document is then unwound. A reference of the joined documents is looked up into a
temporary field, merged from there into the joined documents, and the field is dropped. What has
been joined before is not looked up again.
-/

namespace DocQuery.Join

/-- Under which name a joined document is merged. -/
def itemName : String := "item"

/-- Under which name a candidate for merging is compared. -/
def candidateName : String := "candidate"

/-- The field that holds the documents of `parent.child` until they are merged. -/
def tempField (parent child : String) : String := parent ++ "_" ++ child ++ "__join"

/-- The stages of a join, and the paths that are joined once they have run. -/
structure Plan where
  stages : Pipeline
  joined : List String
  deriving Repr, BEq

/-! ## Expressions -/

/-- The value of a field. -/
def fieldRef (field : String) : Value := .string ("$" ++ field)

/-- The value of a variable. -/
def variableRef (name : String) : Value := .string ("$$" ++ name)

/-- The value of a field of a variable. -/
def variableFieldRef (name field : String) : Value := .string ("$$" ++ name ++ "." ++ field)

/-- An operator applied to its argument. -/
def call (operator : String) (argument : Value) : Value := .object [(operator, argument)]

/-- The candidates in the temporary field that satisfy a condition. -/
def candidates (temp : String) (condition : Value) : Value :=
  call "$filter"
    (.object [("input", fieldRef temp), ("as", .string candidateName), ("cond", condition)])

/-- The documents that one item of the parent refers to: the first candidate that it names, or all
that it names. -/
def matchesOfItem (child : String) (cardinality : Cardinality) (temp identity : String) : Value :=
  let id := variableFieldRef candidateName identity
  let reference := variableFieldRef itemName child
  match cardinality with
  | .one =>
    call "$arrayElemAt" (.array [candidates temp (call "$eq" (.array [id, reference])), .ofInt 0])
  | .many =>
    candidates temp (call "$in" (.array [id, call "$ifNull" (.array [reference, .array []])]))

/-- Merges the child documents into every item of the parent. Items keep their order, and one whose
child is not found keeps its reference. -/
def mergeIntoItems (parent child : String) (cardinality : Cardinality) (temp identity : String) :
    Value :=
  let patch := Value.object [(child, matchesOfItem child cardinality temp identity)]
  call "$map" (.object [("input", fieldRef parent), ("as", .string itemName),
    ("in", call "$mergeObjects" (.array [variableRef itemName, patch]))])

/-- Merges the child documents into the parent if it is an object, and leaves it alone otherwise. -/
def mergeIntoObject (parent child : String) (cardinality : Cardinality) (temp : String) : Value :=
  let found := match cardinality with
    | .one => call "$arrayElemAt" (.array [fieldRef temp, .ofInt 0])
    | .many => fieldRef temp
  call "$cond" (.object [
    ("if", call "$eq" (.array [call "$type" (fieldRef parent), .string "object"])),
    ("then", call "$mergeObjects" (.array [fieldRef parent, .object [(child, found)]])),
    ("else", fieldRef parent)])

/-! ## Stages -/

/-- Looks up a reference of the entity into its own field. -/
def directStages (schema : Schema) (field : String) (r : Relationship) : Pipeline :=
  .lookup ⟨schema.collectionOf r.target, field, schema.identityOf r.target, field⟩ ::
    match r.cardinality with
    | .one => [.unwind (.preserving field)]
    | .many => []

/-- Looks up a reference of the joined documents and merges what it finds into them. -/
def nestedStages (schema : Schema) (parent : String) (r : Relationship) (child : String)
    (s : Relationship) : Pipeline :=
  let temp := tempField parent child
  let identity := schema.identityOf s.target
  let merged := match r.cardinality with
    | .many => mergeIntoItems parent child s.cardinality temp identity
    | .one => mergeIntoObject parent child s.cardinality temp
  [.lookup ⟨schema.collectionOf s.target, parent ++ "." ++ child, identity, temp⟩,
    .set [(parent, merged)], .unset temp]

/-- The reference that a field of an entity is. -/
def reference (schema : Schema) (entity field : String) : Except BuildError Relationship :=
  match schema.resolve entity field with
  | .relationship r => .ok r
  | .unknown => .error (.unknownField field entity)
  | .plain => .error (.fieldNotRelationship field entity)

/-- The names of a join path: none of them empty, no more than `most`, and one or two of them, since
no stages merge a third. -/
def names (path : String) (most : Nat) : Except BuildError (String × Option String) :=
  let segments := Path.parse path
  if segments.any (· = "") then .error .emptyJoinPath
  else if most < segments.length then .error (.joinTooDeep path most)
  else
    match segments with
    | [parent] => .ok (parent, none)
    | [parent, child] => .ok (parent, some child)
    | _ => .error (.joinNestedTooDeep path)

/-- The plan of a join path, or none if the path is among the joined ones. -/
def plan (schema : Schema) (entity path : String) (most : Nat) (joined : List String) :
    Except BuildError (Option Plan) := do
  let (parent, child?) ← names path most
  if joined.contains path then return none
  let r ← reference schema entity parent
  let direct := if joined.contains parent then [] else directStages schema parent r
  match child? with
  | none => return some ⟨direct, [parent]⟩
  | some child =>
    let s ← reference schema r.target child
    return some ⟨direct ++ nestedStages schema parent r child s, [parent, path]⟩

end DocQuery.Join
