import DocQuery.Projection

/-!
# Orderings

An ordering names the fields to sort by, as tokens with a minus sign for descending order or as
pairs of field and direction. It compiles to the body of a sort stage, which has at least one field.
-/

namespace DocQuery

/-- The direction of a sort. -/
inductive Direction where
  | ascending
  | descending
  deriving Repr, DecidableEq

namespace Direction

/-- The direction as a number. -/
def sign : Direction → Int
  | .ascending => 1
  | .descending => -1

/-- The direction in a sort stage. -/
def toValue (d : Direction) : Value := .ofInt d.sign

/-- The name of the direction. -/
def name : Direction → String
  | .ascending => "asc"
  | .descending => "desc"

/-- The direction of a name. -/
def ofName? : String → Option Direction
  | "asc" => some .ascending
  | "desc" => some .descending
  | _ => none

/-- The direction that a value stands for: `1` or `-1`, but no double, or a name. -/
def ofValue? : Value → Option Direction
  | .number n =>
    match n.signed? with
    | some 1 => some .ascending
    | some (-1) => some .descending
    | _ => none
  | .string s => ofName? s
  | _ => none

/-- Applies the direction to an order. -/
def apply : Direction → Ordering → Ordering
  | .ascending, o => o
  | .descending, o => o.swap

end Direction

/-- The fields to sort by. -/
inductive SortSpec where
  | tokenList (tokens : List String)
  | pairList (pairs : List (String × Direction))
  deriving Repr, DecidableEq

namespace SortSpec

/-- The tokens of a text, separated by blanks. -/
def ofText (text : String) : SortSpec := .tokenList (Text.words text)

/-- The direction of one entry of an object of fields. -/
def entryOf (entry : String × Value) : Except BuildError (String × Direction) :=
  match Direction.ofValue? entry.2 with
  | some d => .ok (entry.1, d)
  | none => .error (.unknownDirection entry.1 entry.2)

/-- The ordering that a value stands for: a text of tokens, a list of them, or an object of
directions. -/
def ofValue : Value → Except BuildError SortSpec
  | .string text => .ok (ofText text)
  | .array items => .tokenList <$> stringsOf .orderedFieldNotString items
  | .object fields => .pairList <$> fields.mapM entryOf
  | .null => .error .orderingWithoutField
  | other => .error (.orderingNotFields other)

/-- The field of a token with its direction. -/
def directionOf (token : String) : String × Direction :=
  match splitMinus token with
  | (true, field) => (field, .descending)
  | (false, field) => (field, .ascending)

/-- The fields with their directions, as they were given. -/
def entries : SortSpec → List (String × Direction)
  | .tokenList tokens => tokens.map directionOf
  | .pairList pairs => pairs

/-- The directions of the fields to sort by. Entries without a field are dropped; one must be
left. -/
def compile (s : SortSpec) : Except BuildError (FieldMap Direction) :=
  match FieldMap.collect (s.entries.filter fun entry => entry.1 ≠ "") with
  | [] => .error .orderingWithoutField
  | keys => .ok keys

end SortSpec

end DocQuery
