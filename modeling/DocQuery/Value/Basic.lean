import DocQuery.FieldMap
import DocQuery.Number.Basic

/-!
# Values

The values of a document store: null, booleans, numbers, strings, arrays and objects. The fields of
an object are a field map, so their order is part of the value. A document is the field map of an
object.
-/

namespace DocQuery

/-- A value of a document. -/
inductive Value where
  | null
  | bool (value : Bool)
  | number (value : Number)
  | string (value : String)
  | array (items : List Value)
  | object (fields : List (String × Value))
  deriving Repr, BEq, Inhabited

/-- The fields of an object. -/
abbrev Document := FieldMap Value

namespace Value

/-- An integer value. -/
def ofInt (i : Int) : Value := .number (.int i)

/-- A natural number as a value. -/
def ofNat (n : Nat) : Value := .number (.int n)

/-- The fields of an object; other values have none. -/
def fields? : Value → Option Document
  | .object fields => some fields
  | _ => none

/-- The items of an array; other values have none. -/
def items? : Value → Option (List Value)
  | .array items => some items
  | _ => none

/-- The text of a string value. -/
def string? : Value → Option String
  | .string s => some s
  | _ => none

/-- The number of a numeric value. -/
def number? : Value → Option Number
  | .number n => some n
  | _ => none

/-- Whether the value is an object. -/
def isObject : Value → Bool
  | .object _ => true
  | _ => false

/-- Whether the value is null. -/
def isNull : Value → Bool
  | .null => true
  | _ => false

/-- The signed 64-bit integer that the value is. -/
def signed? : Value → Option Int
  | .number n => n.signed?
  | _ => none

/-- Changes the fields of an object and leaves any other value alone. -/
def mapFields (f : Document → Document) : Value → Value
  | .object fields => .object (f fields)
  | v => v

/-- Whether a possibly missing value counts as true: missing, null, false and zero do not. -/
def truthy : Option Value → Bool
  | none => false
  | some .null => false
  | some (.bool b) => b
  | some (.number n) => n.orderKey != 0
  | some _ => true

end Value

/-- Whether a name starts with a dollar sign, as the names of operators do. -/
def startsWithDollar (name : String) : Bool := name.toList.head? == some '$'

end DocQuery
