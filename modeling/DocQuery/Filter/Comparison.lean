import DocQuery.Expression.Operator

/-!
# Comparing candidates

How the values that a field offers are compared with a value, a pattern or a bound. A condition
holds of a field if it holds of any of its candidates. Null also equals a field that offers nothing.

Patterns are left to an engine, which may refuse a pattern, and may fail on a text as well.
-/

namespace DocQuery.Filter

/-- What evaluates patterns: a pattern compiles to a test on texts. -/
class Engine where
  compile : Pattern → Except StoreError (String → Except StoreError Bool)

/-- Compiles a pattern; a pattern that is none is an error of the store. -/
def compile [Engine] (p : Except BuildError Pattern) :
    Except StoreError (String → Except StoreError Bool) :=
  match p with
  | .error e => .error (.pattern e)
  | .ok p => Engine.compile p

/-- Whether a string among the candidates passes the test; the first that does decides. -/
def anyString (test : String → Except StoreError Bool) : List Value → Except StoreError Bool
  | [] => .ok false
  | .string text :: rest => do
    if ← test text then return true else anyString test rest
  | _ :: rest => anyString test rest

/-- Whether a candidate equals the value, or matches it if it is a pattern. -/
def holdsOfValue [Engine] (candidates : List Value) (value : Value) : Except StoreError Bool :=
  match Pattern.ofValue? value with
  | some p => do anyString (← compile p) candidates
  | none =>
    if value.isNull ∧ (candidates.isEmpty ∨ candidates.any Value.isNull) then .ok true
    else .ok (candidates.any fun c => c.same value)

/-- Whether a candidate equals one of the values; the first hit decides. -/
def holdsOfAny [Engine] (candidates : List Value) : List Value → Except StoreError Bool
  | [] => .ok false
  | value :: rest => do
    if ← holdsOfValue candidates value then return true else holdsOfAny candidates rest

/-- Whether two values can be compared by size: both are numbers, strings, booleans, or null. -/
def sameBracket : Value → Value → Bool
  | .number _, .number _ => true
  | .string _, .string _ => true
  | .bool _, .bool _ => true
  | .null, .null => true
  | _, _ => false

/-- Whether a candidate stands to the bound as the comparison says. -/
def holdsOfBound (c : Expression.Comparison) (candidates : List Value) (bound : Value) : Bool :=
  candidates.any fun candidate => sameBracket candidate bound && c.holds (candidate.order bound)

/-- The pattern of a condition whose argument is a source or a pattern; `siblings` may hold the
options of a source. -/
def patternOf (key : String) (siblings : Document) :
    Value → Except StoreError (Except BuildError Pattern)
  | .string source =>
    .ok (Pattern.make source (((siblings.get? "$options").bind Value.string?).getD ""))
  | other =>
    match Pattern.ofValue? other with
    | some p => .ok p
    | none => Expression.fault key (.notPattern other)

/-- Whether a string among the candidates matches the pattern of a condition. -/
def holdsOfPattern [Engine] (candidates : List Value) (key : String) (siblings : Document)
    (arg : Value) : Except StoreError Bool := do
  anyString (← compile (← patternOf key siblings arg)) candidates

/-- The items of an argument that has to be an array. -/
def requireItems (key : String) : Value → Except StoreError (List Value)
  | .array items => .ok items
  | _ => Expression.fault key .notArray

/-- Whether the candidates satisfy one operator other than negation; `siblings` are all operators of
the condition. The options of a pattern require nothing by themselves. -/
def holdsOfOperator [Engine] (candidates : List Value) (siblings : Document) (key : String)
    (arg : Value) : Except StoreError Bool :=
  match key with
  | "$options" => .ok true
  | "$eq" => holdsOfValue candidates arg
  | "$ne" => (!·) <$> holdsOfValue candidates arg
  | "$gt" => .ok (holdsOfBound .gt candidates arg)
  | "$gte" => .ok (holdsOfBound .gte candidates arg)
  | "$lt" => .ok (holdsOfBound .lt candidates arg)
  | "$lte" => .ok (holdsOfBound .lte candidates arg)
  | "$in" => do holdsOfAny candidates (← requireItems key arg)
  | "$nin" => do return !(← holdsOfAny candidates (← requireItems key arg))
  | "$regex" => holdsOfPattern candidates key siblings arg
  | "$exists" => .ok (Value.truthy (some arg) != candidates.isEmpty)
  | other => .error (.unsupportedCondition other)

/-- The fields of an object of operators: not empty, every key with a dollar sign, and no
pattern. -/
def operators? : Value → Option Document
  | .object fields =>
    if !fields.isEmpty && (FieldMap.keys fields).all startsWithDollar &&
      !FieldMap.hasKey fields Pattern.valueKey then
      some fields
    else none
  | _ => none

end DocQuery.Filter
