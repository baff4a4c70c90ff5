import DocQuery.Pattern

/-!
# Conditions

The three ways to state a condition, each giving the body of a filter stage: a whole condition
object, equality of one field, and a comparison of one field by an operator.
-/

namespace DocQuery

/-- A comparison of a field with an operand. -/
inductive Operator where
  | eq
  | ne
  | gt
  | gte
  | lt
  | lte
  | isIn
  | notIn
  | regex
  deriving Repr, DecidableEq

namespace Operator

/-- The key of the operator in a condition. -/
def key : Operator → String
  | .eq => "$eq"
  | .ne => "$ne"
  | .gt => "$gt"
  | .gte => "$gte"
  | .lt => "$lt"
  | .lte => "$lte"
  | .isIn => "$in"
  | .notIn => "$nin"
  | .regex => "$regex"

/-- The operator that a token writes. -/
def parse (token : String) : Except BuildError Operator :=
  match token with
  | "=" => .ok .eq
  | "==" => .ok .eq
  | "!=" => .ok .ne
  | ">" => .ok .gt
  | ">=" => .ok .gte
  | "<" => .ok .lt
  | "<=" => .ok .lte
  | "in" => .ok .isIn
  | "nin" => .ok .notIn
  | "regex" => .ok .regex
  | other => .error (.unsupportedOperator other)

end Operator

/-- The right-hand side of a comparison. -/
inductive Operand where
  | value (v : Value)
  | pattern (p : Pattern)
  deriving Repr

namespace Operand

/-- The source of the pattern that a plain value is promoted to: a string as it is, anything else by
its text. -/
def sourceOf : Value → String
  | .string s => s
  | v => v.text

/-- The operand as it stands in a condition under the operator. -/
def toValue (op : Operator) : Operand → Value
  | .pattern p => p.toValue
  | .value v => if op = .regex then (Pattern.ignoringCase (sourceOf v)).toValue else v

end Operand

namespace Condition

/-- A condition object is the body as it is. -/
def ofValue : Value → Except BuildError Document
  | .object fields => .ok fields
  | v => .error (.conditionNotObject v)

/-- The body that requires a field to equal a value. -/
def equals (field : String) (value : Value) : Document := [(field, value)]

/-- The body that compares a field with an operand. The operator is read before the operand is
looked at. -/
def compare (field token : String) (operand : Operand) : Except BuildError Document := do
  let op ← Operator.parse token
  return equals field (.object [(op.key, operand.toValue op)])

end Condition

end DocQuery
