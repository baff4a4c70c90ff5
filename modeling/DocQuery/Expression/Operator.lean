import DocQuery.Store.Error
import DocQuery.Value.Order

/-!
# Operators of expressions

The operators of expressions, and what each computes once its arguments are evaluated. A missing
value is `none`. Arithmetic is exact as long as all operands and partial results are signed 64-bit
integers, and is done in doubles otherwise; a result that is no finite double is null.
-/

namespace DocQuery.Expression

/-- A comparison of two values. -/
inductive Comparison where
  | eq
  | ne
  | gt
  | gte
  | lt
  | lte
  deriving Repr, DecidableEq

/-- Whether the comparison holds between two values that stand in the given order. -/
def Comparison.holds : Comparison → Ordering → Bool
  | .eq, o => o == .eq
  | .ne, o => o != .eq
  | .gt, o => o == .gt
  | .gte, o => o != .lt
  | .lt, o => o == .lt
  | .lte, o => o != .gt

/-- An arithmetical operation. -/
inductive Arithmetic where
  | add
  | subtract
  | multiply
  | divide
  deriving Repr, DecidableEq

/-- An operator of expressions. -/
inductive Operator where
  | literal
  | map
  | filter
  | elementAt
  | mergeObjects
  | cond
  | ifNull
  | typeOf
  | compare (c : Comparison)
  | isIn
  | arithmetic (a : Arithmetic)
  | concat
  | all
  | any
  | not
  | size
  deriving Repr, DecidableEq

/-- The operator of a key. -/
def Operator.ofKey? (key : String) : Option Operator :=
  match key with
  | "$literal" => some .literal
  | "$map" => some .map
  | "$filter" => some .filter
  | "$arrayElemAt" => some .elementAt
  | "$mergeObjects" => some .mergeObjects
  | "$cond" => some .cond
  | "$ifNull" => some .ifNull
  | "$type" => some .typeOf
  | "$eq" => some (.compare .eq)
  | "$ne" => some (.compare .ne)
  | "$gt" => some (.compare .gt)
  | "$gte" => some (.compare .gte)
  | "$lt" => some (.compare .lt)
  | "$lte" => some (.compare .lte)
  | "$in" => some .isIn
  | "$add" => some (.arithmetic .add)
  | "$subtract" => some (.arithmetic .subtract)
  | "$multiply" => some (.arithmetic .multiply)
  | "$divide" => some (.arithmetic .divide)
  | "$concat" => some .concat
  | "$and" => some .all
  | "$or" => some .any
  | "$not" => some .not
  | "$size" => some .size
  | _ => none

/-- The refusal of an argument. -/
def fault (key : String) (f : ArgumentFault) : Except StoreError α :=
  .error (.invalidArgument key f)

/-- The item at an index; negative indices count from the end. -/
def itemAt (items : List Value) (index : Int) : Option Value :=
  let place := if index < 0 then items.length + index else index
  if place < 0 then none else items[place.toNat]?

/-- The item of an array at an index. -/
def elementAt (key : String) (array index : Option Value) : Except StoreError (Option Value) :=
  match array with
  | none => .ok none
  | some .null => .ok none
  | some (.array items) =>
    match index.bind Value.signed? with
    | some i => .ok (itemAt items i)
    | none => fault key .indexNotInteger
  | some other => fault key (.otherThanArray other)

/-- Merges objects from left to right; null and missing ones are skipped. -/
def mergeParts (key : String) (merged : Document) : List (Option Value) → Except StoreError Document
  | [] => .ok merged
  | none :: rest => mergeParts key merged rest
  | some .null :: rest => mergeParts key merged rest
  | some (.object fields) :: rest => mergeParts key (FieldMap.merge merged fields) rest
  | some other :: _ => fault key (.otherThanObjects other)

/-- The name of the type of a possibly missing value. -/
def typeName : Option Value → String
  | none => "missing"
  | some .null => "null"
  | some (.bool _) => "bool"
  | some (.string _) => "string"
  | some (.object _) => "object"
  | some (.array _) => "array"
  | some (.number n) =>
    match n.signed? with
    | some i => if -0x80000000 ≤ i ∧ i < 0x80000000 then "int" else "long"
    | none => "double"

/-- Whether a value is among the items of an array; a missing value counts as null. -/
def isAmong (key : String) (needle haystack : Option Value) : Except StoreError Bool :=
  match haystack with
  | some (.array items) => .ok (items.any fun item => item.same (needle.getD .null))
  | _ => fault key .secondNotArray

/-- The number of items of an array. -/
def sizeOf (key : String) : Option Value → Except StoreError Nat
  | some (.array items) => .ok items.length
  | _ => fault key .notArray

/-- Requires a number. -/
def requireNumber (key : String) : Value → Except StoreError Unit
  | .number _ => .ok ()
  | other => fault key (.otherThanNumbers other)

/-- Requires a string. -/
def requireString (key : String) : Value → Except StoreError Unit
  | .string _ => .ok ()
  | other => fault key (.otherThanStrings other)

/-! ## Arithmetic -/

/-- The integer, if it is a signed 64-bit one. -/
def signed64? (i : Int) : Option Int := if Number.FitsSigned i then some i else none

/-- The exact result, if all operands and partial results are signed 64-bit integers. -/
def exactResult (a : Arithmetic) (operands : List Number) : Option Int := do
  let ints ← operands.mapM Number.signed?
  match a, ints with
  | .add, ints => ints.foldlM (fun acc i => signed64? (acc + i)) 0
  | .multiply, ints => ints.foldlM (fun acc i => signed64? (acc * i)) 1
  | .subtract, [i, j] => signed64? (i - j)
  | _, _ => none

/-- The result in doubles. -/
def doubleResult (key : String) (a : Arithmetic) (operands : List Number) :
    Except StoreError Float :=
  let floats := operands.map Number.toFloat
  match a, floats with
  | .add, floats => .ok (floats.foldl (· + ·) (-0.0))
  | .multiply, floats => .ok (floats.foldl (· * ·) 1.0)
  | .subtract, [x, y] => .ok (x - y)
  | .divide, [x, y] => if y == 0.0 then fault key .zeroDivisor else .ok (x / y)
  | _, _ => fault key .notTwoArguments

/-- The result of an arithmetical operation. -/
def arithmeticResult (key : String) (a : Arithmetic) (operands : List Number) :
    Except StoreError Value :=
  match exactResult a operands with
  | some i => .ok (.ofInt i)
  | none => do
    return ((Number.ofFloat? (← doubleResult key a operands)).map Value.number).getD .null

end DocQuery.Expression
