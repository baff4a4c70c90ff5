import DocQuery.Value.Basic

/-!
# Order of values

All values stand in one order, in which a missing value comes first: null, numbers, strings,
objects, arrays and booleans follow. Numbers are ordered as doubles, strings by code points, arrays
and objects by their first difference and then by length. Values are equal for queries and joins
when neither comes before the other.
-/

namespace DocQuery

namespace Value

/-- The place of a value's kind in the order; zero is left to missing values. -/
def rank : Value → Nat
  | .null => 1
  | .number _ => 2
  | .string _ => 3
  | .object _ => 4
  | .array _ => 5
  | .bool _ => 6

mutual

/-- The order of two values. -/
def order : Value → Value → Ordering
  | .number x, .number y => x.order y
  | .string x, .string y => compare x y
  | .bool x, .bool y => compare x y
  | .array xs, .array ys => orderItems xs ys
  | .object xs, .object ys => orderFields xs ys
  | x, y => compare x.rank y.rank
termination_by structural x => x

/-- The order of two lists of items: that of the first difference, the shorter list first. -/
def orderItems : List Value → List Value → Ordering
  | [], [] => .eq
  | [], _ :: _ => .lt
  | _ :: _, [] => .gt
  | x :: xs, y :: ys => (order x y).then (orderItems xs ys)
termination_by structural xs => xs

/-- The order of two lists of fields, each entry by its key and then by its value. -/
def orderFields : List (String × Value) → List (String × Value) → Ordering
  | [], [] => .eq
  | [], _ :: _ => .lt
  | _ :: _, [] => .gt
  | (j, x) :: xs, (k, y) :: ys => (compare j k).then ((order x y).then (orderFields xs ys))
termination_by structural xs => xs

end

/-- The order of two possibly missing values; a missing one comes before every other. -/
def orderMissing : Option Value → Option Value → Ordering
  | none, none => .eq
  | none, some _ => .lt
  | some _, none => .gt
  | some x, some y => order x y

/-- Equality of queries and joins, for which `1` is `1.0`. -/
def same (x y : Value) : Bool := order x y == .eq

end Value

end DocQuery
