import DocQuery.Value.Basic

/-!
# Options of a query

The one option is how deep a join path may be, which is at least one.
-/

namespace DocQuery

/-- The options of a query. -/
structure Options where
  maxJoinDepth : Nat := 2
  deriving Repr, DecidableEq

namespace Options

/-- The name of the join depth. -/
def depthKey : String := "maxJoinDepth"

/-- Sets the join depth; zero counts as one. -/
def withMaxJoinDepth (o : Options) (depth : Nat) : Options := { o with maxJoinDepth := max depth 1 }

/-- Reads a join depth: a positive integer of at most 64 bits. -/
def depthOf? : Value → Option Nat
  | .number (.int i) => if 0 < i ∧ i < 0x10000000000000000 then some i.toNat else none
  | _ => none

/-- Reads options: an object in which other keys are ignored, or an array of the options in order.
What is missing takes its default. -/
def ofValue? : Value → Option Options
  | .object fields =>
    match FieldMap.get? fields depthKey with
    | some v => (depthOf? v).map fun depth => ⟨depth⟩
    | none => some {}
  | .array [] => some {}
  | .array [v] => (depthOf? v).map fun depth => ⟨depth⟩
  | _ => none

end Options

end DocQuery
