import DocQuery.Number.Text

/-!
# Numbers of a document

A number is an integer or a finite double, and the two are told apart: `1` and `1.0` are written
differently. They are ordered by the doubles they convert to, through `orderKey`, so `1` and `1.0`
are equal in every comparison, and so are two integers that round to one double.
-/

namespace DocQuery

/-- A number: an integer between `-2 ^ 63` and `2 ^ 64 - 1`, or a finite double. -/
inductive Number where
  | int (value : Int)
  | double (value : Float)
  deriving Repr, DecidableEq

namespace Number

instance : Inhabited Number := ⟨.int 0⟩

/-- The integers that a number can hold. -/
def FitsInteger (i : Int) : Prop := -0x8000000000000000 ≤ i ∧ i < 0x10000000000000000

instance (i : Int) : Decidable (FitsInteger i) := by unfold FitsInteger; infer_instance

/-- The integers of 64 bits with a sign. -/
def FitsSigned (i : Int) : Prop := -0x8000000000000000 ≤ i ∧ i < 0x8000000000000000

instance (i : Int) : Decidable (FitsSigned i) := by unfold FitsSigned; infer_instance

/-- The signed 64-bit integer that the number is written as; doubles are none. -/
def signed? : Number → Option Int
  | .int i => if FitsSigned i then some i else none
  | .double _ => none

/-- The natural number that the number is written as; doubles are none. -/
def natural? : Number → Option Nat
  | .int i => if 0 ≤ i then some i.toNat else none
  | .double _ => none

/-- The nearest double. -/
def toFloat : Number → Float
  | .int i => floatOf (decide (i < 0)) (nearest i.natAbs 1)
  | .double x => x

/-- The value of the nearest double, in units of `2 ^ -1074`. -/
def orderKey : Number → Int
  | .int i => i.sign * (nearest i.natAbs 1).units
  | .double x => signedUnits x

/-- Order of the nearest doubles. -/
def order (a b : Number) : Ordering := compare a.orderKey b.orderKey

/-- A double as a number; infinities and undefined results are none. -/
def ofFloat? (x : Float) : Option Number := if isFiniteDouble x then some (.double x) else none

/-- The text of the number. -/
def text : Number → String
  | .int i => toString i
  | .double x => floatText x

/-- The number that a literal stands for: its sign, its digits without the point, and its power of
ten, where `isInteger` says that the literal has neither point nor exponent. A literal too large for
an integer, and `-0`, is the nearest double; one that is too large for a double is none. -/
def ofLiteral? (negative : Bool) (digits : Nat) (power : Int) (isInteger : Bool) : Option Number :=
  let value : Int := if negative then -(digits : Int) else digits
  if isInteger ∧ FitsInteger value ∧ ¬(negative ∧ digits = 0) then some (.int value)
  else if digits = 0 ∨ power + digitCount digits < -400 then
    some (.double (floatOf negative ⟨0, 0⟩))
  else if power + digitCount digits > 400 then none
  else ofFloat? (floatOf negative (nearest (digits * powerOfTen power) (powerOfTen (-power))))

end Number

end DocQuery
