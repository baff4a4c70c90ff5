/-!
# Binary floating point as exact integers

A finite double is `mantissa * 2 ^ exponent` times `2 ^ -1074`, the smallest positive double, up to
its sign. Over that unit every finite double is an integer, so rounding, order and decimal text are
all decided on natural numbers. `nearest` is the double nearest to a quotient, with ties to the even
mantissa.
-/

namespace DocQuery.Number

/-- The magnitude `mantissa * 2 ^ exponent` in units of `2 ^ -1074`. -/
structure Magnitude where
  mantissa : Nat
  exponent : Nat
  deriving Repr, DecidableEq

/-- The number of bits after the point in the unit of magnitudes. -/
def unitBits : Nat := 1074

/-- The leading bit of a mantissa of 53 bits, `2 ^ 52`. -/
def leadingBit : Nat := 0x10000000000000

/-- The bit pattern of infinity. -/
def infinityBits : Nat := 0x7FF0000000000000

/-- The sign bit of a bit pattern, `2 ^ 63`. -/
def signBit : Nat := 0x8000000000000000

/-- The magnitude as a whole number of units. -/
def Magnitude.units (m : Magnitude) : Nat := m.mantissa <<< m.exponent

/-- The quotient rounded to the nearest whole number, a half going to the even neighbour. -/
def roundDiv (num den : Nat) : Nat :=
  let quotient := num / den
  let rest := num % den
  if 2 * rest < den ∨ (2 * rest = den ∧ quotient % 2 = 0) then quotient else quotient + 1

/-- The magnitude with at most 53 significant bits nearest to `num / den`, for a positive `den`. -/
def nearest (num den : Nat) : Magnitude :=
  let units := num <<< unitBits
  let exponent := (units / den).log2 - 52
  ⟨roundDiv units (den <<< exponent), exponent⟩

/-- The bit pattern of the magnitude, saturating at infinity. -/
def Magnitude.toBits (m : Magnitude) : Nat :=
  let bits :=
    if m.mantissa < leadingBit then m.mantissa
    else (m.exponent + 1) * leadingBit + (m.mantissa - leadingBit)
  min bits infinityBits

/-- The magnitude that a bit pattern without its sign stands for. -/
def Magnitude.ofBits (bits : Nat) : Magnitude :=
  let biased := bits / leadingBit
  let fraction := bits % leadingBit
  if biased = 0 then ⟨fraction, 0⟩ else ⟨fraction + leadingBit, biased - 1⟩

/-- The double of a sign and a magnitude. -/
def floatOf (negative : Bool) (m : Magnitude) : Float :=
  Float.ofBits (UInt64.ofNat (m.toBits + if negative then signBit else 0))

/-- Whether the sign bit is set. -/
def isNegative (x : Float) : Bool := decide (signBit ≤ x.toBits.toNat)

/-- The magnitude of a finite double. -/
def magnitude (x : Float) : Magnitude := .ofBits (x.toBits.toNat % signBit)

/-- Whether the double is neither infinite nor undefined. -/
def isFiniteDouble (x : Float) : Bool := decide (x.toBits.toNat % signBit < infinityBits)

/-- The finite double as a whole number of units. -/
def signedUnits (x : Float) : Int :=
  if isNegative x then -((magnitude x).units : Int) else (magnitude x).units

end DocQuery.Number
