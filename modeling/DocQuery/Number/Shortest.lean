import DocQuery.Number.Binary

/-!
# Shortest decimals

`shortest` finds, among the decimals that a reader rounds back to a given magnitude, one with the
fewest digits, and among those the nearest to the magnitude; a tie goes to the even digit. A grid of
decimals is tried only at the two neighbours of the magnitude: if any point of the grid rounds to
it, one of these two does.
-/

namespace DocQuery.Number

/-- The decimal `digits * 10 ^ power`. -/
structure Decimal where
  digits : Nat
  power : Int
  deriving Repr, DecidableEq

/-- The decimal digits of a natural number, most significant first. -/
def digitChars (n : Nat) : List Char := Nat.toDigits 10 n

/-- A power of ten; a negative power is one. -/
def powerOfTen (power : Int) : Nat := Nat.pow 10 power.toNat

/-- How many decimal digits a natural number has. -/
def digitCount (n : Nat) : Nat := (digitChars n).length

/-- Compares `digits * 10 ^ power` with `quarters` quarters of `2 ^ exponent` units. -/
def Decimal.compareQuarters (d : Decimal) (quarters exponent : Nat) : Ordering :=
  compare ((d.digits * powerOfTen d.power) <<< (unitBits + 2))
    ((quarters * powerOfTen (-d.power)) <<< exponent)

/-- Whether a reader that rounds to the nearest double, ties to even, reads the decimal as the
magnitude. -/
def Magnitude.readsBack (m : Magnitude) (d : Decimal) : Bool :=
  let isEven := m.mantissa % 2 == 0
  let below := if m.mantissa = leadingBit ∧ m.exponent > 0 then 1 else 2
  let lower := d.compareQuarters (4 * m.mantissa - below) m.exponent
  let upper := d.compareQuarters (4 * m.mantissa + 2) m.exponent
  (lower == .gt || (lower == .eq && isEven)) && (upper == .lt || (upper == .eq && isEven))

/-- The number of units, in multiples of `10 ^ power`, rounded down. -/
def Magnitude.floorAt (m : Magnitude) (power : Int) : Nat :=
  m.units * powerOfTen (-power) / (powerOfTen power <<< unitBits)

/-- The power of ten of the leading digit of a positive magnitude. -/
def Magnitude.leadingPower (m : Magnitude) : Int :=
  let whole := m.units >>> unitBits
  if whole ≠ 0 then (digitCount whole : Int) - 1
  else
    let places := digitCount ((1 <<< unitBits) / m.units)
    if m.units * powerOfTen (places - 1) = 1 <<< unitBits then 1 - (places : Int)
    else -(places : Int)

/-- The nearer of two neighbouring decimals, `low` and the next one on its grid; of two equally near
ones the even. -/
def Magnitude.nearer (m : Magnitude) (low : Decimal) : Decimal :=
  let high : Decimal := ⟨low.digits + 1, low.power⟩
  match Decimal.compareQuarters ⟨2 * low.digits + 1, low.power⟩ (8 * m.mantissa) m.exponent with
  | .lt => high
  | .gt => low
  | .eq => if low.digits % 2 = 0 then low else high

/-- Tries grids of `count` digits and more, `fuel` of them. -/
def Magnitude.search (m : Magnitude) (leading : Int) (count : Nat) : (fuel : Nat) → Decimal
  | 0 => ⟨m.floorAt (leading + 1 - count), leading + 1 - count⟩
  | fuel + 1 =>
    let power := leading + 1 - count
    let low : Decimal := ⟨m.floorAt power, power⟩
    let high : Decimal := ⟨low.digits + 1, power⟩
    match m.readsBack low, m.readsBack high with
    | true, true => m.nearer low
    | true, false => low
    | false, true => high
    | false, false => m.search leading (count + 1) fuel

/-- The shortest decimal that reads back as the positive magnitude; seventeen digits always do. -/
def Magnitude.shortest (m : Magnitude) : Decimal := m.search m.leadingPower 1 17

end DocQuery.Number
