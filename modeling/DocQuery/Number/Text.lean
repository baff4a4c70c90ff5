import DocQuery.Number.Shortest

/-!
# Doubles in decimal text

Doubles are written with the fewest digits that read back. Between `10 ^ -5` and `10 ^ 16` the text
is positional and keeps at least one digit after the point; elsewhere it has an exponent with a sign
and no padding.
-/

namespace DocQuery.Number

/-- Which powers of ten of the leading digit are written positionally. -/
structure PositionalRange where
  lowest : Int
  highest : Int
  deriving Repr, DecidableEq

/-- The range in which documents spell doubles without an exponent. -/
def documentRange : PositionalRange := ⟨-5, 15⟩

/-- The digits of the decimal without trailing zeros. -/
def significant (n : Nat) : List Char :=
  let kept := ((digitChars n).reverse.dropWhile (· == '0')).reverse
  if kept.isEmpty then ['0'] else kept

/-- Positional text of the digits, the first of which has the given power of ten. -/
def positionalText (digits : List Char) (leading : Int) : List Char :=
  if leading < 0 then
    ['0', '.'] ++ List.replicate (-leading - 1).toNat '0' ++ digits
  else
    let whole := leading.toNat + 1
    let padded := digits ++ List.replicate (whole - digits.length) '0'
    let fraction := padded.drop whole
    padded.take whole ++ ['.'] ++ (if fraction.isEmpty then ['0'] else fraction)

/-- Text with an exponent of the digits, the first of which has the given power of ten. -/
def exponentText (digits : List Char) (leading : Int) : List Char :=
  let mantissa := match digits with
    | [] => ['0']
    | [d] => [d]
    | d :: rest => d :: '.' :: rest
  mantissa ++ ['e', if leading < 0 then '-' else '+'] ++ digitChars leading.natAbs

/-- The text of a finite double. -/
def floatText (x : Float) : String :=
  let sign := if isNegative x then ['-'] else []
  let m := magnitude x
  if m.units = 0 then String.ofList (sign ++ ['0', '.', '0'])
  else
    let d := m.shortest
    let leading : Int := d.power + digitCount d.digits - 1
    let digits := significant d.digits
    let body :=
      if documentRange.lowest ≤ leading ∧ leading ≤ documentRange.highest then
        positionalText digits leading
      else exponentText digits leading
    String.ofList (sign ++ body)

end DocQuery.Number
