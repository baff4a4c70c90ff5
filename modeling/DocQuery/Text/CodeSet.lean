/-!
# Sets of characters as spans of code points

A character property is a table of spans; a span with step 2 covers every second code point, the way
upper and lower case letters alternate in many alphabets. `CodeSet.contains` asks whether a
character lies on one of the spans.
-/

namespace DocQuery.Text

/-- The code points `first`, `first + step`, ... up to `last`. -/
structure Span where
  first : Nat
  last : Nat
  step : Nat
  deriving Repr, DecidableEq

/-- Whether `code` is one of the span's code points. -/
def Span.covers (span : Span) (code : Nat) : Bool :=
  decide (span.first ≤ code) && decide (code ≤ span.last) && (code - span.first) % span.step == 0

/-- A set of characters, written as spans in increasing order. -/
abbrev CodeSet := Array Span

/-- Whether the character lies on a span of the set. -/
def CodeSet.contains (set : CodeSet) (c : Char) : Bool :=
  set.any fun span => span.covers c.toNat

end DocQuery.Text
