import DocQuery.Text.Blank
import DocQuery.Text.Case
import DocQuery.Text.Property

/-!
# Character classes of a regular expression

A class is built from single characters, ranges and named sets by union, complement and the set
operations of bracketed classes. Without regard to case a range also holds the characters that
differ from one of its own in case only; the complement is taken afterwards, so `[^a]` then leaves
out `A` as well.
-/

namespace DocQuery.Regex

/-- The sets with a letter of their own: `\d`, `\w` and `\s`. -/
inductive NamedSet where
  | digit
  | word
  | space
  deriving Repr, DecidableEq

/-- Whether the set has the character. -/
def NamedSet.contains : NamedSet → Char → Bool
  | .digit, c => Text.isDecimalDigit c
  | .word, c => Text.isWordChar c
  | .space, c => Text.isBlank c

/-- A set of characters. -/
inductive CharClass where
  | nothing
  | range (first last : Char)
  | named (set : NamedSet)
  | complement (cls : CharClass)
  | union (left right : CharClass)
  | intersection (left right : CharClass)
  deriving Repr, DecidableEq

namespace CharClass

/-- The class of one character. -/
def single (c : Char) : CharClass := .range c c

/-- The characters of the first class that the second does not have. -/
def difference (left right : CharClass) : CharClass := .intersection left (.complement right)

/-- The characters that exactly one of two classes has. -/
def symmetricDifference (left right : CharClass) : CharClass :=
  .union (difference left right) (difference right left)

/-- The union of a list of classes. -/
def unions : List CharClass → CharClass
  | [] => .nothing
  | [cls] => cls
  | cls :: rest => .union cls (unions rest)

/-- Whether the class has the character. -/
def contains (ignoreCase : Bool) : CharClass → Char → Bool
  | .nothing, _ => false
  | .range first last, c =>
    if ignoreCase then (Text.caseVariants c).any fun v => decide (first ≤ v) && decide (v ≤ last)
    else decide (first ≤ c) && decide (c ≤ last)
  | .named set, c => set.contains c
  | .complement cls, c => !cls.contains ignoreCase c
  | .union left right, c => left.contains ignoreCase c || right.contains ignoreCase c
  | .intersection left right, c => left.contains ignoreCase c && right.contains ignoreCase c

/-- The classes that brackets name in full, such as `[:alpha:]`. -/
def ofPosixName? (name : String) : Option CharClass :=
  let lower := .range 'a' 'z'
  let upper := .range 'A' 'Z'
  let digit := .range '0' '9'
  let alpha := .union lower upper
  match name with
  | "alnum" => some (.union alpha digit)
  | "alpha" => some alpha
  | "ascii" => some (.range '\x00' '\x7f')
  | "blank" => some (.union (single ' ') (single '\t'))
  | "cntrl" => some (.union (.range '\x00' '\x1f') (single '\x7f'))
  | "digit" => some digit
  | "graph" => some (.range '!' '~')
  | "lower" => some lower
  | "print" => some (.range ' ' '~')
  | "punct" => some (unions [.range '!' '/', .range ':' '@', .range '[' '\x60', .range '\x7b' '~'])
  | "space" => some (.union (.range '\t' '\r') (single ' '))
  | "upper" => some upper
  | "word" => some (unions [alpha, digit, single '_'])
  | "xdigit" => some (unions [digit, .range 'a' 'f', .range 'A' 'F'])
  | _ => none

end CharClass

end DocQuery.Regex
