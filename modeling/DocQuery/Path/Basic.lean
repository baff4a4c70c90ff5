import DocQuery.Value.Basic

/-!
# Field paths

A field path is written with dots, `author.name`, and is the list of the names between them. A name
may be empty. Two paths overlap when one is a prefix of the other, name by name.
-/

namespace DocQuery

/-- The names of a dotted path, outermost first. -/
abbrev Path := List String

namespace Path

/-- Cuts a text at every dot; there is always at least one piece. -/
def cutAtDots : List Char → List (List Char)
  | [] => [[]]
  | c :: cs =>
    if c = '.' then [] :: cutAtDots cs
    else
      match cutAtDots cs with
      | [] => [[c]]
      | piece :: rest => (c :: piece) :: rest

/-- The path that a dotted name writes. -/
def parse (dotted : String) : Path := (cutAtDots dotted.toList).map String.ofList

/-- The first name of a dotted path. -/
def head (dotted : String) : String := (parse dotted).headD ""

theorem cutAtDots_ne_nil (s : List Char) : cutAtDots s ≠ [] := by
  cases s with
  | nil => simp [cutAtDots]
  | cons c cs =>
    unfold cutAtDots
    split
    · simp
    · split <;> simp

theorem parse_ne_nil (dotted : String) : parse dotted ≠ [] := by
  simp [parse, cutAtDots_ne_nil]

/-- Whether one of two paths is a prefix of the other. -/
def Overlap (p q : Path) : Prop := p <+: q ∨ q <+: p

instance (p q : Path) : Decidable (Overlap p q) := by unfold Overlap; infer_instance

end Path

end DocQuery
