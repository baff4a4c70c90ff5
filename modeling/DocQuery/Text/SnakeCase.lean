import DocQuery.Text.Case
import DocQuery.Text.Property

/-!
# Snake case

A name is cut into words at every character that is neither letter nor number, between a lower case
letter and an upper case one, and before the last capital of a run of capitals that a lower case
letter follows. The words are lower-cased and joined by underscores: `HTTPServer` becomes
`http_server`.
-/

namespace DocQuery.Text

/-- The case of the letters read last in the current word. -/
inductive WordMode where
  | boundary
  | lower
  | upper
  deriving Repr, DecidableEq

/-- The mode after a character; one without case leaves it as it is. -/
def WordMode.next (mode : WordMode) (c : Char) : WordMode :=
  if isLowercase c then .lower else if isUppercase c then .upper else mode

/-- Cuts the rest of a piece without separators into words; `word` holds what the current word has
so far. -/
def caseWords (mode : WordMode) (word : List Char) : List Char → List (List Char)
  | [] => []
  | [c] => [word ++ [c]]
  | c :: d :: rest =>
    if mode.next c = .lower ∧ isUppercase d then
      (word ++ [c]) :: caseWords .boundary [] (d :: rest)
    else if mode = .upper ∧ isUppercase c ∧ isLowercase d then
      word :: caseWords .boundary [c] (d :: rest)
    else
      caseWords (mode.next c) (word ++ [c]) (d :: rest)

/-- The maximal runs of letters and numbers of a name, empty ones included. -/
def alphanumericRuns : List Char → List (List Char)
  | [] => [[]]
  | c :: cs =>
    match alphanumericRuns cs with
    | [] => [[c]]
    | run :: rest => if isAlphanumeric c then (c :: run) :: rest else [] :: run :: rest

/-- Lower-cases a word character by character; a capital sigma that ends the word becomes a final
sigma. -/
def lowerWord : List Char → List Char
  | [] => []
  | ['Σ'] => ['ς']
  | c :: cs => lowerCase c ++ lowerWord cs

/-- The name in snake case. -/
def snakeCase (name : String) : String :=
  let pieces := alphanumericRuns name.toList
  let parts := pieces.flatMap (caseWords .boundary [])
  "_".intercalate (parts.map fun word => String.ofList (lowerWord word))

end DocQuery.Text
