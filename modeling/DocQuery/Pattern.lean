import DocQuery.Error
import DocQuery.Regex.Matcher
import DocQuery.Regex.Parser

/-!
# Patterns

A pattern is the source of a regular expression with option letters. The letters are kept in order
and once each, so patterns that mean the same options are equal. A pattern is a value in a query,
`Pattern.toValue`; it is compiled only when it is evaluated.
-/

namespace DocQuery

/-- The source of a regular expression and its option letters. -/
structure Pattern where
  source : String
  options : String
  deriving Repr, DecidableEq

namespace Pattern

/-- The letters that are options, in the order in which patterns hold them. -/
def optionLetters : List Char := ['i', 'm', 's', 'x']

/-- The option letters of a text, in order and once each. -/
def normalOptions (letters : List Char) : List Char := optionLetters.filter letters.contains

/-- A pattern; the first letter that is no option is refused. -/
def make (source options : String) : Except BuildError Pattern :=
  match options.toList.find? fun c => !optionLetters.contains c with
  | some letter => .error (.unknownPatternOption letter)
  | none => .ok ⟨source, String.ofList (normalOptions options.toList)⟩

/-- A pattern that matches without regard to case. -/
def ignoringCase (source : String) : Pattern := ⟨source, "i"⟩

/-- The key that marks a pattern among values. -/
def valueKey : String := "$regularExpression"

/-- The pattern as a value. -/
def toValue (p : Pattern) : Value :=
  .object [(valueKey, .object [("pattern", .string p.source), ("options", .string p.options)])]

/-- The pattern as it is serialized: an object of one entry, whose fields are inserted one after the
other. -/
def serialized (p : Pattern) : Value :=
  let source : Document := FieldMap.insert [] "pattern" (.string p.source)
  .object [(valueKey, .object (source.insert "options" (.string p.options)))]

/-- The pattern that a value stands for, if it stands for one. Options that are no string count as
none. -/
def ofValue? (v : Value) : Option (Except BuildError Pattern) := do
  let inner ← (← (← v.fields?).get? valueKey).fields?
  let source ← (← inner.get? "pattern").string?
  let options := ((inner.get? "options").bind Value.string?).getD ""
  return make source options

/-- The pattern between slashes. -/
def display (p : Pattern) : String := "/" ++ p.source ++ "/" ++ p.options

/-- The source with the options as flags in front. -/
def flaggedSource (p : Pattern) : String :=
  if p.options = "" then p.source else "(?" ++ p.options ++ ")" ++ p.source

/-- Compiles the pattern to a test on texts: whether it matches somewhere. -/
def compile (p : Pattern) : Except Regex.SyntaxError (String → Bool) :=
  (Regex.parse p.flaggedSource).map Regex.Node.matchesIn

end Pattern

end DocQuery
