import DocQuery.Error
import DocQuery.Text.Blank

/-!
# Selections

A selection is a list of field tokens; a leading minus sign excludes the field. It compiles to the
body of a projection: every field once, at its first place and with its last flag.
-/

namespace DocQuery

/-- Whether a projection keeps a field. -/
inductive Inclusion where
  | included
  | excluded
  deriving Repr, DecidableEq

/-- The flag in a projection stage. -/
def Inclusion.toValue : Inclusion → Value
  | .included => .ofInt 1
  | .excluded => .ofInt 0

/-- Splits a leading minus sign off a token. -/
def splitMinus (token : String) : Bool × String :=
  match token.toList with
  | '-' :: field => (true, String.ofList field)
  | _ => (false, token)

/-- The strings in a list of values; the first value that is no string is refused by the given
error. -/
def stringsOf (refuse : Value → BuildError) (items : List Value) :
    Except BuildError (List String) :=
  items.mapM fun item =>
    match item with
    | .string s => .ok s
    | other => .error (refuse other)

/-- The field tokens of a projection. -/
structure Selection where
  tokens : List String
  deriving Repr, DecidableEq

namespace Selection

/-- The tokens of a text, separated by blanks. -/
def ofText (text : String) : Selection := ⟨Text.words text⟩

/-- The selection that a value stands for: a text of tokens or a list of them. -/
def ofValue : Value → Except BuildError Selection
  | .string text => .ok (ofText text)
  | .array items => Selection.mk <$> stringsOf .selectedFieldNotString items
  | other => .error (.selectionNotFields other)

/-- The field of a token with its flag. -/
def flagOf (token : String) : String × Inclusion :=
  match splitMinus token with
  | (true, field) => (field, .excluded)
  | (false, field) => (field, .included)

/-- The flags of the selected fields. Tokens without a field are dropped. -/
def compile (s : Selection) : FieldMap Inclusion :=
  FieldMap.collect ((s.tokens.map flagOf).filter fun entry => entry.1 ≠ "")

end Selection

end DocQuery
