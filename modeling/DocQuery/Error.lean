import DocQuery.Value.Printer

/-!
# Errors of building a query

Why a call that builds a query is refused. A refused call leaves the query as it was.
-/

namespace DocQuery

/-- Why a part of a query cannot be built. -/
inductive BuildError where
  | unsupportedOperator (token : String)
  | conditionNotObject (value : Value)
  | unknownPatternOption (letter : Char)
  | selectionNotFields (value : Value)
  | selectedFieldNotString (value : Value)
  | orderingWithoutField
  | orderingNotFields (value : Value)
  | orderedFieldNotString (value : Value)
  | unknownDirection (field : String) (value : Value)
  | emptyJoinPath
  | joinTooDeep (path : String) (most : Nat)
  | joinNestedTooDeep (path : String)
  | unknownField (field entity : String)
  | fieldNotRelationship (field entity : String)
  | computedFieldsNotObject (value : Value)
  deriving Repr, BEq

/-- The text of the error. -/
def BuildError.message : BuildError → String
  | .unsupportedOperator token => "Unsupported operator: " ++ token
  | .conditionNotObject value => "where() expects a condition object, got " ++ value.text
  | .unknownPatternOption letter => "where(): unsupported regex option '" ++ letter.toString ++ "'"
  | .selectionNotFields value =>
    "select() expects a string or an array of field paths, got " ++ value.text
  | .selectedFieldNotString value => "select() expects fields as strings, got " ++ value.text
  | .orderingWithoutField => "orderBy() requires at least one field"
  | .orderingNotFields value => "orderBy() expects string, array, or object, got " ++ value.text
  | .orderedFieldNotString value => "orderBy() array values must be strings, got " ++ value.text
  | .unknownDirection field value =>
    "orderBy() object values must be 1, -1, 'asc', or 'desc' (field '" ++ field ++ "' got " ++
      value.text ++ ")"
  | .emptyJoinPath => "with() expects a non-empty string path"
  | .joinTooDeep path most =>
    "with(): supports up to " ++ toString most ++ " levels, got '" ++ path ++ "'"
  | .joinNestedTooDeep path => "with(): nested joins stop at two levels, got '" ++ path ++ "'"
  | .unknownField field entity => "Path '" ++ field ++ "' not found on " ++ entity ++ " schema"
  | .fieldNotRelationship field entity => "Path '" ++ field ++ "' is not a ref on " ++ entity
  | .computedFieldsNotObject value => "addFields() expects a non-null object, got " ++ value.text

end DocQuery
