import DocQuery.Pattern

/-!
# Errors of a store

Why a store refuses a document or cannot evaluate a pipeline.
-/

namespace DocQuery

/-- What is wrong with the argument of an operator. -/
inductive ArgumentFault where
  | notArguments (count : Nat)
  | missing (name : String)
  | notSpecification
  | notArray
  | otherThanArray (value : Value)
  | otherThanObjects (value : Value)
  | otherThanStrings (value : Value)
  | otherThanNumbers (value : Value)
  | inputNotArray (value : Value)
  | nameNotString
  | indexNotInteger
  | notConditional
  | noArgument
  | secondNotArray
  | notTwoArguments
  | zeroDivisor
  | notConditions
  | notPattern (value : Value)
  deriving Repr, BEq

/-- The text of the fault. -/
def ArgumentFault.message : ArgumentFault → String
  | .notArguments count => "expects an array of " ++ toString count ++ " arguments"
  | .missing name => "missing '" ++ name ++ "'"
  | .notSpecification => "expects an object argument"
  | .notArray => "expects an array"
  | .otherThanArray value => "expects an array, got " ++ value.text
  | .otherThanObjects value => "expects objects, got " ++ value.text
  | .otherThanStrings value => "expects strings, got " ++ value.text
  | .otherThanNumbers value => "expects numbers, got " ++ value.text
  | .inputNotArray value => "input must be an array, got " ++ value.text
  | .nameNotString => "'as' must be a string"
  | .indexNotInteger => "expects an integer index"
  | .notConditional => "expects \x7bif, then, else\x7d or a 3-element array"
  | .noArgument => "expects at least one argument"
  | .secondNotArray => "expects an array as its second argument"
  | .notTwoArguments => "expects exactly 2 arguments"
  | .zeroDivisor => "can't divide by zero"
  | .notConditions => "expects an array of conditions"
  | .notPattern value => "expects a string or pattern, got " ++ value.text

/-- Why a store fails. -/
inductive StoreError where
  | notDocument (collection : String) (value : Value)
  | unsupportedExpression (operator : String)
  | unsupportedCondition (operator : String)
  | invalidArgument (operator : String) (fault : ArgumentFault)
  | mixedProjection (field : String)
  | pattern (error : BuildError)
  | regex (error : Regex.SyntaxError)
  deriving Repr, BEq

/-- The text of the error. -/
def StoreError.message : StoreError → String
  | .notDocument collection value =>
    "Collection '" ++ collection ++ "' only stores objects, got " ++ value.text
  | .unsupportedExpression operator => "Unsupported expression operator: " ++ operator
  | .unsupportedCondition operator => "Unsupported query operator: " ++ operator
  | .invalidArgument operator fault => "Invalid argument to " ++ operator ++ ": " ++ fault.message
  | .mixedProjection field =>
    "Cannot mix inclusion and exclusion in a projection (field '" ++ field ++ "')"
  | .pattern error => error.message
  | .regex error => "Invalid regex pattern: " ++ error.message

end DocQuery
