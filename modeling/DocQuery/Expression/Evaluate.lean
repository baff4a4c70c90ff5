import DocQuery.Expression.Operator
import DocQuery.Path.Read

/-!
# Evaluating expressions

An expression is a value. A string with a dollar sign in front reads a field of the document, with
two a variable; an object with one key that starts with a dollar sign applies an operator; any other
value stands for itself, its items and fields evaluated. A missing result is null as an item and
leaves a field out.
-/

namespace DocQuery.Expression

/-- The document that fields are read from, and the variables, the innermost first. -/
structure Scope where
  root : Value
  bindings : List (String × Value) := []

namespace Scope

/-- The value of a variable; `ROOT` and `CURRENT` name the document. -/
def lookup? (scope : Scope) (name : String) : Option Value :=
  if name = "ROOT" ∨ name = "CURRENT" then some scope.root else scope.bindings.lookup name

/-- Binds a variable. -/
def bind (scope : Scope) (name : String) (value : Value) : Scope :=
  { scope with bindings := (name, value) :: scope.bindings }

end Scope

/-- The value of a string: a variable, a field, or the string itself. -/
def readString (scope : Scope) (s : String) : Option Value :=
  match s.toList with
  | '$' :: '$' :: name =>
    match Path.parse (String.ofList name) with
    | head :: rest => (scope.lookup? head).bind (Path.resolve rest)
    | [] => none
  | '$' :: field => Path.resolve (Path.parse (String.ofList field)) scope.root
  | _ => some (.string s)

/-- The name under which the items of an array are bound. -/
def itemName (key : String) (spec : Document) : Except StoreError String :=
  match spec.get? "as" with
  | some (.string name) => .ok name
  | some _ => fault key .nameNotString
  | none => .ok "this"

/-- The items of the array to work on; none if it is null or missing. -/
def inputItems (key : String) : Option Value → Except StoreError (Option (List Value))
  | none => .ok none
  | some .null => .ok none
  | some (.array items) => .ok (some items)
  | some other => fault key (.inputNotArray other)

/-- Requires a part of the argument to be there. -/
def required (key name : String) : Option α → Except StoreError α
  | some part => .ok part
  | none => fault key (.missing name)

/-- The items for which a test holds. -/
def filterItems (test : Value → Except StoreError Bool) :
    List Value → Except StoreError (List Value)
  | [] => .ok []
  | item :: rest => do
    let keep ← test item
    let others ← filterItems test rest
    return if keep then item :: others else others

mutual

/-- The value of an expression. -/
def eval (scope : Scope) : Value → Except StoreError (Option Value)
  | .string s => .ok (readString scope s)
  | .array items => do return some (.array ((← evalItems scope items).map (·.getD .null)))
  | .object [(key, arg)] =>
    if startsWithDollar key then
      match Operator.ofKey? key with
      | none => .error (.unsupportedExpression key)
      | some .literal => .ok (some arg)
      | some .map => evalMap scope key arg
      | some .filter => evalFilter scope key arg
      | some .elementAt => do
        let (array, index) ← evalPair scope key arg
        elementAt key array index
      | some .mergeObjects => do
        let parts ← (match arg with
          | .array items => evalItems scope items
          | other => (eval scope other).map ([·]))
        return some (.object (← mergeParts key [] parts))
      | some .cond => evalCond scope key arg
      | some .ifNull =>
        match arg with
        | .array items => evalIfNull scope key items
        | _ => fault key .notArray
      | some .typeOf => do
        let v ← (match arg with
          | .array [item] => eval scope item
          | other => eval scope other)
        return some (.string (typeName v))
      | some (.compare c) => do
        let (x, y) ← evalPair scope key arg
        return some (.bool (c.holds (Value.orderMissing x y)))
      | some .isIn => do
        let (needle, haystack) ← evalPair scope key arg
        return some (.bool (← isAmong key needle haystack))
      | some (.arithmetic a) =>
        match arg with
        | .array items =>
          if (a = .subtract ∨ a = .divide) ∧ items.length ≠ 2 then fault key .notTwoArguments
          else do
            match ← evalUntilNull scope (requireNumber key) items with
            | some operands =>
              return some (← arithmeticResult key a (operands.filterMap Value.number?))
            | none => return some .null
        | _ => fault key .notArray
      | some .concat =>
        match arg with
        | .array items => do
          match ← evalUntilNull scope (requireString key) items with
          | some parts => return some (.string (String.join (parts.filterMap Value.string?)))
          | none => return some .null
        | _ => fault key .notArray
      | some .all =>
        match arg with
        | .array items => do return some (.bool (← evalConnective scope true items))
        | _ => fault key .notArray
      | some .any =>
        match arg with
        | .array items => do return some (.bool (← evalConnective scope false items))
        | _ => fault key .notArray
      | some .not => do
        let v ← (match arg with
          | .array [item] => eval scope item
          | other => eval scope other)
        return some (.bool (!Value.truthy v))
      | some .size => do
        let v ← (match arg with
          | .array [item] => eval scope item
          | other => eval scope other)
        return some (.ofNat (← sizeOf key v))
    else do
      match ← eval scope arg with
      | some v => return some (.object [(key, v)])
      | none => return some (.object [])
  | .object fields => do return some (.object (← evalFields scope fields))
  | v => .ok (some v)
termination_by structural v => v

/-- The values of a list of expressions, from first to last. -/
def evalItems (scope : Scope) : List Value → Except StoreError (List (Option Value))
  | [] => .ok []
  | item :: rest => do
    let v ← eval scope item
    let others ← evalItems scope rest
    return v :: others
termination_by structural items => items

/-- The fields of an object of expressions; missing values are left out. -/
def evalFields (scope : Scope) : List (String × Value) → Except StoreError Document
  | [] => .ok []
  | (key, value) :: rest => do
    let v ← eval scope value
    let others ← evalFields scope rest
    match v with
    | some v => return (key, v) :: others
    | none => return others
termination_by structural fields => fields

/-- The value of the expression under a key, if the key is there. -/
def evalField? (scope : Scope) (key : String) :
    List (String × Value) → Option (Except StoreError (Option Value))
  | [] => none
  | (k, value) :: rest => if k = key then some (eval scope value) else evalField? scope key rest
termination_by structural fields => fields

/-- The values of two arguments. -/
def evalPair (scope : Scope) (key : String) :
    Value → Except StoreError (Option Value × Option Value)
  | .array [first, second] => do return (← eval scope first, ← eval scope second)
  | _ => fault key (.notArguments 2)
termination_by structural v => v

/-- Evaluates an expression for every item of an array. -/
def evalMap (scope : Scope) (key : String) : Value → Except StoreError (Option Value)
  | .object spec => do
    let input ← (← required key "input" (evalField? scope "input" spec))
    let name ← itemName key spec
    match ← inputItems key input with
    | none => return some .null
    | some items =>
      if FieldMap.hasKey spec "in" then
        let mapped ← items.mapM fun item => do
          return (← (← required key "in" (evalField? (scope.bind name item) "in" spec))).getD .null
        return some (.array mapped)
      else fault key (.missing "in")
  | _ => fault key .notSpecification
termination_by structural v => v

/-- Keeps the items of an array for which an expression is true. -/
def evalFilter (scope : Scope) (key : String) : Value → Except StoreError (Option Value)
  | .object spec => do
    let input ← (← required key "input" (evalField? scope "input" spec))
    let name ← itemName key spec
    match ← inputItems key input with
    | none => return some .null
    | some items =>
      if FieldMap.hasKey spec "cond" then
        let kept ← filterItems (fun item => do
          return Value.truthy
            (← (← required key "cond" (evalField? (scope.bind name item) "cond" spec)))) items
        return some (.array kept)
      else fault key (.missing "cond")
  | _ => fault key .notSpecification
termination_by structural v => v

/-- Evaluates one of two expressions. All three parts must be there before any is evaluated. -/
def evalCond (scope : Scope) (key : String) : Value → Except StoreError (Option Value)
  | .array [test, yes, no] => do
    if Value.truthy (← eval scope test) then eval scope yes else eval scope no
  | .object spec => do
    let test ← required key "if" (evalField? scope "if" spec)
    let yes ← required key "then" (evalField? scope "then" spec)
    let no ← required key "else" (evalField? scope "else" spec)
    if Value.truthy (← test) then yes else no
  | _ => fault key .notConditional
termination_by structural v => v

/-- The first value that is neither null nor missing; the last expression is the fallback. -/
def evalIfNull (scope : Scope) (key : String) : List Value → Except StoreError (Option Value)
  | [] => fault key .noArgument
  | [fallback] => eval scope fallback
  | candidate :: rest => do
    match ← eval scope candidate with
    | none => evalIfNull scope key rest
    | some .null => evalIfNull scope key rest
    | found => return found
termination_by structural items => items

/-- The values of a list of expressions, each of them checked; none as soon as one is null or
missing. -/
def evalUntilNull (scope : Scope) (check : Value → Except StoreError Unit) :
    List Value → Except StoreError (Option (List Value))
  | [] => .ok (some [])
  | item :: rest => do
    match ← eval scope item with
    | none => return none
    | some .null => return none
    | some v =>
      check v
      return (← evalUntilNull scope check rest).map (v :: ·)
termination_by structural items => items

/-- Whether all expressions are true, or any of them; evaluation stops at the first that decides. -/
def evalConnective (scope : Scope) (wantAll : Bool) : List Value → Except StoreError Bool
  | [] => .ok wantAll
  | item :: rest => do
    let hit := Value.truthy (← eval scope item)
    if hit != wantAll then return hit else evalConnective scope wantAll rest
termination_by structural items => items

end

end DocQuery.Expression
