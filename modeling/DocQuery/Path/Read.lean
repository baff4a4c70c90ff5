import DocQuery.Path.Basic

/-!
# Reading along a path

Three readings of a path, which differ in how they cross arrays. `resolve` gives one value: behind
an array it is the array of what the items hold. `flatten` gives the values that a join compares:
arrays are opened on the way and at the end. `candidates` gives the values that a condition may hold
of: an array at the end stands for itself and for each of its items.
-/

namespace DocQuery.Path

mutual

/-- Reads a field of an object and goes on with `next`; from an array, the array of what its items
give. -/
def readField (key : String) (next : Value → Option Value) : Value → Option Value
  | .object fields => (FieldMap.get? fields key).bind next
  | .array items => some (.array (readFieldOfItems key next items))
  | _ => none
termination_by structural v => v

/-- What the items of an array give; items that give nothing are left out. -/
def readFieldOfItems (key : String) (next : Value → Option Value) : List Value → List Value
  | [] => []
  | item :: rest =>
    match readField key next item with
    | some v => v :: readFieldOfItems key next rest
    | none => readFieldOfItems key next rest
termination_by structural items => items

end

/-- The value at a path. -/
def resolve : Path → Value → Option Value
  | [] => some
  | key :: rest => readField key (resolve rest)

mutual

/-- Reads a field of an object, or of every object in an array, and goes on with `next`. -/
def gatherField (key : String) (next : Value → List Value) : Value → List Value
  | .object fields => ((FieldMap.get? fields key).map next).getD []
  | .array items => gatherFieldOfItems key next items
  | _ => []
termination_by structural v => v

/-- What the items of an array give, one after the other. -/
def gatherFieldOfItems (key : String) (next : Value → List Value) : List Value → List Value
  | [] => []
  | item :: rest => gatherField key next item ++ gatherFieldOfItems key next rest
termination_by structural items => items

end

/-- The items of an array, or the value itself. -/
def opened : Value → List Value
  | .array items => items
  | v => [v]

/-- The values at a path, with arrays opened on the way and at the end. -/
def flatten : Path → Value → List Value
  | [] => opened
  | key :: rest => gatherField key (flatten rest)

/-- The value, followed by its items if it is an array. -/
def withItems : Value → List Value
  | .array items => .array items :: items
  | v => [v]

/-- The values at a path that a condition may hold of. -/
def candidates : Path → Value → List Value
  | [], v => withItems v
  | [key], v =>
    match v.fields?.bind (FieldMap.get? · key) with
    | some found => withItems found
    | none => []
  | key :: next :: rest, v =>
    match v.fields?.bind (FieldMap.get? · key) with
    | some (.array items) => items.flatMap (candidates (next :: rest))
    | some found => candidates (next :: rest) found
    | none => []

end DocQuery.Path
