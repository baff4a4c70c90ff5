import DocQuery.Stage.Basic

/-!
# Reading stages

`Stage.ofValue?` reads a stage from the form in which it is sent.
-/

namespace DocQuery.Stage

/-- The string under a key. -/
def stringField? (fields : Document) (key : String) : Option String :=
  (fields.get? key).bind Value.string?

/-- The natural number that a value is. -/
def natural? : Value → Option Nat
  | .number n => n.natural?
  | _ => none

/-- The flag of a projection. -/
def inclusion? (v : Value) : Option Inclusion :=
  match v.signed? with
  | some 1 => some .included
  | some 0 => some .excluded
  | _ => none

/-- The direction of a sort. -/
def direction? (v : Value) : Option Direction :=
  match v.signed? with
  | some 1 => some .ascending
  | some (-1) => some .descending
  | _ => none

/-- Reads the values of a field map. -/
def entries? (read : Value → Option α) (fields : Document) : Option (FieldMap α) :=
  fields.mapM fun entry => (read entry.2).map (entry.1, ·)

/-- The stage of a kind with a body; facets are left to `ofValue?`. -/
def ofBody? (kind : String) (body : Value) : Option Stage :=
  match kind with
  | "$match" => body.fields?.map .filter
  | "$sort" => do return .sort (← entries? direction? (← body.fields?))
  | "$skip" => (natural? body).map .skip
  | "$limit" => (natural? body).map .limit
  | "$project" => do return .project (← entries? inclusion? (← body.fields?))
  | "$lookup" => do
    let fields ← body.fields?
    return .lookup ⟨← stringField? fields "from", ← stringField? fields "localField",
      ← stringField? fields "foreignField", ← stringField? fields "as"⟩
  | "$unwind" => do
    let fields ← body.fields?
    match fields.get? "preserveNullAndEmptyArrays" with
    | some (.bool preserve) => return .unwind ⟨← stringField? fields "path", preserve⟩
    | _ => none
  | "$set" => body.fields?.map .set
  | "$unset" => body.string?.map .unset
  | "$addFields" => body.fields?.map .addFields
  | "$count" => body.string?.map .count
  | _ => none

mutual

/-- Reads a stage. -/
def ofValue? : Value → Option Stage
  | .object [(kind, .object branches)] =>
    if kind = "$facet" then (branches? branches).map .facet else ofBody? kind (.object branches)
  | .object [(kind, body)] => ofBody? kind body
  | _ => none
termination_by structural v => v

/-- Reads the branches of a facet. -/
def branches? : List (String × Value) → Option (List (String × List Stage))
  | [] => some []
  | (name, .array items) :: rest =>
    match stages? items, branches? rest with
    | some stages, some others => some ((name, stages) :: others)
    | _, _ => none
  | _ :: _ => none
termination_by structural branches => branches

/-- Reads a list of stages. -/
def stages? : List Value → Option (List Stage)
  | [] => some []
  | item :: rest =>
    match ofValue? item, stages? rest with
    | some stage, some others => some (stage :: others)
    | _, _ => none
termination_by structural items => items

end

end DocQuery.Stage

/-- Reads a pipeline from an array of stages. -/
def DocQuery.Pipeline.ofValue? : DocQuery.Value → Option DocQuery.Pipeline
  | .array items => DocQuery.Stage.stages? items
  | _ => none
