import DocQuery.Join
import DocQuery.Proofs.Store.Documents

/-!
# Joins as nested loops

What a join means, without stages: for every document, walk the target collection in order and keep
what the reference names (`referred`). A reference to one document names what has its identity, a
list of references what has the identity of one of them. `joinParent` puts what was found into the
document, and `joinChild` does the same one level deeper, in the joined document or in each joined
document of a list.

`Conforms` is what is asked of the stored documents: those that are referred to have an identity,
and references have the shape that the schema gives them. It is asked of base documents as well
(`WellReferring`).
-/

namespace DocQuery.Join

/-! ## The loops -/

/-- Whether a reference names an identity. -/
def refersTo : Cardinality → Option Value → Value → Bool
  | .one, some reference, id => reference.same id
  | .many, some (.array references), id => references.any fun reference => reference.same id
  | _, _, _ => false

/-- Whether a reference names the identity of a document. -/
def pointsTo (schema : Schema) (r : Relationship) (reference : Option Value) (foreign : Value) :
    Bool :=
  (Path.resolve (Path.parse (schema.identityOf r.target)) foreign).any
    (refersTo r.cardinality reference)

/-- The documents that a field of a document refers to, in the order of their collection. -/
def referred (schema : Schema) (s : Store) (r : Relationship) (field : String) (doc : Document) :
    List Value :=
  (s.documents (schema.collectionOf r.target)).filter (pointsTo schema r (doc.get? field))

/-- The rows of one document: one for each document that is found, or one without the field, if one
is referred to; one with the list of all that are found, if many are. -/
def joinParent (schema : Schema) (s : Store) (r : Relationship) (field : String) (doc : Document) :
    List Document :=
  match r.cardinality with
  | .one =>
    match referred schema s r field doc with
    | [] => [doc.erase field]
    | found => found.map (doc.insert field)
  | .many => [doc.insert field (.array (referred schema s r field doc))]

/-- What stands for the found documents: the first of them, if one is referred to, which may be
missing; the list of them, if many are. -/
def foundValue : Cardinality → List Value → Option Value
  | .one, found => found.head?
  | .many, found => some (.array found)

/-- Puts the found documents in the place of a reference, unless none stands for them. -/
def putFound (cardinality : Cardinality) (field : String) (found : List Value) (doc : Document) :
    Document :=
  match foundValue cardinality found with
  | some v => doc.insert field v
  | none => doc

/-- Joins one of the joined documents further. -/
def joinChild (schema : Schema) (s : Store) (r : Relationship) (child : String)
    (parent : Document) : Document :=
  putFound r.cardinality child (referred schema s r child parent) parent

/-- Joins the document or the documents under a field further. -/
def joinUnder (schema : Schema) (s : Store) (r : Relationship) (parent child : String)
    (row : Document) : Document :=
  match row.get? parent with
  | some (.object fields) => row.insert parent (.object (joinChild schema s r child fields))
  | some (.array items) =>
    row.insert parent (.array (items.map (Value.mapFields (joinChild schema s r child))))
  | _ => row

/-- The rows of one document for a path of one or two references. -/
def joinRows (schema : Schema) (s : Store) (entity : String) (path : Path) (doc : Document) :
    List Document :=
  match path with
  | [parent] =>
    match schema.resolve entity parent with
    | .relationship r => joinParent schema s r parent doc
    | _ => []
  | [parent, child] =>
    match schema.resolve entity parent with
    | .relationship r =>
      match schema.resolve r.target child with
      | .relationship t =>
        (joinParent schema s r parent doc).map (joinUnder schema s t parent child)
      | _ => []
    | _ => []
  | _ => []

/-! ## What is asked of documents -/

/-- The document has an identity, neither null nor an array. -/
def HasIdentity (identity : String) (doc : Value) : Prop :=
  ∃ id, Path.resolve (Path.parse identity) doc = some id ∧ id.isNull = false ∧ id.items? = none

/-- A reference to one document is no array; one to many is an array, null, or missing. -/
def WellShaped : Cardinality → Option Value → Prop
  | .one, reference => ∀ items, reference ≠ some (.array items)
  | .many, reference =>
    reference = none ∨ reference = some .null ∨ ∃ items, reference = some (.array items)

/-- A document whose reference has the right shape. -/
def Refers (t : Relationship) (child : String) (item : Value) : Prop :=
  ∃ fields : Document, item = .object fields ∧ fields.DistinctKeys ∧
    WellShaped t.cardinality (fields.get? child)

/-- The references of a document of the entity have the shape of the schema. -/
def WellReferring (schema : Schema) (entity : String) (doc : Document) : Prop :=
  ∀ field r, schema.resolve entity field = .relationship r →
    WellShaped r.cardinality (doc.get? field)

/-- Stored documents have identities where they are referred to, and their references have the shape
of the schema. -/
structure Conforms (schema : Schema) (s : Store) : Prop where
  identities : ∀ entity field r, schema.resolve entity field = .relationship r →
    ∀ doc ∈ s.documents (schema.collectionOf r.target), HasIdentity (schema.identityOf r.target) doc
  references : ∀ entity, ∀ doc ∈ s.documents (schema.collectionOf entity), ∀ fields,
    doc = .object fields → WellReferring schema entity fields

end DocQuery.Join
