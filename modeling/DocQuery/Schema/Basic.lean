import DocQuery.Text.SnakeCase

/-!
# Schemas

A schema says where the documents of an entity are, which field identifies them, and to which entity
a field refers. A query asks it these three questions and nothing else. Unless a schema says
otherwise, a collection is named after its entity, in snake case and in the plural, and documents
are identified by `_id`.
-/

namespace DocQuery

/-- Whether a field refers to one document or to many. -/
inductive Cardinality where
  | one
  | many
  deriving Repr, DecidableEq

/-- A reference of a field to the documents of an entity. -/
structure Relationship where
  target : String
  cardinality : Cardinality
  deriving Repr, DecidableEq

/-- What a schema knows about a field. -/
inductive Resolution where
  | relationship (r : Relationship)
  | unknown
  | plain
  deriving Repr, DecidableEq

/-- Whether a word ends in the given letters. -/
def endsIn (ending word : String) : Bool := ending.toList.isSuffixOf word.toList

/-- The plural of a word: `y` behind a consonant becomes `ies`, a sibilant takes `es`. -/
def plural (word : String) : String :=
  match word.toList.reverse with
  | 'y' :: before :: stem =>
    if ['a', 'e', 'i', 'o', 'u'].contains before then word ++ "s"
    else String.ofList (before :: stem).reverse ++ "ies"
  | _ => if ["s", "x", "ch", "sh"].any (endsIn · word) then word ++ "es" else word ++ "s"

/-- The collection of an entity that names none: `Category` is kept in `categories`. -/
def defaultCollection (entity : String) : String := plural (Text.snakeCase entity)

/-- The field that identifies documents by default. -/
def defaultIdentity : String := "_id"

/-- What a query asks about entities. -/
structure Schema where
  resolve : (entity field : String) → Resolution
  collectionOf : (entity : String) → String := defaultCollection
  identityOf : (entity : String) → String := fun _ => defaultIdentity

end DocQuery
