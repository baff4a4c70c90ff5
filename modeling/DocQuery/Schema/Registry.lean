import DocQuery.FieldMap
import DocQuery.Schema.Basic

/-!
# Registries

A registry is a schema written down: entities with their fields. An entity or field declared again
replaces the earlier one.
-/

namespace DocQuery

/-- A declared field: plain, or a reference. -/
inductive FieldKind where
  | plain
  | reference (r : Relationship)
  deriving Repr, DecidableEq

/-- A declared entity. -/
structure Entity where
  name : String
  collection : Option String := none
  identity : String := defaultIdentity
  fields : FieldMap FieldKind := []
  deriving Repr, DecidableEq

namespace Entity

/-- Declares a field. -/
def declare (e : Entity) (field : String) (kind : FieldKind) : Entity :=
  { e with fields := e.fields.insert field kind }

/-- Declares a plain field. -/
def field (e : Entity) (name : String) : Entity := e.declare name .plain

/-- Declares a reference to one document. -/
def one (e : Entity) (name target : String) : Entity := e.declare name (.reference ⟨target, .one⟩)

/-- Declares a reference to many documents. -/
def many (e : Entity) (name target : String) : Entity := e.declare name (.reference ⟨target, .many⟩)

end Entity

/-- The declared entities by name. -/
structure Registry where
  entities : FieldMap Entity := []
  deriving Repr, DecidableEq

namespace Registry

/-- Declares an entity. -/
def declare (r : Registry) (e : Entity) : Registry := ⟨r.entities.insert e.name e⟩

/-- Whether the entity is declared. -/
def contains (r : Registry) (entity : String) : Bool := r.entities.hasKey entity

/-- What is declared of a field. -/
def resolve (r : Registry) (entity field : String) : Resolution :=
  match (r.entities.get? entity).bind (FieldMap.get? ·.fields field) with
  | none => .unknown
  | some .plain => .plain
  | some (.reference relationship) => .relationship relationship

/-- The collection of an entity. -/
def collectionOf (r : Registry) (entity : String) : String :=
  ((r.entities.get? entity).bind Entity.collection).getD (defaultCollection entity)

/-- The field that identifies the documents of an entity. -/
def identityOf (r : Registry) (entity : String) : String :=
  ((r.entities.get? entity).map Entity.identity).getD defaultIdentity

/-- The registry as a schema. -/
def toSchema (r : Registry) : Schema := ⟨r.resolve, r.collectionOf, r.identityOf⟩

/-- The schema that takes only the references from the registry and names collections and identities
by default. -/
def referencesOnly (r : Registry) : Schema := { resolve := r.resolve }

end Registry

end DocQuery
