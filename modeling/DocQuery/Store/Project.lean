import DocQuery.Path.Write
import DocQuery.Stage.Basic
import DocQuery.Store.Error

/-!
# Projecting documents

A projection that includes a field other than `_id` copies the included paths, in the order of the
document's own fields, and `_id` unless it is excluded. Any other projection removes every field it
names. The two cannot be mixed.
-/

namespace DocQuery.Store

/-- The field that identifies a document. -/
def idField : String := "_id"

/-- Whether the projection includes a field other than `_id`. -/
def isInclusion (flags : FieldMap Inclusion) : Bool :=
  flags.any fun entry => entry.1 != idField && entry.2 == .included

/-- The first field other than `_id` that is excluded. -/
def firstExcluded? (flags : FieldMap Inclusion) : Option String :=
  (flags.find? fun entry => entry.1 != idField && entry.2 == .excluded).map Prod.fst

/-- Copies what the projection keeps of one field of the document. -/
def includeField (flags : FieldMap Inclusion) (doc : Document) (kept : Document) (key : String) :
    Document :=
  if key = idField then
    if flags.get? idField = some .excluded then kept else Path.copy [key] doc kept
  else
    flags.foldl (fun kept entry =>
      if Path.head entry.1 = key ∧ entry.1 ≠ idField then Path.copy (Path.parse entry.1) doc kept
      else kept) kept

/-- The included paths of a document. -/
def includeFields (flags : FieldMap Inclusion) (doc : Document) : Document :=
  doc.keys.foldl (includeField flags doc) []

/-- The document without the fields that the projection names. -/
def excludeFields (flags : FieldMap Inclusion) (doc : Document) : Document :=
  flags.foldl (fun kept entry => Path.remove (Path.parse entry.1) kept) doc

/-- Projects documents. -/
def project (flags : FieldMap Inclusion) (docs : List Value) : Except StoreError (List Value) :=
  if isInclusion flags then
    match firstExcluded? flags with
    | some field => .error (.mixedProjection field)
    | none => .ok (docs.map (Value.mapFields (includeFields flags)))
  else .ok (docs.map (Value.mapFields (excludeFields flags)))

end DocQuery.Store
