import DocQuery.Store.Error

/-!
# Stores

A store holds named collections of documents in the order in which they were inserted. Only objects
are stored; a collection that nothing was inserted into is empty.
-/

namespace DocQuery

/-- Collections by name. -/
structure Store where
  collections : FieldMap (List Value) := []
  deriving Repr, BEq

namespace Store

/-- The documents of a collection. -/
def documents (s : Store) (collection : String) : List Value :=
  (s.collections.get? collection).getD []

/-- Appends a document to a collection. -/
def insert (s : Store) (collection : String) (doc : Value) : Except StoreError Store :=
  if doc.isObject then .ok ⟨s.collections.insert collection (s.documents collection ++ [doc])⟩
  else .error (.notDocument collection doc)

/-- Appends documents up to the first that is none, and gives the refusal of that one. -/
def insertMany (s : Store) (collection : String) : List Value → Store × Option StoreError
  | [] => (s, none)
  | doc :: rest =>
    match s.insert collection doc with
    | .ok s => insertMany s collection rest
    | .error e => (s, some e)

/-- The store with all documents appended, if all of them are documents. -/
def withCollection (s : Store) (collection : String) (docs : List Value) :
    Except StoreError Store :=
  match s.insertMany collection docs with
  | (s, none) => .ok s
  | (_, some e) => .error e

end Store

end DocQuery
