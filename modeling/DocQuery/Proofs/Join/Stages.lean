import DocQuery.Proofs.Join.NestedLoop
import DocQuery.Proofs.Path.Readings
import DocQuery.Proofs.Value.Order

/-!
# What the stages of a join find

A lookup compares the keys of two documents. Documents with an identity have one key, so a lookup is
a walk over their collection that asks whether one of the values at the local path is the identity
(`joined_eq_filter`). The null key of a document without any value asks for nothing, for no identity
is null. Along the reference of a document, opened or not, these are the documents it refers to
(`joined_direct`), and along a path of two names the documents that the joined ones refer to, all at
once (`joined_object`, `filter_joined_items`).
-/

namespace DocQuery.Join

open DocQuery.Path

/-! ## Keys -/

/-- The key of a document without values is null, which no identity is. -/
theorem any_joinKeys {path : Path} {doc id : Value} (hid : id.isNull = false) :
    (Store.joinKeys path doc).any (fun key => key.same id)
      = (flatten path doc).any fun key => key.same id := by
  rw [Store.joinKeys]
  cases flatten path doc with
  | nil => rw [List.any_cons, Value.null_same, hid]; rfl
  | cons key rest => rfl

theorem joinKeys_of_identity {path : Path} {doc id : Value} (h : resolve path doc = some id)
    (hid : id.items? = none) : Store.joinKeys path doc = [id] := by
  rw [Store.joinKeys, flatten_of_resolve h hid]

/-- A lookup keeps what has its identity among the values at the local path. -/
theorem joined_eq_filter {s : Store} {l : Lookup}
    (hids : ∀ foreign ∈ s.documents l.collection, HasIdentity l.foreignField foreign)
    (doc : Value) :
    s.joined l doc = (s.documents l.collection).filter fun foreign =>
      (resolve (parse l.foreignField) foreign).any fun id =>
        (flatten (parse l.localField) doc).any fun key => key.same id := by
  refine List.filter_congr fun foreign hforeign => ?_
  obtain ⟨id, hresolve, hnull, hitems⟩ := hids foreign hforeign
  rw [Store.shareKey, joinKeys_of_identity hresolve hitems, List.any_cons, List.any_nil,
    Bool.or_false, any_joinKeys hnull, hresolve]
  rfl

/-! ## References -/

/-- A reference of the right shape names an identity when one of its opened values is the same. -/
theorem any_opened_eq_refersTo {cardinality : Cardinality} {reference : Option Value} {id : Value}
    (hshape : WellShaped cardinality reference) (hid : id.isNull = false) :
    (((reference.map opened).getD []).any fun key => key.same id)
      = refersTo cardinality reference id := by
  cases cardinality with
  | one =>
      cases reference with
      | none => rfl
      | some v =>
          have hv : v.items? = none := by
            cases v with
            | array items => exact absurd rfl (hshape items)
            | _ => rfl
          rw [Option.map_some, Option.getD_some, opened_of_not_array hv, List.any_cons,
            List.any_nil, Bool.or_false, refersTo]
  | many =>
      rcases hshape with rfl | rfl | ⟨items, rfl⟩
      · rfl
      · rw [Option.map_some, Option.getD_some, opened, List.any_cons, Value.null_same, hid]
        · rfl
        · intro items hitems
          cases hitems
      · rfl

variable {schema : Schema} {s : Store}

/-- Looking up a reference finds what it refers to. -/
theorem joined_direct {r : Relationship} {field into : String} {doc : Document}
    (hfield : Undotted field)
    (hids : ∀ foreign ∈ s.documents (schema.collectionOf r.target),
      HasIdentity (schema.identityOf r.target) foreign)
    (hshape : WellShaped r.cardinality (doc.get? field)) :
    s.joined ⟨schema.collectionOf r.target, field, schema.identityOf r.target, into⟩ (.object doc)
      = referred schema s r field doc := by
  rw [joined_eq_filter hids]
  refine List.filter_congr fun foreign hforeign => ?_
  obtain ⟨id, hresolve, hnull, -⟩ := hids foreign hforeign
  simp only [pointsTo, hresolve, Option.any_some, parse_of_undotted hfield, flatten_field]
  exact any_opened_eq_refersTo hshape hnull

/-! ## The parent -/

@[simp] theorem field_preserving (field : String) : (Unwind.preserving field).field = field := by
  have hpath : ("$" ++ field).toList = '$' :: field.toList := by simp [String.toList_append]
  simp only [Unwind.field, Unwind.preserving, hpath, String.ofList_toList]

theorem unwind_found {field : String} (hfield : Undotted field) (doc : Document)
    (found : List Value) :
    Store.unwind (.preserving field) (.object (doc.insert field (.array found)))
      = match found with
        | [] => [.object (doc.erase field)]
        | found => found.map fun item => .object (doc.insert field item) := by
  have hresolve : resolve [field] (.object (doc.insert field (.array found)))
      = some (.array found) := by
    rw [resolve, readField_object, FieldMap.get?_insert_self]
    rfl
  simp only [Store.unwind, field_preserving, parse_of_undotted hfield, hresolve]
  cases found with
  | nil => simp [Unwind.preserving, Value.isObject, Value.mapFields, remove]
  | cons first rest => simp [Value.mapFields, Path.set]

/-- The lookup of a reference into its own field. -/
def directLookup (schema : Schema) (field : String) (r : Relationship) : Lookup :=
  ⟨schema.collectionOf r.target, field, schema.identityOf r.target, field⟩

/-- The rows that found documents make of a document: one for each of them, or one without the
field, if one is referred to; one with the list of them, if many are. -/
def placeFound : Cardinality → String → List Value → Document → List Document
  | .one, field, [], doc => [doc.erase field]
  | .one, field, found, doc => found.map (doc.insert field)
  | .many, field, found, doc => [doc.insert field (.array found)]

/-- The rows of one document behind the stages of a reference. -/
def directRows (schema : Schema) (s : Store) (field : String) (r : Relationship) (doc : Document) :
    List Document :=
  placeFound r.cardinality field (s.joined (directLookup schema field r) (.object doc)) doc

theorem apply_directStages_rows [Filter.Engine] {r : Relationship} {field : String}
    (hfield : Undotted field) (docs : List Document) :
    s.apply (directStages schema field r) (docs.map Value.object)
      = .ok ((docs.flatMap (directRows schema s field r)).map Value.object) := by
  have hlookup : (docs.map Value.object).map (s.lookup (directLookup schema field r))
      = docs.map fun doc =>
          .object (doc.insert field
            (.array (s.joined (directLookup schema field r) (.object doc)))) := by
    rw [List.map_map]
    refine List.map_congr_left fun doc _ => ?_
    simp only [Function.comp_apply, Store.lookup, Value.mapFields, directLookup,
      parse_of_undotted hfield, Path.set]
  rw [directStages, ← directLookup, Store.apply_cons, Store.applyStage, ok_bind, hlookup]
  cases hcard : r.cardinality with
  | one =>
      rw [Store.apply_singleton, Store.applyStage, List.flatMap_map, List.map_flatMap]
      refine congrArg Except.ok (List.flatMap_congr fun doc _ => ?_)
      rw [unwind_found hfield, directRows, hcard]
      cases s.joined (directLookup schema field r) (.object doc) with
      | nil => rfl
      | cons first rest => exact (List.map_map ..).symm
  | many =>
      have hrows : directRows schema s field r = fun doc =>
          [doc.insert field (.array (s.joined (directLookup schema field r) (.object doc)))] := by
        funext doc
        rw [directRows, hcard, placeFound]
      rw [Store.apply, hrows, ← List.map_eq_flatMap, List.map_map]
      rfl

theorem directRows_eq_joinParent {r : Relationship} {field : String} {doc : Document}
    (hfield : Undotted field)
    (hids : ∀ foreign ∈ s.documents (schema.collectionOf r.target),
      HasIdentity (schema.identityOf r.target) foreign)
    (hshape : WellShaped r.cardinality (doc.get? field)) :
    directRows schema s field r doc = joinParent schema s r field doc := by
  rw [directRows, directLookup, joined_direct hfield hids hshape, joinParent]
  cases r.cardinality with
  | one => cases referred schema s r field doc <;> rfl
  | many => rfl

/-- The stages of the parent run the outer loop. -/
theorem apply_directStages [Filter.Engine] {r : Relationship} {field : String}
    (hfield : Undotted field) {docs : List Document}
    (hids : ∀ foreign ∈ s.documents (schema.collectionOf r.target),
      HasIdentity (schema.identityOf r.target) foreign)
    (hdocs : ∀ doc ∈ docs, WellShaped r.cardinality (doc.get? field)) :
    s.apply (directStages schema field r) (docs.map Value.object)
      = .ok ((docs.flatMap (joinParent schema s r field)).map Value.object) := by
  have hrows : docs.flatMap (directRows schema s field r)
      = docs.flatMap (joinParent schema s r field) :=
    List.flatMap_congr fun doc hdoc => directRows_eq_joinParent hfield hids (hdocs doc hdoc)
  rw [apply_directStages_rows hfield, hrows]

/-! ## The child -/

section Child

variable {t : Relationship} {parent child into : String} {row : Document}

theorem joined_object (hparent : Undotted parent) (hchild : Undotted child)
    (hids : ∀ foreign ∈ s.documents (schema.collectionOf t.target),
      HasIdentity (schema.identityOf t.target) foreign)
    {fields : Document} (hget : row.get? parent = some (.object fields))
    (hshape : WellShaped t.cardinality (fields.get? child)) :
    s.joined ⟨schema.collectionOf t.target, parent ++ "." ++ child,
      schema.identityOf t.target, into⟩
        (.object row)
      = referred schema s t child fields := by
  have hflatten : flatten [parent, child] (.object row) = flatten [child] (.object fields) := by
    rw [flatten, gatherField_object, hget]
    rfl
  rw [joined_eq_filter hids]
  refine List.filter_congr fun foreign hforeign => ?_
  obtain ⟨id, hresolve, hnull, -⟩ := hids foreign hforeign
  simp only [pointsTo, hresolve, Option.any_some, parse_childPath hparent hchild, hflatten,
    flatten_field]
  exact any_opened_eq_refersTo hshape hnull

/-- What one item refers to is among what all of them refer to. -/
theorem filter_joined_items (hparent : Undotted parent) (hchild : Undotted child)
    (hids : ∀ foreign ∈ s.documents (schema.collectionOf t.target),
      HasIdentity (schema.identityOf t.target) foreign)
    {items : List Value} (hget : row.get? parent = some (.array items)) {fields : Document}
    (hitem : .object fields ∈ items) (hshape : WellShaped t.cardinality (fields.get? child)) :
    (s.joined ⟨schema.collectionOf t.target, parent ++ "." ++ child,
      schema.identityOf t.target, into⟩
        (.object row)).filter (pointsTo schema t (fields.get? child))
      = referred schema s t child fields := by
  have hflatten : flatten [parent, child] (.object row) = items.flatMap (flatten [child]) := by
    rw [flatten, gatherField_object, hget]
    exact gatherField_array child (flatten []) items
  rw [joined_eq_filter hids, List.filter_filter, referred]
  refine List.filter_congr fun foreign hforeign => ?_
  obtain ⟨id, hresolve, hnull, -⟩ := hids foreign hforeign
  simp only [pointsTo, hresolve, Option.any_some, parse_childPath hparent hchild, hflatten]
  rw [← any_opened_eq_refersTo hshape hnull, ← flatten_field, Bool.and_eq_left_iff_imp]
  intro hany
  obtain ⟨key, hkey, hsame⟩ := List.any_eq_true.mp hany
  exact List.any_eq_true.mpr ⟨key, List.mem_flatMap.mpr ⟨_, hitem, hkey⟩, hsame⟩

end Child

end DocQuery.Join
