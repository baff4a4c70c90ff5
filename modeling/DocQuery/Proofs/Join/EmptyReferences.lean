import DocQuery.Filter.RegexEngine
import DocQuery.Query.Run
import DocQuery.Proofs.Join.History
import DocQuery.Proofs.Join.Stages

/-!
# Empty lists of references

To a lookup, an empty list of references is a field without a value: the key of both is null. So it
finds the foreign documents that have no identity, or null for one (`joined_of_no_keys`), and the
list stays empty just when there are none of these (`empty_references_stay_empty_iff`).
-/

namespace DocQuery.Join

open DocQuery.Path

/-- The document holds nothing in the place of an identity, or null among what it holds. -/
def lacksIdentity (identity : String) (foreign : Value) : Bool :=
  (flatten (parse identity) foreign).isEmpty || (flatten (parse identity) foreign).any Value.isNull

theorem shareKey_null (identity : String) (foreign : Value) :
    Store.shareKey [.null] (Store.joinKeys (parse identity) foreign)
      = lacksIdentity identity foreign := by
  have hnull (keys : List Value) : Store.shareKey [.null] keys = keys.any Value.isNull := by
    simp only [Store.shareKey, List.any_cons, List.any_nil, Bool.or_false, Value.null_same]
  rw [hnull, lacksIdentity, Store.joinKeys]
  cases flatten (parse identity) foreign <;> rfl

variable {schema : Schema} {s : Store}

/-- Without a value to look up, a lookup finds what lacks an identity. -/
theorem joined_of_no_keys {l : Lookup} {doc : Value} (h : flatten (parse l.localField) doc = []) :
    s.joined l doc = (s.documents l.collection).filter (lacksIdentity l.foreignField) := by
  have hkeys : Store.joinKeys (parse l.localField) doc = [.null] := by
    rw [Store.joinKeys, h]
  rw [Store.joined, hkeys]
  exact List.filter_congr fun foreign _ => shareKey_null l.foreignField foreign

/-! ## Joining one reference -/

/-- The row of a document that refers to many documents, but to none of them. -/
theorem directRows_of_empty {field : String} {r : Relationship} {doc : Document}
    (hfield : Undotted field) (hmany : r.cardinality = .many)
    (hempty : doc.get? field = some (.array [])) :
    directRows schema s field r doc
      = [doc.insert field (.array ((s.documents (schema.collectionOf r.target)).filter
          (lacksIdentity (schema.identityOf r.target))))] := by
  have hflat : flatten (parse (directLookup schema field r).localField) (.object doc) = [] := by
    rw [directLookup, parse_of_undotted hfield, flatten_field, hempty]
    rfl
  rw [directRows, hmany, placeFound, joined_of_no_keys hflat, directLookup]

section Direct

variable {entity field : String} {r : Relationship} {options : Options} {q : Query}
  (hfield : Undotted field) (hresolve : schema.resolve entity field = .relationship r)
  (hjoin : ({ entity, schema, options } : Query).join field = .ok q)

include hfield hresolve hjoin

theorem eq_of_join_direct :
    q.pipeline = directStages schema field r ∧ q.collection = schema.collectionOf entity := by
  obtain ⟨route, hroute, hjoins⟩ := join_of_fresh hjoin
  obtain rfl := Except.ok.inj (hjoin.symm.trans (hjoins _ rfl rfl rfl))
  have hpath := parse_of_undotted hfield
  cases hroute with
  | one hparse hr =>
      obtain rfl := List.singleton_inj.mp (hpath.symm.trans hparse)
      obtain rfl := Resolution.relationship.inj (hresolve.symm.trans hr)
      refine ⟨?_, collection_along ..⟩
      rw [along_of_new rfl, pipeline_of_joins]
      exact List.append_nil _
  | two hparse _ _ =>
      rw [hpath] at hparse
      cases hparse

theorem rows_of_join_direct [Filter.Engine] (hs : s.HoldsObjects) :
    ∃ docs : List Document, s.documents (schema.collectionOf entity) = docs.map Value.object ∧
      q.rows s.run = .ok (docs.flatMap (directRows schema s field r)) := by
  obtain ⟨hpipeline, hcollection⟩ := eq_of_join_direct hfield hresolve hjoin
  obtain ⟨docs, hdocs⟩ : ∃ docs : List Document,
      s.documents (schema.collectionOf entity) = docs.map Value.object :=
    ⟨_, Value.eq_map_object fun doc hdoc => hs.isObject hdoc⟩
  refine ⟨docs, hdocs, ?_⟩
  have happly : s.apply (directStages schema field r) (docs.map Value.object) = _ :=
    apply_directStages_rows hfield docs
  rw [← hdocs] at happly
  rw [Query.rows, hpipeline, hcollection, Store.run_of_apply happly,
    Value.filterMap_fields?_map_object]

end Direct

/-- **An empty list of references is joined like a missing one.** Behind the join of a reference to
many there is one row for every document. Where the reference was an empty list, the row has the
foreign documents that lack an identity, so the list is still empty just when there are none. -/
theorem empty_references_stay_empty_iff [Filter.Engine] (hs : s.HoldsObjects)
    {entity field : String} {r : Relationship} (hfield : Undotted field)
    (hresolve : schema.resolve entity field = .relationship r) (hmany : r.cardinality = .many)
    {options : Options} {q : Query}
    (hjoin : ({ entity, schema, options } : Query).join field = .ok q) :
    ∃ rows, q.rows s.run = .ok rows ∧
      List.Forall₂ (fun stored row => ∃ doc : Document, stored = .object doc ∧
        (doc.get? field = some (.array []) →
          row = doc.insert field (.array ((s.documents (schema.collectionOf r.target)).filter
            (lacksIdentity (schema.identityOf r.target)))) ∧
          (row.get? field = some (.array []) ↔
            ∀ foreign ∈ s.documents (schema.collectionOf r.target),
              lacksIdentity (schema.identityOf r.target) foreign = false)))
        (s.documents (schema.collectionOf entity)) rows := by
  obtain ⟨docs, hdocs, hrows⟩ := rows_of_join_direct hfield hresolve hjoin hs
  have hsingle : directRows schema s field r = fun doc =>
      [doc.insert field (.array (s.joined (directLookup schema field r) (.object doc)))] := by
    funext doc
    rw [directRows, hmany, placeFound]
  have hblocks := hsingle ▸ hrows
  rw [← List.map_eq_flatMap] at hblocks
  refine ⟨_, hblocks, ?_⟩
  rw [hdocs, List.forall₂_map_left_iff, List.forall₂_map_right_iff, List.forall₂_same]
  intro doc _
  refine ⟨doc, rfl, fun hempty => ?_⟩
  have hrow : directRows schema s field r doc = _ := directRows_of_empty hfield hmany hempty
  rw [hsingle] at hrow
  rw [List.singleton_inj.mp hrow, FieldMap.get?_insert_self, Option.some.injEq, Value.array.injEq,
    List.filter_eq_nil_iff]
  simp only [Bool.not_eq_true, true_and]

/-! ## A user without posts -/

/-- One user, who has no posts, and one post. -/
def unlinked (post : Document) : Store :=
  ⟨[("users", [.object [("posts", .array [])]]), ("posts", [.object post])]⟩

/-- The one row of a user with the given posts. -/
def ofPosts (posts : List Value) : Except StoreError (List Document) :=
  .ok [[("posts", .array posts)]]

theorem resolve_posts : blogSchema.resolve "User" "posts" = .relationship ⟨"Post", .many⟩ := rfl

attribute [local instance] Filter.regexEngine

theorem empty_references_stay_empty_iff_published :
    ∃ q, blogQuery.join "posts" = .ok q ∧
      q.rows (unlinked [("_id", .string "p")]).run = ofPosts [] := by
  obtain ⟨q, hq⟩ : ∃ q, blogQuery.join "posts" = .ok q := ⟨_, rfl⟩
  obtain ⟨rows, hrows, hforall⟩ := empty_references_stay_empty_iff
    (s := unlinked [("_id", .string "p")]) (by decide) (by decide) resolve_posts rfl hq
  have husers : (unlinked [("_id", .string "p")]).documents (blogSchema.collectionOf "User")
      = [.object [("posts", .array [])]] := rfl
  rw [husers] at hforall
  obtain ⟨row, rest, ⟨doc, hdoc, hrow⟩, hrest, rfl⟩ := List.forall₂_cons_left_iff.mp hforall
  obtain rfl := Value.object.inj hdoc
  obtain rfl := List.forall₂_nil_left_iff.mp hrest
  obtain ⟨rfl, -⟩ := hrow rfl
  have hfound : List.filter (lacksIdentity "_id") [.object [("_id", .string "p")]] = [] := by
    rw [List.filter_eq_nil_iff]
    decide +kernel
  exact ⟨q, hq, hrows.trans (congrArg ofPosts hfound)⟩

/-- A post without an identity joins a user who has no posts. -/
theorem empty_references_gain_draft :
    ∃ q, blogQuery.join "posts" = .ok q ∧ q.rows (unlinked [("title", .string "Draft")]).run
      = ofPosts [.object [("title", .string "Draft")]] := by
  obtain ⟨q, hq⟩ : ∃ q, blogQuery.join "posts" = .ok q := ⟨_, rfl⟩
  obtain ⟨docs, hdocs, hrows⟩ := rows_of_join_direct (s := unlinked [("title", .string "Draft")])
    (by decide) resolve_posts hq (by decide)
  obtain rfl : docs = [[("posts", .array [])]] :=
    List.map_injective_iff.mpr (fun _ _ => Value.object.inj) hdocs.symm
  rw [List.flatMap_singleton, directRows_of_empty (by decide) rfl rfl] at hrows
  have hfound : List.filter (lacksIdentity "_id") [.object [("title", .string "Draft")]]
      = [.object [("title", .string "Draft")]] := by
    rw [List.filter_eq_self]
    decide +kernel
  exact ⟨q, hq, hrows.trans (congrArg ofPosts hfound)⟩

end DocQuery.Join
