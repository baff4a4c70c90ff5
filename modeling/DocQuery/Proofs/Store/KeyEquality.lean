import DocQuery.Filter.RegexEngine
import DocQuery.Proofs.Filter.Conditions
import DocQuery.Proofs.Path.Readings
import DocQuery.Proofs.Store.Documents
import DocQuery.Proofs.Value.Order

/-!
# Equality of keys in joins and filters

A join opens the arrays of both documents and puts null where it finds nothing; a condition looks at
what the field holds and takes null to equal nothing. On a field that holds no array the two agree
key by key (`holdsOfValue_toList`), so a lookup finds what a filter on the foreign field for one of
the keys keeps (`lookup_eq_filter`).
-/

namespace DocQuery.Store

open DocQuery.Path (Undotted candidates parse)

/-! ## One key -/

/-- A field that holds at most one value equals a key as the key of a join would: null for
nothing. -/
theorem holdsOfValue_toList [Filter.Engine] (found : Option Value) {key : Value}
    (hkey : Pattern.ofValue? key = none) :
    Filter.holdsOfValue found.toList key = .ok (key.same (found.getD .null)) := by
  rw [Filter.holdsOfValue, hkey]
  cases found with
  | none =>
      rw [Option.getD_none, Value.same_null]
      cases key.isNull <;> rfl
  | some v =>
      rw [Option.getD_some, Value.same_comm]
      cases key with
      | null => cases v <;> rfl
      | _ => simp [Value.isNull]

theorem shareKey_singleton (keys : List Value) (other : Value) :
    shareKey keys [other] = keys.any fun key => key.same other := by
  rw [shareKey, List.any_cons, List.any_nil, Bool.or_false]

/-! ## The foreign field -/

section Foreign

variable {field : String} {doc : Document} (harray : (doc.get? field).bind Value.items? = none)

include harray

theorem joinKeys_field : joinKeys [field] (.object doc) = [(doc.get? field).getD .null] := by
  rw [joinKeys, Path.flatten_field]
  cases hget : doc.get? field with
  | none => rfl
  | some v =>
      rw [hget] at harray
      rw [Option.map_some, Option.getD_some, Path.opened_of_not_array harray, Option.getD_some]

theorem candidates_field_toList : candidates [field] (.object doc) = (doc.get? field).toList := by
  rw [Path.candidates_field]
  cases hget : doc.get? field with
  | none => rfl
  | some v =>
      rw [hget] at harray
      exact Path.withItems_of_not_array harray

/-- A document satisfies the condition to hold one of the keys when it shares one. -/
theorem holds_in [Filter.Engine] (hfield : Undotted field)
    (hdollar : startsWithDollar field = false) {keys : List Value}
    (hkeys : ∀ key ∈ keys, Pattern.ofValue? key = none) :
    Filter.holds (.object doc) [(field, .object [("$in", .array keys)])]
      = .ok (shareKey keys (joinKeys (parse field) (.object doc))) := by
  rw [Filter.holds_field hdollar, Filter.holdsOfCondition_in, Path.parse_of_undotted hfield,
    joinKeys_field harray, candidates_field_toList harray, shareKey_singleton]
  exact Filter.holdsOfAny_of_ok fun key hkey => holdsOfValue_toList _ (hkeys key hkey)

end Foreign

/-! ## Lookups as filters -/

/-- **Joins and filters agree on key equality.** What a lookup puts into a document are the rows of
the foreign collection, in order, that a filter keeps for one of the keys of the document, null
standing for a missing value on both sides. The foreign field must hold no array, which the join
alone opens, and the keys no patterns, which the filter alone matches. -/
theorem lookup_eq_filter [Filter.Engine] {s : Store} (hs : s.HoldsObjects) {join : Lookup}
    (hfield : Undotted join.foreignField) (hdollar : startsWithDollar join.foreignField = false)
    (harrays : ∀ foreign : Document, .object foreign ∈ s.documents join.collection →
      (foreign.get? join.foreignField).bind Value.items? = none)
    {doc : Document}
    (hkeys : ∀ key ∈ joinKeys (parse join.localField) (.object doc), Pattern.ofValue? key = none) :
    ∃ rows : List Document,
      s.run join.collection [.filter [(join.foreignField, .object [("$in",
        .array (joinKeys (parse join.localField) (.object doc)))])]] = .ok rows ∧
      s.lookup join (.object doc)
        = .object (Path.set (parse join.into) (.array (rows.map .object)) doc) ∧
      Path.resolve (parse join.into) (s.lookup join (.object doc))
        = some (.array (rows.map .object)) := by
  have hfilter : filter [(join.foreignField, .object [("$in",
        .array (joinKeys (parse join.localField) (.object doc)))])] (s.documents join.collection)
      = .ok (s.joined join (.object doc)) := by
    rw [joined]
    refine filterItems_of_ok fun foreign hforeign => ?_
    obtain ⟨fields, rfl⟩ := Value.isObject_iff.mp (hs.isObject hforeign)
    exact holds_in (harrays fields hforeign) hfield hdollar hkeys
  have hobjects : s.joined join (.object doc)
      = ((s.joined join (.object doc)).filterMap Value.fields?).map Value.object :=
    Value.eq_map_object fun foreign hforeign => hs.isObject (List.mem_filter.mp hforeign).1
  have hlookup : s.lookup join (.object doc) = .object (Path.set (parse join.into)
      (.array (((s.joined join (.object doc)).filterMap Value.fields?).map Value.object)) doc) := by
    rw [← hobjects]
    rfl
  refine ⟨_, run_of_apply ?_, hlookup, ?_⟩
  · rw [apply_singleton, applyStage, hfilter]
  · rw [hlookup, Path.resolve_set (Path.parse_ne_nil _)]

/-- Users with an identity, without one, and with one that is null. -/
def identifiedUsers : Store :=
  ⟨[("users", [.object [("_id", .string "u")], .object [("name", .string "Ada")],
    .object [("_id", .null)]])]⟩

/-- The lookup of the authors of a post. -/
def authorLookup : Lookup := ⟨"users", "author", "_id", "author"⟩

attribute [local instance] Filter.regexEngine

theorem lookup_eq_filter_identifiedUsers :
    ∃ rows : List Document,
      identifiedUsers.run "users" [.filter [("_id", .object [("$in", .array [.null])])]]
        = .ok rows ∧
      identifiedUsers.lookup authorLookup (.object [("title", .string "Draft")])
        = .object [("title", .string "Draft"), ("author", .array (rows.map .object))] ∧
      rows = [[("name", .string "Ada")], [("_id", .null)]] := by
  have hkeys : joinKeys (parse "author") (.object [("title", .string "Draft")]) = [.null] := by
    rw [Path.parse_of_undotted (by decide)]
    rfl
  have hitems : ∀ foreign ∈ identifiedUsers.documents "users",
      (foreign.fields?.bind (FieldMap.get? · "_id")).bind Value.items? = none := by decide
  have harrays : ∀ foreign : Document, .object foreign ∈ identifiedUsers.documents "users" →
      (foreign.get? "_id").bind Value.items? = none :=
    fun foreign hforeign => hitems (.object foreign) hforeign
  have hpatterns : ∀ key ∈ joinKeys (parse authorLookup.localField)
      (.object [("title", .string "Draft")]), Pattern.ofValue? key = none := by
    intro key hkey
    rw [authorLookup, hkeys] at hkey
    obtain rfl := List.mem_singleton.mp hkey
    rfl
  have hs : identifiedUsers.HoldsObjects := by decide
  obtain ⟨rows, hrows, hrow, -⟩ := lookup_eq_filter hs (by decide) rfl harrays hpatterns
  rw [authorLookup, hkeys] at hrows
  refine ⟨rows, hrows, ?_, (Except.ok.inj hrows).symm⟩
  rw [hrow, authorLookup, Path.parse_of_undotted (by decide)]
  rfl

end DocQuery.Store
