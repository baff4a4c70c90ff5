import DocQuery.Proofs.Store.Updates
import Mathlib.Data.List.TakeWhile

/-!
# What insertions leave behind

An insertion of many values goes on up to the first that is no object. What it adds is the longest
prefix made of objects (`documents_insertMany`), and the error is that of the value behind it
(`insertMany_error`); the builder takes all of the values or gives nothing but the error
(`withCollection_eq_ok_iff`).

So what a call adds to a collection can be read off the call alone (`Update.added`). One call adds
that and touches no other collection (`documents_update`), and a sequence of calls, refused ones
among them, leaves in every collection what its calls added, in their order
(`documents_foldl_update`).
-/

namespace DocQuery.Store

section Refusals

variable {s s' : Store} {collection : String} {doc : Value} {docs : List Value} {e : StoreError}

/-! ## One document -/

theorem insert_of_isObject (s : Store) (collection : String) (h : doc.isObject = true) :
    s.insert collection doc
      = .ok ⟨s.collections.insert collection (s.documents collection ++ [doc])⟩ := if_pos h

theorem insert_of_not_isObject (s : Store) (collection : String) (h : doc.isObject = false) :
    s.insert collection doc = .error (.notDocument collection doc) := by
  rw [insert, h]
  rfl

theorem documents_insert (h : s.insert collection doc = .ok s') (name : String) :
    s'.documents name = s.documents name ++ if collection = name then [doc] else [] := by
  unfold insert at h
  split at h
  · obtain rfl := Except.ok.inj h
    simp only [documents, FieldMap.get?_insert]
    by_cases hname : collection = name
    · subst hname
      rw [if_pos rfl, if_pos rfl, Option.getD_some]
    · rw [if_neg hname, if_neg hname, List.append_nil]
  · cases h

/-! ## Many documents -/

theorem insertMany_of_isObject (s : Store) (collection : String) (h : doc.isObject = true)
    (rest : List Value) :
    s.insertMany collection (doc :: rest)
      = (⟨s.collections.insert collection (s.documents collection ++ [doc])⟩ : Store).insertMany
          collection rest := by
  rw [insertMany, insert_of_isObject s collection h]

theorem insertMany_of_not_isObject (s : Store) (collection : String) (h : doc.isObject = false)
    (rest : List Value) :
    s.insertMany collection (doc :: rest) = (s, some (.notDocument collection doc)) := by
  rw [insertMany, insert_of_not_isObject s collection h]

/-- An insertion of many adds the objects before the first value that is none, to its own collection
alone. -/
theorem documents_insertMany (s : Store) (collection : String) (docs : List Value) (name : String) :
    (s.insertMany collection docs).1.documents name
      = s.documents name ++ if collection = name then docs.takeWhile Value.isObject else [] := by
  induction docs generalizing s with
  | nil => simp [insertMany]
  | cons doc rest ih =>
      cases hdoc : doc.isObject with
      | false =>
          rw [insertMany_of_not_isObject s collection hdoc,
            List.takeWhile_cons_of_neg (by simp [hdoc]), ite_self, List.append_nil]
      | true =>
          have hone := documents_insert (insert_of_isObject s collection hdoc) name
          rw [insertMany_of_isObject s collection hdoc, ih, hone, List.takeWhile_cons_of_pos hdoc,
            List.append_assoc]
          split <;> rfl

/-- The error of an insertion of many is that of the first value that is no object. -/
theorem insertMany_error (s : Store) (collection : String) (docs : List Value) :
    (s.insertMany collection docs).2
      = (docs.find? fun doc => !doc.isObject).map (.notDocument collection) := by
  induction docs generalizing s with
  | nil => rfl
  | cons doc rest ih =>
      cases hdoc : doc.isObject with
      | false =>
          rw [insertMany_of_not_isObject s collection hdoc, List.find?_cons_of_pos (by simp [hdoc])]
          rfl
      | true =>
          rw [insertMany_of_isObject s collection hdoc, ih, List.find?_cons_of_neg (by simp [hdoc])]

theorem insertMany_error_eq_none_iff (s : Store) (collection : String) (docs : List Value) :
    (s.insertMany collection docs).2 = none ↔ ∀ doc ∈ docs, doc.isObject = true := by
  simp [insertMany_error]

theorem insertMany_error_eq_some_iff :
    (s.insertMany collection docs).2 = some e ↔ ∃ kept doc rest, docs = kept ++ doc :: rest ∧
      (∀ d ∈ kept, d.isObject = true) ∧ doc.isObject = false ∧ e = .notDocument collection doc := by
  rw [insertMany_error, Option.map_eq_some_iff]
  constructor
  · rintro ⟨doc, hfind, rfl⟩
    obtain ⟨hdoc, kept, rest, rfl, hkept⟩ := List.find?_eq_some_iff_append.mp hfind
    exact ⟨kept, doc, rest, rfl, by simpa using hkept, by simpa using hdoc, rfl⟩
  · rintro ⟨kept, doc, rest, rfl, hkept, hdoc, rfl⟩
    refine ⟨doc, List.find?_eq_some_iff_append.mpr ⟨by simp [hdoc], kept, rest, rfl, ?_⟩, rfl⟩
    simpa using hkept

theorem withCollection_eq_error_iff :
    s.withCollection collection docs = .error e ↔ (s.insertMany collection docs).2 = some e := by
  unfold withCollection
  split
  · rename_i hinsert
    simp [hinsert]
  · rename_i hinsert
    simp [hinsert]

/-- The builder gives the store of an insertion of many in which no value was refused. -/
theorem withCollection_eq_ok_iff :
    s.withCollection collection docs = .ok s' ↔
      (∀ doc ∈ docs, doc.isObject = true) ∧ s' = (s.insertMany collection docs).1 := by
  rw [← insertMany_error_eq_none_iff s collection docs]
  unfold withCollection
  split
  · rename_i hinsert
    simp [hinsert, eq_comm]
  · rename_i hinsert
    simp [hinsert]

end Refusals

/-! ## Sequences of calls -/

/-- The collection that a call adds to. -/
def Update.collection : Update → String
  | .insert collection _ => collection
  | .insertMany collection _ => collection
  | .withCollection collection _ => collection

/-- The documents that a call adds: all objects before a value that is none, but all or nothing if
the call gives a new store. -/
def Update.kept : Update → List Value
  | .insert _ doc => [doc].takeWhile Value.isObject
  | .insertMany _ docs => docs.takeWhile Value.isObject
  | .withCollection _ docs => if docs.all Value.isObject then docs else []

/-- What a call adds to a collection. -/
def Update.added (name : String) (call : Update) : List Value :=
  if call.collection = name then call.kept else []

/-- A call adds its documents to its collection and leaves the others alone. -/
theorem documents_update (s : Store) (call : Update) (name : String) :
    (s.update call).documents name = s.documents name ++ call.added name := by
  cases call with
  | insert collection doc =>
      cases hdoc : doc.isObject with
      | true =>
          have hinsert := insert_of_isObject s collection hdoc
          have hkept : Update.kept (.insert collection doc) = [doc] :=
            List.takeWhile_cons_of_pos hdoc
          rw [update, hinsert, Update.added, hkept]
          exact documents_insert hinsert name
      | false =>
          have hkept : Update.kept (.insert collection doc) = [] :=
            List.takeWhile_cons_of_neg (by simp [hdoc])
          rw [update, insert_of_not_isObject s collection hdoc, Update.added, hkept, ite_self,
            List.append_nil]
          rfl
  | insertMany collection docs => exact documents_insertMany s collection docs name
  | withCollection collection docs =>
      by_cases hall : ∀ doc ∈ docs, doc.isObject = true
      · have hwith := withCollection_eq_ok_iff.mpr
          ⟨hall, Eq.refl (s.insertMany collection docs).1⟩
        have hdocs := documents_insertMany s collection docs name
        rw [List.takeWhile_eq_self_iff.mpr hall] at hdocs
        rw [update, hwith, Update.added, Update.kept, if_pos (List.all_eq_true.mpr hall)]
        exact hdocs
      · obtain ⟨e, he⟩ := Option.ne_none_iff_exists'.mp
          (mt (insertMany_error_eq_none_iff s collection docs).mp hall)
        have hwith := withCollection_eq_error_iff.mpr he
        rw [update, hwith, Update.added, Update.kept, if_neg (mt List.all_eq_true.mp hall),
          ite_self, List.append_nil]
        rfl

theorem documents_foldl_update (s : Store) (calls : List Update) (name : String) :
    (calls.foldl update s).documents name
      = s.documents name ++ calls.flatMap (Update.added name) := by
  induction calls generalizing s with
  | nil => simp
  | cons call rest ih =>
      rw [List.foldl_cons, ih, documents_update, List.flatMap_cons, List.append_assoc]

/-- **Refused insertions lose and leak nothing.** An insertion of many adds to its collection the
longest prefix made of objects and to no other collection anything. It fails if and only if some
value is no object, and names the collection and the first such value; then, and with the same
error, so does the builder, which otherwise gives the same store. After any calls a collection holds
what each of them added, in their order. -/
theorem insertions_lose_nothing (s : Store) (collection : String) (docs : List Value) :
    (s.insertMany collection docs).1.documents collection
        = s.documents collection ++ docs.takeWhile Value.isObject ∧
    (∀ other, collection ≠ other →
      (s.insertMany collection docs).1.documents other = s.documents other) ∧
    ((s.insertMany collection docs).2 = none ↔ ∀ doc ∈ docs, doc.isObject = true) ∧
    (∀ e, (s.insertMany collection docs).2 = some e ↔ ∃ kept doc rest, docs = kept ++ doc :: rest ∧
      (∀ d ∈ kept, d.isObject = true) ∧ doc.isObject = false ∧ e = .notDocument collection doc) ∧
    (∀ s', s.withCollection collection docs = .ok s' ↔
      (∀ doc ∈ docs, doc.isObject = true) ∧ s' = (s.insertMany collection docs).1) ∧
    (∀ e, s.withCollection collection docs = .error e ↔ (s.insertMany collection docs).2 = some e) ∧
    ∀ calls name, (ofUpdates calls).documents name = calls.flatMap (Update.added name) := by
  refine ⟨?_, fun other hother => ?_, insertMany_error_eq_none_iff s collection docs,
    fun _ => insertMany_error_eq_some_iff,
    fun _ => withCollection_eq_ok_iff, fun _ => withCollection_eq_error_iff, ?_⟩
  · rw [documents_insertMany, if_pos rfl]
  · rw [documents_insertMany, if_neg hother, List.append_nil]
  · exact documents_foldl_update {}

/-- A post that is not finished. -/
def draftPost : Value := .object [("title", .string "Draft")]

/-- Values of which the second is no document. -/
def mixedBatch : List Value := [draftPost, .null, .object []]

/-- Calls to two collections, every second of them refused. -/
def interleavedCalls : List Update :=
  [.insertMany "users" [.object [("name", .string "Ada")]], .insertMany "posts" mixedBatch,
    .insert "posts" (.object [("title", .string "Final")]), .insert "users" .null,
    .withCollection "users" [.object [("name", .string "Alan")]],
    .withCollection "posts" mixedBatch]

theorem insertions_lose_nothing_interleaved :
    let s := ofUpdates interleavedCalls
    "posts" ≠ "users" ∧
    s.documents "posts" = [draftPost, .object [("title", .string "Final")]] ∧
    s.documents "users" = [.object [("name", .string "Ada")], .object [("name", .string "Alan")]] ∧
    (s.insertMany "posts" mixedBatch).1.documents "posts" = s.documents "posts" ++ [draftPost] ∧
    (s.insertMany "posts" mixedBatch).1.documents "users" = s.documents "users" ∧
    (s.insertMany "posts" mixedBatch).2 = some (.notDocument "posts" .null) ∧
    s.withCollection "posts" mixedBatch = .error (.notDocument "posts" .null) := by
  intro s
  have hname : "posts" ≠ "users" := by decide
  obtain ⟨hkept, hothers, -, hrefused, -, herror, hcalls⟩ :=
    insertions_lose_nothing s "posts" mixedBatch
  have hnamed := (hrefused _).mpr ⟨[draftPost], .null, [.object []], rfl, by decide, rfl, rfl⟩
  exact ⟨hname, hcalls _ _, hcalls _ _, hkept, hothers _ hname, hnamed, (herror _).mpr hnamed⟩

end DocQuery.Store
