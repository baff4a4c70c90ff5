import DocQuery.Filter.RegexEngine
import DocQuery.Query.Run
import DocQuery.Proofs.Path.Segments
import DocQuery.Proofs.Store.Documents

/-!
# What a projection keeps

The flags of a selection are read from its tokens: the last token that names a field decides
(`finalFlag`), and compiling the selection gives the same flags (`get?_compile`). A projection is
then read field by field. One that includes keeps what `keepsField` says, out of two nested folds
(`get?_includeFields`); any other one takes away every field it names, whatever its flag
(`get?_excludeFields`).

Both honour the flags except in one case: a projection that includes `_id` and nothing else is no
inclusion, so it takes `_id` away. `select_honours_iff` says that this is the only case.
-/

namespace DocQuery

/-! ## Flags of a selection -/

namespace Selection

/-- The flag of a field: the last token that names it decides. The empty name is none. -/
def finalFlag : List String → String → Option Inclusion
  | [], _ => none
  | token :: rest, field =>
    (finalFlag rest field).or
      (if (flagOf token).1 = field ∧ field ≠ "" then some (flagOf token).2 else none)

theorem distinctKeys_compile (s : Selection) : s.compile.DistinctKeys :=
  FieldMap.distinctKeys_collect _

theorem get?_compile (tokens : List String) (field : String) :
    FieldMap.get? (compile ⟨tokens⟩) field = finalFlag tokens field := by
  rw [compile, FieldMap.get?_collect]
  induction tokens with
  | nil => rfl
  | cons token rest ih =>
      rw [finalFlag, ← ih, List.map_cons, List.filter_cons]
      obtain ⟨name, flag⟩ := flagOf token
      by_cases hempty : name = ""
      · simp [hempty]
      · by_cases hfield : name = field
        · subst hfield
          simp [hempty, List.lookup_append]
        · have hother : List.lookup field [(name, flag)] = none := by simp [Ne.symm hfield]
          simp [hempty, hfield, List.lookup_append, hother]

theorem token_of_finalFlag {tokens : List String} {field : String} {flag : Inclusion}
    (h : finalFlag tokens field = some flag) : ∃ token ∈ tokens, (flagOf token).1 = field := by
  induction tokens with
  | nil => cases h
  | cons token rest ih =>
      rw [finalFlag] at h
      rcases Option.or_eq_some_iff.mp h with hrest | ⟨-, hfirst⟩
      · obtain ⟨other, hother, hfield⟩ := ih hrest
        exact ⟨other, List.mem_cons_of_mem _ hother, hfield⟩
      · split at hfirst
        · rename_i hnamed
          exact ⟨token, List.mem_cons_self .., hnamed.1⟩
        · cases hfirst

theorem undotted_flagOf {token : String} (h : Path.Undotted token) :
    Path.Undotted (flagOf token).1 := by
  cases hchars : token.toList with
  | nil => simpa [flagOf, splitMinus, hchars] using h
  | cons c field =>
      by_cases hminus : c = '-'
      · rw [Path.Undotted, hchars, List.mem_cons, not_or] at h
        subst hminus
        simpa [flagOf, splitMinus, hchars, Path.Undotted] using h.2
      · have hsplit : splitMinus token = (false, token) := by
          unfold splitMinus
          rw [hchars]
          split
          · rename_i heq
            exact absurd (List.cons.inj heq).1 hminus
          · rfl
        simpa [flagOf, hsplit] using h

end Selection

/-! ## Projections field by field -/

namespace Store

/-- Every flagged field is one name. -/
def UndottedFields (flags : FieldMap Inclusion) : Prop := ∀ entry ∈ flags, Path.Undotted entry.1

/-- Whether a projection that includes keeps a field. -/
def keepsField (flags : FieldMap Inclusion) (field : String) : Bool :=
  if field = idField then flags.get? idField != some .excluded else flags.hasKey field

theorem get?_copy (key : String) (src dst : Document) (field : String) :
    (Path.copy [key] src dst).get? field
      = if key = field then (src.get? field).or (dst.get? field) else dst.get? field := by
  rw [Path.copy]
  by_cases h : key = field
  · subst h
    cases src.get? key <;> simp
  · cases src.get? key <;> simp [h, FieldMap.get?_insert]

theorem copy_copy (key : String) (src dst : Document) :
    Path.copy [key] src (Path.copy [key] src dst) = Path.copy [key] src dst := by
  simp only [Path.copy]
  cases src.get? key <;> simp

/-- The entries of one field copy it once. -/
theorem copyFlagged_eq {flags : FieldMap Inclusion} (hflags : UndottedFields flags)
    (doc kept : Document) {key : String} (hkey : key ≠ idField) :
    flags.foldl (fun kept entry =>
        if Path.head entry.1 = key ∧ entry.1 ≠ idField then Path.copy (Path.parse entry.1) doc kept
        else kept) kept
      = if flags.hasKey key then Path.copy [key] doc kept else kept := by
  induction flags generalizing kept with
  | nil => rfl
  | cons entry rest ih =>
      obtain ⟨field, flag⟩ := entry
      have hparse : Path.parse field = [field] :=
        Path.parse_of_undotted (hflags (field, flag) (List.mem_cons_self ..))
      have hrest := ih fun entry hentry => hflags entry (List.mem_cons_of_mem _ hentry)
      rw [List.foldl_cons, hrest]
      simp only [Path.head, hparse, List.headD_cons, FieldMap.hasKey, FieldMap.get?]
      by_cases hfield : field = key
      · subst hfield
        cases (FieldMap.get? rest field).isSome <;> simp [hkey, copy_copy]
      · simp [hfield]

theorem includeField_eq {flags : FieldMap Inclusion} (hflags : UndottedFields flags)
    (doc kept : Document) (key : String) :
    includeField flags doc kept key
      = if keepsField flags key then Path.copy [key] doc kept else kept := by
  unfold includeField keepsField
  by_cases hkey : key = idField
  · subst hkey
    by_cases hid : flags.get? idField = some .excluded <;> simp [hid]
  · simp only [hkey, if_false, copyFlagged_eq hflags doc kept hkey]

theorem get?_foldl_includeField {flags : FieldMap Inclusion} (hflags : UndottedFields flags)
    (doc kept : Document) (keys : List String) (field : String) :
    (keys.foldl (includeField flags doc) kept).get? field
      = if field ∈ keys ∧ keepsField flags field then (doc.get? field).or (kept.get? field)
        else kept.get? field := by
  induction keys generalizing kept with
  | nil => simp
  | cons key rest ih =>
      rw [List.foldl_cons, ih, includeField_eq hflags]
      by_cases hfield : key = field
      · subst hfield
        by_cases hkeep : keepsField flags key = true
        · cases hget : doc.get? key <;> simp [hkeep, get?_copy, hget]
        · simp [hkeep]
      · by_cases hkeep : keepsField flags key = true
        · simp [hkeep, get?_copy, hfield, Ne.symm hfield]
        · simp [hkeep, Ne.symm hfield]

/-- An included document has the kept fields of the document and no other. -/
theorem get?_includeFields {flags : FieldMap Inclusion} (hflags : UndottedFields flags)
    (doc : Document) (field : String) :
    (includeFields flags doc).get? field
      = if keepsField flags field then doc.get? field else none := by
  rw [includeFields, get?_foldl_includeField hflags]
  by_cases hmem : field ∈ doc.keys
  · simp [hmem, FieldMap.get?]
  · simp [hmem, FieldMap.get?, FieldMap.get?_eq_none_iff.mpr hmem]

/-- An excluding projection takes every field away that it names. -/
theorem get?_excludeFields {flags : FieldMap Inclusion} (hflags : UndottedFields flags)
    {doc : Document} (hdoc : doc.DistinctKeys) (field : String) :
    (excludeFields flags doc).get? field
      = if flags.hasKey field then none else doc.get? field := by
  unfold excludeFields
  induction flags generalizing doc with
  | nil => rfl
  | cons entry rest ih =>
      obtain ⟨named, flag⟩ := entry
      have hparse : Path.parse named = [named] :=
        Path.parse_of_undotted (hflags (named, flag) (List.mem_cons_self ..))
      have hrest := ih (fun entry hentry => hflags entry (List.mem_cons_of_mem _ hentry))
        (hdoc.erase named)
      rw [List.foldl_cons, hparse, Path.remove, hrest]
      by_cases hnamed : named = field
      · subst hnamed
        simp [FieldMap.hasKey, FieldMap.get?, FieldMap.get?_erase_self hdoc]
      · simp [FieldMap.hasKey, FieldMap.get?, hnamed, FieldMap.get?_erase_of_ne doc hnamed]

theorem isInclusion_iff {flags : FieldMap Inclusion} (hflags : flags.DistinctKeys) :
    isInclusion flags = true ↔ ∃ field, field ≠ idField ∧ flags.get? field = some .included := by
  constructor
  · intro h
    obtain ⟨⟨field, flag⟩, hmem, htest⟩ := List.any_eq_true.mp h
    simp only [Bool.and_eq_true, bne_iff_ne, beq_iff_eq] at htest
    obtain ⟨hfield, rfl⟩ := htest
    exact ⟨field, hfield, FieldMap.get?_of_mem hflags hmem⟩
  · rintro ⟨field, hfield, hget⟩
    refine List.any_eq_true.mpr ⟨(field, .included), FieldMap.mem_of_get? hget, ?_⟩
    simp [hfield]

theorem not_excluded_of_firstExcluded? {flags : FieldMap Inclusion}
    (h : firstExcluded? flags = none) {field : String} (hfield : field ≠ idField) :
    flags.get? field ≠ some .excluded := by
  intro hget
  have hfind := List.find?_eq_none.mp (Option.map_eq_none_iff.mp h) _ (FieldMap.mem_of_get? hget)
  simp [hfield] at hfind

/-- A projection that succeeds either includes and excludes no field but `_id`, or takes the fields
away that it names. -/
theorem project_cases {flags : FieldMap Inclusion} {docs out : List Value}
    (h : project flags docs = .ok out) :
    (isInclusion flags = true ∧ (∀ field, field ≠ idField → flags.get? field ≠ some .excluded)
        ∧ out = docs.map (Value.mapFields (includeFields flags)))
      ∨ (isInclusion flags = false ∧ out = docs.map (Value.mapFields (excludeFields flags))) := by
  unfold project at h
  split at h
  · rename_i hincl
    split at h
    · cases h
    · rename_i hfirst
      exact .inl ⟨hincl, fun _ => not_excluded_of_firstExcluded? hfirst, (Except.ok.inj h).symm⟩
  · rename_i hincl
    exact .inr ⟨Bool.eq_false_iff.mpr hincl, (Except.ok.inj h).symm⟩

/-! ## Honouring the flags -/

/-- The row has the fields of the document that the tokens include, and none that they exclude. -/
structure Honours (tokens : List String) (doc row : Document) : Prop where
  keeps : ∀ field value, Selection.finalFlag tokens field = some .included →
    doc.get? field = some value → row.get? field = some value
  drops : ∀ field, Selection.finalFlag tokens field = some .excluded → row.get? field = none

/-- The tokens include the `_id` of the document and no other field. -/
structure IncludesOnlyId (tokens : List String) (doc : Document) : Prop where
  id_included : Selection.finalFlag tokens idField = some .included
  no_other : ∀ field, field ≠ idField → Selection.finalFlag tokens field ≠ some .included
  has_id : doc.hasKey idField = true

section Rows

variable {tokens : List String} {doc : Document}

theorem undottedFields_compile (htokens : ∀ token ∈ tokens, Path.Undotted token) :
    UndottedFields (Selection.compile ⟨tokens⟩) := by
  intro entry hentry
  have hget := FieldMap.get?_of_mem (Selection.distinctKeys_compile ⟨tokens⟩) hentry
  obtain ⟨token, htoken, hfield⟩ :=
    Selection.token_of_finalFlag (Selection.get?_compile tokens entry.1 ▸ hget)
  exact hfield ▸ Selection.undotted_flagOf (htokens token htoken)

theorem honours_includeFields (htokens : ∀ token ∈ tokens, Path.Undotted token)
    (hnone : ∀ field, field ≠ idField → Selection.finalFlag tokens field ≠ some .excluded) :
    Honours tokens doc (includeFields (Selection.compile ⟨tokens⟩) doc) := by
  have hrow := get?_includeFields (undottedFields_compile htokens) doc
  constructor
  · intro field value hflag hget
    have hkeep : keepsField (Selection.compile ⟨tokens⟩) field = true := by
      unfold keepsField FieldMap.hasKey
      by_cases hid : field = idField
      · rw [if_pos hid, ← hid, Selection.get?_compile, hflag]
        rfl
      · rw [if_neg hid, Selection.get?_compile, hflag]
        rfl
    rw [hrow, hkeep, if_pos rfl, hget]
  · intro field hflag
    obtain rfl : field = idField := by
      by_contra hfield
      exact hnone field hfield hflag
    have hdrop : keepsField (Selection.compile ⟨tokens⟩) idField = false := by
      rw [keepsField, if_pos rfl, Selection.get?_compile, hflag]
      rfl
    rw [hrow, hdrop]
    rfl

theorem honours_excludeFields_iff (htokens : ∀ token ∈ tokens, Path.Undotted token)
    (hnone : ∀ field, field ≠ idField → Selection.finalFlag tokens field ≠ some .included)
    (hdoc : doc.DistinctKeys) :
    Honours tokens doc (excludeFields (Selection.compile ⟨tokens⟩) doc)
      ↔ ¬IncludesOnlyId tokens doc := by
  have hgone {field : String} {flag : Inclusion}
      (hflag : Selection.finalFlag tokens field = some flag) :
      (excludeFields (Selection.compile ⟨tokens⟩) doc).get? field = none := by
    rw [get?_excludeFields (undottedFields_compile htokens) hdoc, FieldMap.hasKey,
      Selection.get?_compile, hflag]
    rfl
  constructor
  · intro hrow hid
    obtain ⟨value, hvalue⟩ := Option.isSome_iff_exists.mp hid.has_id
    have hkept := hrow.keeps idField value hid.id_included hvalue
    rw [hgone hid.id_included] at hkept
    cases hkept
  · intro hid
    refine ⟨fun field value hflag hget => ?_, fun field hflag => hgone hflag⟩
    obtain rfl : field = idField := by
      by_contra hfield
      exact hnone field hfield hflag
    exact absurd ⟨hflag, hnone, Option.isSome_iff_exists.mpr ⟨value, hget⟩⟩ hid

end Rows

theorem project_nil (docs : List Value) : project [] docs = .ok docs := by
  have hid : Value.mapFields (excludeFields []) = (id : Value → Value) := by
    funext doc
    cases doc <;> rfl
  calc project [] docs = .ok (docs.map (Value.mapFields (excludeFields []))) := rfl
    _ = .ok docs := by rw [hid, List.map_id]

/-- The rows of a query that only selects are the projected documents. -/
theorem project_of_select [Filter.Engine] {s : Store} (hs : s.HoldsObjects) {entity : String}
    {schema : Schema} {options : Options} {selection : Selection} {rows : List Document}
    (h : (({ entity, schema, options } : Query).select selection).rows s.run = .ok rows) :
    project selection.compile (s.documents (schema.collectionOf entity))
      = .ok (rows.map Value.object) := by
  have hrun := run_eq_ok hs h
  simp only [Query.pipeline, Query.window, Query.finalize, Query.select, Query.collection] at hrun
  by_cases hempty : selection.compile.isEmpty = true
  · rw [if_pos hempty] at hrun
    rw [List.isEmpty_iff.mp hempty, project_nil]
    exact hrun
  · rw [if_neg hempty] at hrun
    simp only [Option.map_some, Option.toList_some, Option.map_none, Option.toList_none,
      List.nil_append, List.append_nil, apply_singleton, applyStage] at hrun
    exact hrun

theorem forall₂_of_mapFields {f : Document → Document} {docs : List Value} {rows : List Document}
    (hdocs : ∀ doc ∈ docs, doc.IsDocument)
    (h : rows.map Value.object = docs.map (Value.mapFields f)) :
    List.Forall₂ (fun stored row =>
      ∃ doc, stored = .object doc ∧ FieldMap.DistinctKeys doc ∧ row = f doc) docs rows := by
  induction docs generalizing rows with
  | nil =>
      obtain rfl := List.map_eq_nil_iff.mp h
      exact .nil
  | cons stored rest ih =>
      obtain ⟨doc, rfl, hdoc⟩ := (hdocs _ (List.mem_cons_self ..)).eq_object
      cases rows with
      | nil => cases h
      | cons row rows =>
          obtain ⟨hrow, hrows⟩ := List.cons.inj h
          exact .cons ⟨doc, rfl, hdoc, Value.object.inj hrow⟩
            (ih (fun d hd => hdocs d (List.mem_cons_of_mem _ hd)) hrows)

/-- **Where a selection honours its flags.** It does in the row of every document, unless the
document has an `_id`, the selection includes it, and it includes nothing else: then the row has
lost it. -/
theorem select_honours_iff [Filter.Engine] {s : Store} (hs : s.WellFormed) (entity : String)
    (schema : Schema) (options : Options) {tokens : List String}
    (htokens : ∀ token ∈ tokens, Path.Undotted token) {rows : List Document}
    (h : (({ entity, schema, options } : Query).select ⟨tokens⟩).rows s.run = .ok rows) :
    List.Forall₂ (fun stored row => ∃ doc, stored = .object doc ∧
        (Honours tokens doc row ↔ ¬IncludesOnlyId tokens doc))
      (s.documents (schema.collectionOf entity)) rows := by
  have hdocs : ∀ doc ∈ s.documents (schema.collectionOf entity), doc.IsDocument :=
    fun _ hdoc => hs.isDocument hdoc
  have hincl := isInclusion_iff (Selection.distinctKeys_compile ⟨tokens⟩)
  simp only [Selection.get?_compile] at hincl
  rcases project_cases (project_of_select hs.holdsObjects h) with
    ⟨hmode, hnone, hrows⟩ | ⟨hmode, hrows⟩
  · simp only [Selection.get?_compile] at hnone
    obtain ⟨other, hother, hflag⟩ := hincl.mp hmode
    refine (forall₂_of_mapFields hdocs hrows).imp ?_
    rintro stored row ⟨doc, rfl, -, rfl⟩
    refine ⟨doc, rfl, iff_of_true (honours_includeFields htokens hnone) fun hid => ?_⟩
    exact hid.no_other other hother hflag
  · have hnone : ∀ field, field ≠ idField → Selection.finalFlag tokens field ≠ some .included := by
      intro field hfield hflag
      rw [hincl.mpr ⟨field, hfield, hflag⟩] at hmode
      cases hmode
    refine (forall₂_of_mapFields hdocs hrows).imp ?_
    rintro stored row ⟨doc, rfl, hdoc, rfl⟩
    exact ⟨doc, rfl, honours_excludeFields_iff htokens hnone hdoc⟩

/-! ## One stored user -/

/-- A document with an `_id`. -/
def sampleUser : Document := [("_id", .ofInt 1), ("name", .string "Ada")]

/-- A store of one user. -/
def sampleUsers : Store := ⟨[("users", [.object sampleUser])]⟩

/-- A fresh query on the users. -/
def userQuery : Query := { entity := "User", schema := { resolve := fun _ _ => .plain } }

attribute [local instance] Filter.regexEngine

theorem select_honours_iff_sampleUser :
    sampleUsers.WellFormed ∧ (∀ token ∈ ["_id", "name", "-_id"], Path.Undotted token) ∧
    (userQuery.select ⟨["_id", "name", "-_id"]⟩).rows sampleUsers.run
      = .ok [[("name", .string "Ada")]] ∧
    List.Forall₂ (fun stored row => ∃ doc, stored = .object doc ∧
        (Honours ["_id", "name", "-_id"] doc row ↔ ¬IncludesOnlyId ["_id", "name", "-_id"] doc))
      (sampleUsers.documents "users") [[("name", .string "Ada")]] := by
  have hs : sampleUsers.WellFormed := by decide
  have htokens : ∀ token ∈ ["_id", "name", "-_id"], Path.Undotted token := by decide
  have hrows : (userQuery.select ⟨["_id", "name", "-_id"]⟩).rows sampleUsers.run
      = .ok [[("name", .string "Ada")]] := rfl
  exact ⟨hs, htokens, hrows, select_honours_iff hs "User" _ {} htokens hrows⟩

/-- Selecting the `_id` alone gives a row of everything else. -/
theorem select_id_loses_id :
    sampleUsers.WellFormed ∧ (∀ token ∈ ["_id"], Path.Undotted token) ∧
    (userQuery.select ⟨["_id"]⟩).rows sampleUsers.run = .ok [[("name", .string "Ada")]] ∧
    ¬Honours ["_id"] sampleUser [("name", .string "Ada")] := by
  refine ⟨by decide, by decide, rfl, fun h => ?_⟩
  have hkept := h.keeps "_id" (.ofInt 1) rfl rfl
  have hlost : FieldMap.get? [("name", Value.string "Ada")] "_id" = none := rfl
  rw [hlost] at hkept
  cases hkept

end Store

end DocQuery
