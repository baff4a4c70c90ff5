import DocQuery.Filter.RegexEngine
import DocQuery.Proofs.Path.Repetition
import DocQuery.Proofs.Store.Exclusion
import Mathlib.Data.List.Perm.Subperm

/-!
# Projecting twice

A projection is idempotent. One that excludes removes a list of paths (`removeAll_removeAll`). One
that includes copies, for each field of the document in turn, the paths that start with it
(`includeFields_eq_copyAll`); a row has its fields in the order of the document's, and the paths of
a field that the row does not have copy nothing, so the second projection copies the same list of
paths as the first (`copyAll_copyAll`).
-/

namespace DocQuery.Store

open DocQuery.Path

variable {flags : FieldMap Inclusion} {doc : Document}

/-! ## An inclusion as a list of copies -/

/-- The paths that an inclusion copies when it comes to a field of the document. -/
def pathsAt (flags : FieldMap Inclusion) (key : String) : List Path :=
  if key = idField then if flags.get? idField = some .excluded then [] else [[idField]]
  else (flags.keys.filter fun field => head field = key ∧ field ≠ idField).map parse

theorem head?_of_mem_pathsAt {key : String} {p : Path} (h : p ∈ pathsAt flags key) :
    p.head? = some key := by
  unfold pathsAt at h
  split at h
  · rename_i hkey
    split at h
    · cases h
    · obtain rfl := List.mem_singleton.mp h
      rw [hkey]
      rfl
  · obtain ⟨field, hfield, rfl⟩ := List.mem_map.mp h
    have hhead : head field = key := (of_decide_eq_true (List.mem_filter.mp hfield).2).1
    obtain ⟨name, names, hparse⟩ := List.exists_cons_of_ne_nil (parse_ne_nil field)
    rw [head, hparse] at hhead
    rw [hparse, List.head?_cons]
    exact congrArg some hhead

theorem includeField_eq_copyAll (flags : FieldMap Inclusion) (doc kept : Document) (key : String) :
    includeField flags doc kept key = copyAll (pathsAt flags key) doc kept := by
  unfold includeField pathsAt
  split
  · rename_i hkey
    split
    · rfl
    · rw [hkey]
      rfl
  · rw [copyAll, List.foldl_map, List.foldl_filter, FieldMap.keys, List.foldl_map]
    simp

theorem includeFields_eq_copyAll (flags : FieldMap Inclusion) (doc : Document) :
    includeFields flags doc = copyAll (doc.keys.flatMap (pathsAt flags)) doc [] := by
  rw [includeFields, copyAll, List.foldl_flatMap]
  exact congrArg (fun step => doc.keys.foldl step []) (funext₂ (includeField_eq_copyAll flags doc))

/-! ## The fields of a row -/

section Grouped

variable {paths : String → List Path} (hpaths : ∀ key, ∀ p ∈ paths key, p.head? = some key)
  (src dst : Document)

include hpaths

/-- Fields are made in the order of the groups of paths that start with them. -/
theorem keys_copyAll_flatMap (names : List String) :
    (copyAll (names.flatMap paths) src dst).keys.Sublist (dst.keys ++ names) := by
  induction names generalizing dst with
  | nil => simp [copyAll]
  | cons name rest ih =>
      rw [List.flatMap_cons, copyAll, List.foldl_append]
      refine (ih (copyAll (paths name) src dst)).trans ?_
      rcases keys_copyAll_at (hpaths name) with hsame | ⟨-, hone⟩
      · rw [hsame]
        exact (List.sublist_cons_self name rest).append_left _
      · rw [hone, List.append_assoc]
        exact List.Sublist.refl _

/-- Paths that start with a field which the source does not have may be left out. -/
theorem copyAll_flatMap_filter (names : List String) :
    copyAll ((names.filter (· ∈ src.keys)).flatMap paths) src dst
      = copyAll (names.flatMap paths) src dst := by
  induction names generalizing dst with
  | nil => rfl
  | cons name rest ih =>
      rw [List.flatMap_cons, copyAll, copyAll, List.foldl_append]
      by_cases hname : name ∈ src.keys
      · rw [List.filter_cons_of_pos (by simpa using hname), List.flatMap_cons, List.foldl_append]
        exact ih _
      · have hskip := copyAll_of_missing (FieldMap.get?_eq_none_iff.mpr hname) (hpaths name) dst
        rw [List.filter_cons_of_neg (by simpa using hname)]
        refine (ih dst).trans (congrArg (copyAll (rest.flatMap paths) src) hskip.symm)

end Grouped

theorem filter_mem_of_sublist {names others : List String} (h : names.Sublist others)
    (hothers : others.Nodup) : others.filter (· ∈ names) = names := by
  have hself : names.filter (· ∈ names) = names :=
    List.filter_eq_self.mpr fun _ hname => decide_eq_true hname
  have hback := h.filter (· ∈ names)
  rw [hself] at hback
  have hsubset : others.filter (· ∈ names) ⊆ names := fun name hname => by
    simpa using (List.mem_filter.mp hname).2
  exact (hback.eq_of_length_le ((hothers.filter _).subperm hsubset).length_le).symm

/-- **Including again.** A row is projected to itself. -/
theorem includeFields_includeFields (flags : FieldMap Inclusion)
    (hdoc : (Value.object doc).WellFormed) :
    includeFields flags (includeFields flags doc) = includeFields flags doc := by
  have hpaths : ∀ key, ∀ p ∈ pathsAt flags key, p.head? = some key :=
    fun _ _ => head?_of_mem_pathsAt
  have hrow := includeFields_eq_copyAll flags doc
  have hsublist := keys_copyAll_flatMap hpaths doc [] doc.keys
  rw [← hrow] at hsublist
  rw [includeFields_eq_copyAll flags (includeFields flags doc),
    ← filter_mem_of_sublist hsublist (Value.wellFormed_object.mp hdoc).1,
    copyAll_flatMap_filter hpaths, hrow]
  exact copyAll_copyAll _ hdoc

theorem excludeFields_excludeFields (flags : FieldMap Inclusion)
    (hdoc : (Value.object doc).WellFormed) :
    excludeFields flags (excludeFields flags doc) = excludeFields flags doc := by
  rw [excludeFields_eq, excludeFields_eq]
  exact removeAll_removeAll (fun _ => ne_nil_of_mem_namedPaths) hdoc

/-! ## Projecting again -/

theorem map_mapFields_again {f : Document → Document}
    (hf : ∀ {doc}, (Value.object doc).WellFormed → f (f doc) = f doc) {docs : List Value}
    (hdocs : ∀ doc ∈ docs, doc.WellFormed) :
    (docs.map (Value.mapFields f)).map (Value.mapFields f) = docs.map (Value.mapFields f) := by
  rw [List.map_map]
  refine List.map_congr_left fun doc hdoc => ?_
  cases doc with
  | object fields => exact congrArg Value.object (hf (hdocs _ hdoc))
  | _ => rfl

theorem project_project (flags : FieldMap Inclusion) {docs : List Value}
    (hdocs : ∀ doc ∈ docs, doc.WellFormed) :
    (project flags docs >>= project flags) = project flags docs := by
  unfold project
  split
  · cases firstExcluded? flags with
    | some field => rfl
    | none =>
        exact congrArg Except.ok
          (map_mapFields_again (fun hdoc => includeFields_includeFields flags hdoc) hdocs)
  · exact congrArg Except.ok
      (map_mapFields_again (fun hdoc => excludeFields_excludeFields flags hdoc) hdocs)

/-- **Projection is idempotent.** A projection that follows itself gives the rows that it gives
alone, with their keys in the same order, whatever paths it names and however they overlap. It gives
rows unless it mixes its flags, and then it is refused alone as well. -/
theorem projection_is_idempotent [Filter.Engine] (s : Store) (flags : FieldMap Inclusion)
    {docs : List Value} (hdocs : ∀ doc ∈ docs, doc.WellFormed) :
    s.apply [.project flags, .project flags] docs = s.apply [.project flags] docs ∧
    ((isInclusion flags = true → firstExcluded? flags = none) →
      ∃ rows, s.apply [.project flags] docs = .ok rows) := by
  rw [apply_cons, apply_singleton, applyStage]
  constructor
  · have hagain : s.apply [.project flags] = project flags := by
      funext rows
      rw [apply_singleton, applyStage]
    rw [hagain]
    exact project_project flags hdocs
  · intro haccepted
    unfold project
    split
    · rename_i hincl
      exact ⟨_, by rw [haccepted hincl]⟩
    · exact ⟨_, rfl⟩

/-- A shelf, with items that are objects and one that is none. -/
def shelf : Document :=
  [("name", .string "north"),
    ("items", .array [.ofInt 7,
      .object [("code", .ofInt 1),
        ("size", .object [("width", .ofInt 2), ("height", .ofInt 3)])],
      .object [("code", .ofInt 4)]]),
    ("_id", .ofInt 1)]

/-- A projection to all items, and again to their widths and codes. -/
def itemFlags : FieldMap Inclusion :=
  [("items", .included), ("items.size.width", .included), ("items.code", .included)]

/-- What it keeps of the shelf: the widths begin anew, since one of the items is no object. -/
def shelfRow : Document :=
  [("items", .array [.object [("size", .object [("width", .ofInt 2)]), ("code", .ofInt 1)],
      .object [("code", .ofInt 4)]]),
    ("_id", .ofInt 1)]

attribute [local instance] Filter.regexEngine

theorem projection_is_idempotent_shelf :
    (∀ doc ∈ [Value.object shelf], doc.WellFormed) ∧
    (⟨[]⟩ : Store).apply [.project itemFlags] [.object shelf] = .ok [.object shelfRow] ∧
    (⟨[]⟩ : Store).apply [.project itemFlags, .project itemFlags] [.object shelf]
      = .ok [.object shelfRow] := by
  have hdocs : ∀ doc ∈ [Value.object shelf], doc.WellFormed := by decide
  have hrow : (⟨[]⟩ : Store).apply [.project itemFlags] [.object shelf]
      = .ok [.object shelfRow] := by
    cbv
  exact ⟨hdocs, hrow, (projection_is_idempotent ⟨[]⟩ itemFlags hdocs).1.trans hrow⟩

end DocQuery.Store
