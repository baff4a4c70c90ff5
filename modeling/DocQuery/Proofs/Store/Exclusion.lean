import DocQuery.Filter.RegexEngine
import DocQuery.Proofs.Path.Removal
import DocQuery.Proofs.Store.Documents

/-!
# What an exclusion hides

A projection that includes no field but `_id` removes the fields it names, one after the other, so
its rows are read by the laws of removal. `$unset` is the removal of one field.

A path that overlaps no excluded one reads as before, and the keys that are not excluded keep their
order (`exclusion_leaves_rest`). An excluded path cannot be read any more, unless the document holds
something there in an array within an array: then it can (`excluded_unreadable_iff`).
-/

namespace DocQuery.Store

open DocQuery.Path

/-- The paths that a projection names. -/
def namedPaths (flags : FieldMap Inclusion) : List Path := flags.keys.map parse

theorem excludeFields_eq (flags : FieldMap Inclusion) (doc : Document) :
    excludeFields flags doc = removeAll (namedPaths flags) doc := by
  rw [excludeFields, removeAll, namedPaths, FieldMap.keys, List.map_map, List.foldl_map]
  rfl

theorem ne_nil_of_mem_namedPaths {flags : FieldMap Inclusion} {p : Path}
    (h : p ∈ namedPaths flags) :
    p ≠ [] := by
  obtain ⟨field, -, rfl⟩ := List.mem_map.mp h
  exact parse_ne_nil field

theorem isInclusion_of_excluded {flags : FieldMap Inclusion}
    (h : ∀ entry ∈ flags, entry.2 = .excluded) : isInclusion flags = false := by
  refine List.any_eq_false.mpr fun entry hentry => ?_
  simp [h entry hentry]

section Rows

variable [Filter.Engine] (s : Store) {f : Document → Document} {R : Document → Document → Prop}

/-- The rows of a stage that changes every document by itself, each related to its document. -/
theorem exists_rows {stage : Stage} {docs : List Document}
    (hstage : s.applyStage stage (docs.map .object)
      = .ok ((docs.map Value.object).map (Value.mapFields f)))
    (h : ∀ doc ∈ docs, R doc (f doc)) :
    ∃ rows : List Document, s.applyStage stage (docs.map .object) = .ok (rows.map .object)
      ∧ List.Forall₂ R docs rows := by
  refine ⟨docs.map f, ?_, List.forall₂_map_right_iff.mpr (List.forall₂_same.mpr h)⟩
  rw [hstage, List.map_map, List.map_map]
  rfl

theorem applyStage_exclusion {flags : FieldMap Inclusion} (h : isInclusion flags = false)
    (docs : List Value) :
    s.applyStage (.project flags) docs
      = .ok (docs.map (Value.mapFields (removeAll (namedPaths flags)))) := by
  have hremove : excludeFields flags = removeAll (namedPaths flags) :=
    funext (excludeFields_eq flags)
  rw [applyStage, project, h, hremove]
  rfl

end Rows

/-! ## What is left -/

/-- **Exclusion leaves the rest alone.** Whatever is read at a path that overlaps no excluded path
is the same in the row and in the document, and the keys of the row are those of the document in
their order, without the excluded ones. -/
theorem exclusion_leaves_rest [Filter.Engine] (s : Store) {flags : FieldMap Inclusion}
    (hflags : ∀ entry ∈ flags, entry.2 = .excluded) {docs : List Document}
    (hdocs : ∀ doc ∈ docs, doc.DistinctKeys) :
    ∃ rows : List Document, s.applyStage (.project flags) (docs.map .object)
      = .ok (rows.map .object)
      ∧ List.Forall₂ (fun (doc row : Document) =>
          (∀ q, (∀ p ∈ namedPaths flags, ¬Overlap p q) →
            resolve q (.object row) = resolve q (.object doc))
          ∧ row.keys = doc.keys.filter fun key => [key] ∉ namedPaths flags) docs rows := by
  have hstage := s.applyStage_exclusion (isInclusion_of_excluded hflags) (docs.map .object)
  refine s.exists_rows hstage fun doc hdoc => ⟨fun q hq => ?_, ?_⟩
  · exact resolve_removeAll_of_not_overlap hq doc
  · exact keys_removeAll (hdocs doc hdoc) _

/-- A document with codes in an array. -/
def openVault : Document :=
  [("secret", .array [.object [("code", .ofInt 1), ("hint", .string "one")], .ofInt 7]),
    ("name", .string "north")]

/-- A document with a code in an array within an array. -/
def nestedVault : Document := [("secret", .array [.array [.object [("code", .ofInt 1)]]])]

/-- A projection that hides the codes. -/
def codeFlags : FieldMap Inclusion := [("secret.code", .excluded), ("name", .excluded)]

section Vaults

attribute [local instance] Filter.regexEngine

theorem exclusion_leaves_rest_vaults :
    (∀ entry ∈ codeFlags, entry.2 = .excluded) ∧
    (∀ doc ∈ [openVault, nestedVault], doc.DistinctKeys) ∧
    (∀ p ∈ namedPaths codeFlags, ¬Overlap p ["secret", "hint"]) ∧
    ∃ first second : Document,
      (⟨[]⟩ : Store).applyStage (.project codeFlags) [.object openVault, .object nestedVault]
        = .ok [.object first, .object second] ∧
      resolve ["secret", "hint"] (.object first) = resolve ["secret", "hint"] (.object openVault) ∧
      first.keys = ["secret"] ∧
      resolve ["secret", "hint"] (.object second)
        = resolve ["secret", "hint"] (.object nestedVault) := by
  have hflags : ∀ entry ∈ codeFlags, entry.2 = .excluded := by decide
  have hdocs : ∀ doc ∈ [openVault, nestedVault], doc.DistinctKeys := by decide
  have hapart : ∀ p ∈ namedPaths codeFlags, ¬Overlap p ["secret", "hint"] := by decide +kernel
  obtain ⟨rows, hrows, hrest⟩ := exclusion_leaves_rest ⟨[]⟩ hflags hdocs
  cases hrest with
  | cons hfirst hrest =>
      cases hrest with
      | cons hsecond hrest =>
          cases hrest
          refine ⟨hflags, hdocs, hapart, _, _, hrows, hfirst.1 _ hapart, ?_, hsecond.1 _ hapart⟩
          rw [hfirst.2]
          decide +kernel

end Vaults

/-! ## What is hidden -/

/-- **What an exclusion hides.** Nothing can be read at a removed path if and only if the document
holds nothing there behind an array within an array; nothing can be read at a path that is excluded,
alone or with others, if and only if along one of its excluded prefixes nothing is buried so. -/
theorem excluded_unreadable_iff [Filter.Engine] (s : Store) (field : String) {docs : List Document}
    (hdocs : ∀ doc ∈ docs, (Value.object doc).WellFormed) :
    (∃ rows : List Document, s.applyStage (.unset field) (docs.map .object) = .ok (rows.map .object)
      ∧ List.Forall₂ (fun (doc row : Document) =>
          Unreadable (parse field) (.object row) ↔ buried [] (parse field) doc = []) docs rows) ∧
    ∀ flags : FieldMap Inclusion, isInclusion flags = false → field ∈ flags.keys →
      ∃ rows : List Document, s.applyStage (.project flags) (docs.map .object)
        = .ok (rows.map .object)
        ∧ List.Forall₂ (fun (doc row : Document) => Unreadable (parse field) (.object row) ↔
            ∃ p ∈ namedPaths flags, ∃ rest, parse field = p ++ rest ∧ buried rest p doc = [])
          docs rows := by
  constructor
  · refine s.exists_rows (f := remove (parse field)) (by rw [applyStage]) fun doc hdoc => ?_
    have hread := flatten_remove (parse_ne_nil field) [] (hdocs doc hdoc)
    rw [List.append_nil] at hread
    rw [unreadable_iff, hread]
  · intro flags hincl hfield
    have hmem : parse field ∈ namedPaths flags := List.mem_map.mpr ⟨field, hfield, rfl⟩
    refine s.exists_rows (s.applyStage_exclusion hincl _) fun doc hdoc => ?_
    rw [unreadable_iff]
    exact flatten_removeAll_eq_nil_iff (fun _ => ne_nil_of_mem_namedPaths)
      ⟨_, hmem, List.prefix_rfl⟩ (hdocs doc hdoc)

attribute [local instance] Filter.regexEngine

theorem excluded_unreadable_iff_vaults :
    (∀ doc ∈ [openVault, nestedVault], (Value.object doc).WellFormed) ∧
    isInclusion codeFlags = false ∧ "secret.code" ∈ codeFlags.keys ∧
    ∃ first second : Document,
      (⟨[]⟩ : Store).applyStage (.project codeFlags) [.object openVault, .object nestedVault]
        = .ok [.object first, .object second] ∧
      Unreadable (parse "secret.code") (.object first) ∧
      ¬Unreadable (parse "secret.code") (.object second) := by
  have hdocs : ∀ doc ∈ [openVault, nestedVault], (Value.object doc).WellFormed := by decide
  have hincl : isInclusion codeFlags = false := by decide
  have hfield : "secret.code" ∈ codeFlags.keys := by decide
  have hpath : parse "secret.code" = ["secret", "code"] := rfl
  have hnamed : namedPaths codeFlags = [["secret", "code"], ["name"]] := by decide +kernel
  have hopen : buried [] ["secret", "code"] openVault = [] := rfl
  have hnested : buried [] ["secret", "code"] nestedVault = [.ofInt 1] := rfl
  obtain ⟨rows, hrows, hread⟩ :=
    (excluded_unreadable_iff ⟨[]⟩ "secret.code" hdocs).2 codeFlags hincl hfield
  rw [hpath, hnamed] at hread
  cases hread with
  | cons hfirst hread =>
      cases hread with
      | cons hsecond hread =>
          cases hread
          rw [hpath]
          refine ⟨hdocs, hincl, hfield, _, _, hrows, hfirst.mpr ?_, fun hnone => ?_⟩
          · exact ⟨_, List.mem_cons_self .., [], rfl, hopen⟩
          · obtain ⟨p, hp, rest, hrest, hburied⟩ := hsecond.mp hnone
            rcases List.mem_pair.mp hp with rfl | rfl
            · obtain rfl : rest = [] := by simpa using hrest
              rw [hnested] at hburied
              exact absurd hburied (List.cons_ne_nil _ _)
            · simp at hrest

/-- What an array within an array holds survives its exclusion, and its removal. -/
theorem nested_code_stays_readable :
    (Value.object nestedVault).WellFormed ∧
    (⟨[]⟩ : Store).applyStage (.project [("secret.code", .excluded)]) [.object nestedVault]
      = .ok [.object nestedVault] ∧
    (⟨[]⟩ : Store).applyStage (.unset "secret.code") [.object nestedVault]
      = .ok [.object nestedVault] ∧
    flatten (parse "secret.code") (.object nestedVault) = [.ofInt 1] ∧
    ¬Unreadable (parse "secret.code") (.object nestedVault) := by
  have hread : flatten (parse "secret.code") (.object nestedVault) = [.ofInt 1] := by cbv
  refine ⟨by decide, by cbv, by cbv, hread, fun hnone => ?_⟩
  rw [unreadable_iff, hread] at hnone
  exact absurd hnone (List.cons_ne_nil _ _)

end DocQuery.Store
