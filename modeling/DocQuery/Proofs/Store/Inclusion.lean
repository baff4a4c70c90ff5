import DocQuery.Filter.RegexEngine
import DocQuery.Proofs.Path.Copying
import DocQuery.Proofs.Path.Segments
import DocQuery.Proofs.Store.Documents
import Mathlib.Data.List.Pairwise

/-!
# What an inclusion shows

A projection that includes a field other than `_id` builds its rows by copying paths into an empty
document, so a property of the row is one that the empty document has and that every copy keeps
(`includeFields_induct`). From where copied values come it follows that a row shows values at and
around the included paths only, and that what it shows at an included path is in the document at the
same place (`inclusion_shows_only`).
-/

namespace DocQuery.Store

open DocQuery.Path

variable {flags : FieldMap Inclusion} {doc : Document}

/-- The paths that a projection includes. -/
def includedPaths (flags : FieldMap Inclusion) : List Path :=
  (flags.filter fun entry => entry.2 = .included).map fun entry => parse entry.1

/-- The paths that an inclusion copies: `_id`, unless it is excluded, and every other field that it
names. -/
def copiedPaths (flags : FieldMap Inclusion) : List Path :=
  (if flags.get? idField = some .excluded then [] else [[idField]])
    ++ (flags.keys.filter (· ≠ idField)).map parse

theorem mem_copiedPaths {p : Path} :
    p ∈ copiedPaths flags ↔ (flags.get? idField ≠ some .excluded ∧ p = [idField])
      ∨ ∃ entry ∈ flags, entry.1 ≠ idField ∧ parse entry.1 = p := by
  rw [copiedPaths, List.mem_append]
  refine or_congr ?_ ?_
  · split
    · rename_i hid
      simp [hid]
    · rename_i hid
      simp [hid]
  · simp [FieldMap.keys, and_assoc]

/-! ## Building a row -/

theorem copyFlagged_induct {P : Document → Prop}
    (hcopy : ∀ p ∈ copiedPaths flags, ∀ kept, P kept → P (copy p doc kept)) (key : String)
    {kept : Document} (hkept : P kept) :
    P (flags.foldl (fun kept entry =>
      if head entry.1 = key ∧ entry.1 ≠ idField then copy (parse entry.1) doc kept else kept)
      kept) := by
  refine List.foldlRecOn (motive := P) flags _ hkept fun kept hkept entry hentry => ?_
  split
  · rename_i hnamed
    exact hcopy _ (mem_copiedPaths.mpr (.inr ⟨entry, hentry, hnamed.2, rfl⟩)) kept hkept
  · exact hkept

theorem includeField_induct {P : Document → Prop}
    (hcopy : ∀ p ∈ copiedPaths flags, ∀ kept, P kept → P (copy p doc kept)) (key : String)
    {kept : Document} (hkept : P kept) : P (includeField flags doc kept key) := by
  unfold includeField
  split
  · rename_i hkey
    split
    · exact hkept
    · rename_i hid
      exact hcopy [key] (mem_copiedPaths.mpr (.inl ⟨hid, by rw [hkey]⟩)) kept hkept
  · exact copyFlagged_induct hcopy key hkept

/-- What the empty document has and every copy keeps, the row has. -/
theorem includeFields_induct {P : Document → Prop} (hempty : P [])
    (hcopy : ∀ p ∈ copiedPaths flags, ∀ kept, P kept → P (copy p doc kept)) :
    P (includeFields flags doc) :=
  List.foldlRecOn (motive := P) doc.keys _ hempty fun _ hkept key _ =>
    includeField_induct hcopy key hkept

/-- A value of a row, at a path that no copied one goes beyond, is in the document at the same
place, behind one of the copied paths. -/
theorem mem_flatten_includeFields {q : Path} (hq : q ≠ [])
    (hcopied : ∀ p ∈ copiedPaths flags, q <+: p → q = p) {v : Value}
    (hv : v ∈ flatten q (.object (includeFields flags doc))) :
    (∃ p ∈ copiedPaths flags, p <+: q) ∧ v ∈ flatten q (.object doc) := by
  let origin (kept : Document) : Prop := v ∈ flatten q (.object kept) →
    (∃ p ∈ copiedPaths flags, p <+: q) ∧ v ∈ flatten q (.object doc)
  have hrow : origin (includeFields flags doc) := by
    refine includeFields_induct (fun hempty => ?_) fun p hp kept hkept hcopy => ?_
    · rw [flatten_empty hq] at hempty
      cases hempty
    · rcases mem_flatten_copy (hcopied p hp) hcopy with hold | ⟨hpre, hnew⟩
      · exact hkept hold
      · exact ⟨⟨p, hp, hpre⟩, hnew⟩
  exact hrow hv

/-! ## Accepted inclusions -/

theorem included_of_firstExcluded? (h : firstExcluded? flags = none) :
    ∀ entry ∈ flags, entry.1 ≠ idField → entry.2 = .included := by
  intro entry hentry hfield
  have hfind := List.find?_eq_none.mp (Option.map_eq_none_iff.mp h) entry hentry
  cases hflag : entry.2 with
  | included => rfl
  | excluded => simp [hfield, hflag] at hfind

theorem exists_includedPaths (h : isInclusion flags = true) : ∃ p, p ∈ includedPaths flags := by
  obtain ⟨entry, hentry, htest⟩ := List.any_eq_true.mp h
  simp only [Bool.and_eq_true, beq_iff_eq] at htest
  exact ⟨_, List.mem_map.mpr ⟨entry, List.mem_filter.mpr ⟨hentry, by simpa using htest.2⟩, rfl⟩⟩

/-- An accepted inclusion copies `_id`, if it is not excluded, and included paths. -/
theorem included_of_mem_copiedPaths (h : firstExcluded? flags = none) {p : Path}
    (hp : p ∈ copiedPaths flags) :
    (flags.get? idField ≠ some .excluded ∧ p = [idField]) ∨ p ∈ includedPaths flags := by
  refine (mem_copiedPaths.mp hp).imp_right ?_
  rintro ⟨entry, hentry, hfield, rfl⟩
  have hflag := included_of_firstExcluded? h entry hentry hfield
  exact List.mem_map.mpr ⟨entry, List.mem_filter.mpr ⟨hentry, by simpa using hflag⟩, rfl⟩

/-- The row shows something at a path only if the path belongs to `_id` or overlaps an included
one. -/
theorem shown_of_flatten (hincl : isInclusion flags = true) (h : firstExcluded? flags = none)
    {q : Path} (hq : flatten q (.object (includeFields flags doc)) ≠ []) :
    (q.head? = some idField ∧ flags.get? idField ≠ some .excluded)
      ∨ ∃ p ∈ includedPaths flags, Overlap p q := by
  by_contra hnone
  simp only [not_or, not_and, not_exists] at hnone
  obtain ⟨hid, hpaths⟩ := hnone
  cases q with
  | nil =>
      obtain ⟨p, hp⟩ := exists_includedPaths hincl
      exact hpaths p hp (overlap_comm.mp (overlap_nil_left p))
  | cons name names =>
      have hapart : ∀ p ∈ copiedPaths flags, ¬Overlap p (name :: names) := by
        intro p hp hoverlap
        rcases included_of_mem_copiedPaths h hp with ⟨hkept, rfl⟩ | hp
        · obtain ⟨rfl, -⟩ := overlap_cons.mp hoverlap
          exact hid rfl hkept
        · exact hpaths p hp hoverlap
      obtain ⟨v, hv⟩ := List.exists_mem_of_ne_nil _ hq
      obtain ⟨⟨p, hp, hpre⟩, -⟩ := mem_flatten_includeFields (List.cons_ne_nil _ _)
        (fun p hp hpre => absurd (.inr hpre) (hapart p hp)) hv
      exact hapart p hp (.inl hpre)

/-- Where no included path is a prefix of another, the row shows at an included path, and below it,
what the document shows there. -/
theorem flatten_includeFields_subset (h : firstExcluded? flags = none)
    (hpaths : (includedPaths flags).Pairwise fun p q => ¬Overlap p q) {p : Path}
    (hp : p ∈ includedPaths flags) (rest : Path) :
    flatten (p ++ rest) (.object (includeFields flags doc))
      ⊆ flatten (p ++ rest) (.object doc) := by
  have hne : p ++ rest ≠ [] := by
    obtain ⟨entry, -, rfl⟩ := List.mem_map.mp hp
    simp [parse_ne_nil]
  intro v hv
  refine (mem_flatten_includeFields hne (fun p' hp' hpre => ?_) hv).2
  rcases included_of_mem_copiedPaths h hp' with ⟨-, rfl⟩ | hp'
  · have hone := hpre.length_le
    have hpos := List.length_pos_iff.mpr hne
    exact hpre.eq_of_length (Nat.le_antisymm hone hpos)
  · have hshort : p <+: p' := (List.prefix_append p rest).trans hpre
    have hsame : p = p' := by
      by_contra hother
      exact hpaths.forall hp hp' hother (.inl hshort)
    subst hsame
    exact (hpre.eq_of_length (Nat.le_antisymm hpre.length_le (by simp)))

/-- **Inclusion shows nothing else.** -/
theorem inclusion_shows_only [Filter.Engine] (s : Store) {flags : FieldMap Inclusion}
    (hincl : isInclusion flags = true) {docs : List Document} {out : List Value}
    (h : s.applyStage (.project flags) (docs.map .object) = .ok out) :
    ∃ rows : List Document, out = rows.map .object ∧ List.Forall₂ (fun (doc row : Document) =>
      (∀ q, flatten q (.object row) ≠ [] →
        (q.head? = some idField ∧ flags.get? idField ≠ some .excluded)
          ∨ ∃ p ∈ includedPaths flags, Overlap p q)
      ∧ ((includedPaths flags).Pairwise (fun p q => ¬Overlap p q) →
        ∀ p ∈ includedPaths flags, ∀ rest,
          flatten (p ++ rest) (.object row) ⊆ flatten (p ++ rest) (.object doc))) docs rows := by
  rw [applyStage, project, hincl, if_pos rfl] at h
  cases hfirst : firstExcluded? flags with
  | some field =>
      rw [hfirst] at h
      cases h
  | none =>
      rw [hfirst] at h
      obtain rfl := Except.ok.inj h
      refine ⟨docs.map (includeFields flags), ?_, ?_⟩
      · rw [List.map_map, List.map_map]
        rfl
      · refine List.forall₂_map_right_iff.mpr (List.forall₂_same.mpr fun doc _ => ⟨?_, ?_⟩)
        · exact fun q hq => shown_of_flatten hincl hfirst hq
        · exact fun hpaths p hp rest => flatten_includeFields_subset hfirst hpaths hp rest

/-- A document with more than is to be shown, in and beside an array. -/
def author : Document :=
  [("_id", .ofInt 1), ("name", .string "Ada"), ("password", .string "x"),
    ("posts", .array [.object [("title", .string "one"), ("draft", .bool true)], .ofInt 7,
      .array [.object [("title", .string "two")]], .object [("draft", .bool false)]])]

/-- A projection to names and titles. -/
def titleFlags : FieldMap Inclusion :=
  [("posts.title", .included), ("name", .included), ("_id", .excluded)]

/-- What it shows of the author. -/
def titleRow : Document :=
  [("name", .string "Ada"), ("posts", .array [.object [("title", .string "one")], .object []])]

attribute [local instance] Filter.regexEngine

theorem inclusion_shows_only_titles :
    isInclusion titleFlags = true ∧
    (⟨[]⟩ : Store).applyStage (.project titleFlags) [.object author] = .ok [.object titleRow] ∧
    ((includedPaths titleFlags).Pairwise fun p q => ¬Overlap p q) ∧
    (∀ q, flatten q (.object titleRow) ≠ [] → ∃ p ∈ includedPaths titleFlags, Overlap p q) ∧
    ∀ p ∈ includedPaths titleFlags, ∀ rest,
      flatten (p ++ rest) (.object titleRow) ⊆ flatten (p ++ rest) (.object author) := by
  have hincl : isInclusion titleFlags = true := by decide
  have hrow : (⟨[]⟩ : Store).applyStage (.project titleFlags) ([author].map .object)
      = .ok [.object titleRow] := by
    cbv
  have hpaths : (includedPaths titleFlags).Pairwise fun p q => ¬Overlap p q := by decide +kernel
  have hid : titleFlags.get? idField = some .excluded := by decide
  obtain ⟨rows, hrows, hshown⟩ := inclusion_shows_only ⟨[]⟩ hincl hrow
  cases hshown with
  | cons hfirst hrest =>
      cases hrest
      obtain rfl := Value.object.inj (List.cons.inj hrows).1
      refine ⟨hincl, hrow, hpaths, fun q hq => ?_, hfirst.2 hpaths⟩
      exact (hfirst.1 q hq).resolve_left fun hkept => hkept.2 hid

end DocQuery.Store
