import DocQuery.Pattern
import DocQuery.Proofs.Outcome
import Mathlib.Data.Char
import Mathlib.Data.List.Sort

/-!
# Patterns as values

The options of a pattern are in order and stand once, so ordering them again changes nothing. A
pattern is therefore read back from its value as it is, if it was made by `Pattern.make`
(`ofValue?_of_make`).

Option letters are read one by one, up to the first that is no option (`readLetters`). Both this
reading and `Pattern.make` are decided by the two cases of `cases_letters`: all letters are options,
and the pattern holds each of them once (`make_of_all`), or there is a first one that is not, which
is named (`make_of_first`). So patterns are canonical: texts of the same letters make the same
pattern (`patterns_canonical`).
-/

namespace DocQuery.Pattern

variable {source options : String} {p : Pattern}

theorem mem_normalOptions {c : Char} {letters : List Char} :
    c ∈ normalOptions letters ↔ c ∈ optionLetters ∧ c ∈ letters := by
  rw [normalOptions, List.mem_filter, List.contains_iff_mem]

theorem normalOptions_normalOptions (letters : List Char) :
    normalOptions (normalOptions letters) = normalOptions letters := by
  refine List.filter_congr fun c hc => Bool.eq_iff_iff.mpr ?_
  rw [List.contains_iff_mem, List.contains_iff_mem, mem_normalOptions]
  exact and_iff_right hc

theorem make_of_all (h : ∀ c ∈ options.toList, c ∈ optionLetters) :
    make source options = .ok ⟨source, String.ofList (normalOptions options.toList)⟩ := by
  have hfind : options.toList.find? (fun c => !optionLetters.contains c) = none :=
    List.find?_eq_none.mpr fun c hc => by simpa using h c hc
  rw [make, hfind]

/-- A pattern that was made is made again of its own source and options. -/
theorem make_of_make (h : make source options = .ok p) : make p.source p.options = .ok p := by
  unfold make at h
  split at h
  · cases h
  · obtain rfl := Except.ok.inj h
    have hletters : ∀ c ∈ (String.ofList (normalOptions options.toList)).toList,
        c ∈ optionLetters := by
      rw [String.toList_ofList]
      exact fun c hc => (mem_normalOptions.mp hc).1
    rw [make_of_all hletters, String.toList_ofList, normalOptions_normalOptions]

theorem ofValue?_toValue (p : Pattern) : ofValue? p.toValue = some (make p.source p.options) := rfl

theorem ofValue?_of_make (h : make source options = .ok p) : ofValue? p.toValue = some (.ok p) := by
  rw [ofValue?_toValue, make_of_make h]

theorem serialized_eq_toValue (p : Pattern) : p.serialized = p.toValue := rfl

/-! ## Reading the letters -/

/-- The letters as they are read, behind those that were: a letter that came before is passed over,
and one that is no option ends the reading. -/
def readLetters (read : List Char) : List Char → Except BuildError (List Char)
  | [] => .ok read
  | c :: rest =>
    if c ∈ optionLetters then readLetters (if c ∈ read then read else read ++ [c]) rest
    else .error (.unknownPatternOption c)

/-- Either all letters are options, or there is a first one that is not. -/
theorem cases_letters (letters : List Char) :
    (∀ c ∈ letters, c ∈ optionLetters) ∨
      ∃ before c after, letters = before ++ c :: after ∧ (∀ d ∈ before, d ∈ optionLetters) ∧
        c ∉ optionLetters := by
  induction letters with
  | nil => exact .inl nofun
  | cons c rest ih =>
      by_cases hc : c ∈ optionLetters
      · rcases ih with hall | ⟨before, d, after, rfl, hbefore, hd⟩
        · exact .inl (List.forall_mem_cons.mpr ⟨hc, hall⟩)
        · exact .inr ⟨c :: before, d, after, rfl, List.forall_mem_cons.mpr ⟨hc, hbefore⟩, hd⟩
      · exact .inr ⟨[], c, rest, rfl, nofun, hc⟩

/-- Letters that are options are all read, each of them once. -/
theorem readLetters_of_all {read letters : List Char} (hread : read.Nodup)
    (h : ∀ c ∈ letters, c ∈ optionLetters) :
    ∃ all, readLetters read letters = .ok all ∧ all.Nodup ∧
      ∀ c, c ∈ all ↔ c ∈ read ∨ c ∈ letters := by
  induction letters generalizing read with
  | nil => exact ⟨read, rfl, hread, by simp⟩
  | cons c rest ih =>
      obtain ⟨hc, hrest⟩ := List.forall_mem_cons.mp h
      rw [readLetters, if_pos hc]
      by_cases hold : c ∈ read
      · rw [if_pos hold]
        obtain ⟨all, hall, hnodup, hmem⟩ := ih hread hrest
        refine ⟨all, hall, hnodup, fun d => ?_⟩
        rw [hmem, List.mem_cons, or_left_comm]
        exact (or_iff_right_of_imp fun heq => .inl (heq ▸ hold)).symm
      · rw [if_neg hold]
        have hmore : (read ++ [c]).Nodup :=
          List.nodup_append.mpr ⟨hread, List.nodup_singleton c,
            fun a ha b hb => by rintro rfl; exact hold (List.mem_singleton.mp hb ▸ ha)⟩
        obtain ⟨all, hall, hnodup, hmem⟩ := ih hmore hrest
        exact ⟨all, hall, hnodup, fun d => by
          rw [hmem, List.mem_append, List.mem_singleton, List.mem_cons, or_assoc]⟩

theorem readLetters_of_first {read before : List Char} {c : Char} (after : List Char)
    (hbefore : ∀ d ∈ before, d ∈ optionLetters) (hc : c ∉ optionLetters) :
    readLetters read (before ++ c :: after) = .error (.unknownPatternOption c) := by
  induction before generalizing read with
  | nil => exact if_neg hc
  | cons d rest ih =>
      obtain ⟨hd, hrest⟩ := List.forall_mem_cons.mp hbefore
      rw [List.cons_append, readLetters, if_pos hd]
      exact ih hrest

/-! ## Making a pattern -/

theorem make_of_first {before after : List Char} {c : Char}
    (h : options.toList = before ++ c :: after) (hbefore : ∀ d ∈ before, d ∈ optionLetters)
    (hc : c ∉ optionLetters) :
    make source options = .error (.unknownPatternOption c) := by
  have hfind : options.toList.find? (fun c => !optionLetters.contains c) = some c := by
    refine List.find?_eq_some_iff_append.mpr ⟨by simpa using hc, before, after, h, fun d hd => ?_⟩
    simpa using hbefore d hd
  rw [make, hfind]

/-- The options of a pattern are increasing. -/
theorem pairwise_normalOptions (letters : List Char) : (normalOptions letters).Pairwise (· < ·) :=
  List.Pairwise.sublist List.filter_sublist (by decide)

/-- Letters that stand once are put in order by sorting them. -/
theorem mergeSort_eq_normalOptions {all letters : List Char} (hall : all.Nodup)
    (h : ∀ c, c ∈ all ↔ c ∈ optionLetters ∧ c ∈ letters) :
    all.mergeSort (fun c d => decide (c ≤ d)) = normalOptions letters := by
  have hincreasing := pairwise_normalOptions letters
  have hnodup : (normalOptions letters).Nodup := hincreasing.imp fun hlt => ne_of_lt hlt
  -- Both lists are in order and hold the same letters once each, so they are equal.
  have hperm : (all.mergeSort fun c d => decide (c ≤ d)).Perm (normalOptions letters) :=
    (List.mergeSort_perm all _).trans <|
      (List.perm_ext_iff_of_nodup hall hnodup).mpr fun c => by rw [h, mem_normalOptions]
  exact hperm.eq_of_pairwise (fun c d _ _ => le_antisymm) (List.pairwise_mergeSort' (· ≤ ·) all)
    (hincreasing.imp le_of_lt)

/-- A pattern is made by reading the letters and sorting them. -/
theorem make_eq_read (source options : String) :
    make source options
      = (fun letters => ⟨source, String.ofList (letters.mergeSort fun c d => decide (c ≤ d))⟩)
          <$> readLetters [] options.toList := by
  rcases cases_letters options.toList with hall | ⟨before, c, after, hletters, hbefore, hc⟩
  · obtain ⟨all, hread, hnodup, hmem⟩ := readLetters_of_all List.nodup_nil hall
    have hletters : ∀ c, c ∈ all ↔ c ∈ optionLetters ∧ c ∈ options.toList := by
      intro c
      rw [hmem, or_iff_right List.not_mem_nil]
      exact (and_iff_right_of_imp (hall c)).symm
    have hsorted := mergeSort_eq_normalOptions hnodup hletters
    rw [make_of_all hall, hread, map_ok, hsorted]
  · rw [make_of_first hletters hbefore hc, hletters, readLetters_of_first after hbefore hc]
    rfl

/-- A pattern is refused if and only if some letter is no option, and the first such letter is
named. -/
theorem make_eq_error {e : BuildError} :
    make source options = .error e ↔
      ∃ before c after, options.toList = before ++ c :: after ∧ (∀ d ∈ before, d ∈ optionLetters) ∧
        c ∉ optionLetters ∧ e = .unknownPatternOption c := by
  constructor
  · intro h
    rcases cases_letters options.toList with hall | ⟨before, c, after, hletters, hbefore, hc⟩
    · rw [make_of_all hall] at h
      cases h
    · rw [make_of_first hletters hbefore hc] at h
      exact ⟨before, c, after, hletters, hbefore, hc, (Except.error.inj h).symm⟩
  · rintro ⟨before, c, after, hletters, hbefore, hc, rfl⟩
    exact make_of_first hletters hbefore hc

/-- Which letters there are decides, not how often or in which order. -/
theorem make_congr {others : String} (h : ∀ c, c ∈ others.toList ↔ c ∈ options.toList)
    (hall : ∀ c ∈ options.toList, c ∈ optionLetters) :
    make source others = make source options := by
  have hletters : normalOptions others.toList = normalOptions options.toList := by
    refine List.filter_congr fun c _ => Bool.eq_iff_iff.mpr ?_
    rw [List.contains_iff_mem, List.contains_iff_mem, h]
  rw [make_of_all hall, make_of_all fun c hc => hall c ((h c).mp hc), hletters]

/-- **Patterns are canonical.** A pattern is made by reading its letters one by one and sorting what
was read. It is refused if and only if some letter is no option, and then the first such letter is
named. Otherwise its options are the given letters, increasing; texts of the same letters make the
same pattern, and it is made again of its own source and options, and read back from its value,
which is also its serialized form. -/
theorem patterns_canonical (source options : String) :
    (make source options
      = (fun letters => ⟨source, String.ofList (letters.mergeSort fun c d => decide (c ≤ d))⟩)
          <$> readLetters [] options.toList) ∧
    (∀ e, make source options = .error e ↔
      ∃ before c after, options.toList = before ++ c :: after ∧ (∀ d ∈ before, d ∈ optionLetters) ∧
        c ∉ optionLetters ∧ e = .unknownPatternOption c) ∧
    ((∀ c ∈ options.toList, c ∈ optionLetters) →
      ∃ p, make source options = .ok p ∧ p.source = source ∧
        p.options.toList.Pairwise (· < ·) ∧ (∀ c, c ∈ p.options.toList ↔ c ∈ options.toList) ∧
        (∀ others : String, (∀ c, c ∈ others.toList ↔ c ∈ options.toList) →
          make source others = .ok p) ∧
        make p.source p.options = .ok p ∧ p.serialized = p.toValue ∧
        ofValue? p.toValue = some (.ok p)) := by
  refine ⟨make_eq_read source options, fun e => make_eq_error, fun hall => ?_⟩
  have hmake : make source options = .ok ⟨source, String.ofList (normalOptions options.toList)⟩ :=
    make_of_all hall
  refine ⟨_, hmake, rfl, ?_, fun c => ?_, fun others hothers => ?_, make_of_make hmake,
    serialized_eq_toValue _, ofValue?_of_make hmake⟩
  · rw [String.toList_ofList]
    exact pairwise_normalOptions options.toList
  · rw [String.toList_ofList, mem_normalOptions]
    exact and_iff_right_of_imp (hall c)
  · rw [make_congr hothers hall, hmake]

/-- Letters that are repeated and out of order. -/
theorem patterns_canonical_sii :
    (∀ c ∈ "sii".toList, c ∈ optionLetters) ∧
    make "^Al" "sii" = .ok ⟨"^Al", "is"⟩ ∧ make "^Al" "issi" = .ok ⟨"^Al", "is"⟩ ∧
    ofValue? (⟨"^Al", "is"⟩ : Pattern).toValue = some (.ok ⟨"^Al", "is"⟩) ∧
    make "^Al" "igs?" = .error (.unknownPatternOption 'g') := by
  have hall : ∀ c ∈ "sii".toList, c ∈ optionLetters := by simp [optionLetters]
  obtain ⟨-, -, hok⟩ := patterns_canonical "^Al" "sii"
  obtain ⟨p, hp, -, -, -, hothers, -, -, hback⟩ := hok hall
  obtain rfl : p = ⟨"^Al", "is"⟩ := Except.ok.inj (hp.symm.trans rfl)
  obtain ⟨-, herror, -⟩ := patterns_canonical "^Al" "igs?"
  refine ⟨hall, hp, hothers "issi" ?_, hback,
    (herror _).mpr ⟨['i'], 'g', ['s', '?'], rfl, ?_, ?_, rfl⟩⟩
  · intro c
    show c ∈ ['i', 's', 's', 'i'] ↔ c ∈ ['s', 'i', 'i']
    grind
  · simp [optionLetters]
  · decide

end DocQuery.Pattern
