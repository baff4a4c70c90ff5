import DocQuery.Path.Basic

/-!
# Names of a dotted path

A dotted name without a dot is a path of one name, and dots join paths: `parse (p ++ "." ++ q)` is
the path of `p` followed by the path of `q`. The names of a path hold no dots themselves, so each of
them is read back as the path of its own. Different texts are different paths (`parse_injective`).

Paths that do not overlap have a place where they part, and whatever is shown of them is shown along
the names before it (`not_overlap_induct`).
-/

namespace DocQuery.Path

/-- The text holds no dot, so it is one name of a path. -/
def Undotted (name : String) : Prop := '.' ∉ name.toList

instance (name : String) : Decidable (Undotted name) := by unfold Undotted; infer_instance

theorem cutAtDots_append (s t : List Char) :
    cutAtDots (s ++ '.' :: t) = cutAtDots s ++ cutAtDots t := by
  induction s with
  | nil => simp [cutAtDots]
  | cons c cs ih =>
      by_cases hc : c = '.'
      · simp [cutAtDots, hc, ih]
      · simp only [List.cons_append, cutAtDots, hc, if_false]
        rw [ih]
        cases h : cutAtDots cs with
        | nil => exact absurd h (cutAtDots_ne_nil cs)
        | cons piece rest => simp

theorem cutAtDots_of_not_mem {s : List Char} (h : '.' ∉ s) : cutAtDots s = [s] := by
  induction s with
  | nil => rfl
  | cons c cs ih =>
      simp only [List.mem_cons, not_or] at h
      simp [cutAtDots, Ne.symm h.1, ih h.2]

theorem not_mem_of_mem_cutAtDots {s piece : List Char} (h : piece ∈ cutAtDots s) :
    '.' ∉ piece := by
  induction s generalizing piece with
  | nil =>
      rw [cutAtDots, List.mem_singleton] at h
      simp [h]
  | cons c cs ih =>
      by_cases hc : c = '.'
      · simp only [cutAtDots, hc, if_true, List.mem_cons] at h
        rcases h with rfl | h
        · simp
        · exact ih h
      · simp only [cutAtDots, hc, if_false] at h
        cases hcut : cutAtDots cs with
        | nil => exact absurd hcut (cutAtDots_ne_nil cs)
        | cons first rest =>
            simp only [hcut, List.mem_cons] at h ih
            rcases h with rfl | h
            · simp [Ne.symm hc, ih (Or.inl rfl)]
            · exact ih (Or.inr h)

/-- A name without a dot is the path of that name. -/
theorem parse_of_undotted {name : String} (h : Undotted name) : parse name = [name] := by
  rw [parse, cutAtDots_of_not_mem h, List.map_singleton, String.ofList_toList]

theorem parse_append_dot (p q : String) : parse (p ++ "." ++ q) = parse p ++ parse q := by
  have hchars : (p ++ "." ++ q).toList = p.toList ++ '.' :: q.toList := by
    simp [String.toList_append]
  rw [parse, hchars, cutAtDots_append, List.map_append]
  rfl

theorem undotted_of_mem_parse {dotted name : String} (h : name ∈ parse dotted) :
    Undotted name := by
  obtain ⟨piece, hpiece, rfl⟩ := List.mem_map.mp h
  rw [Undotted, String.toList_ofList]
  exact not_mem_of_mem_cutAtDots hpiece

theorem undotted_first {dotted name : String} {rest : Path} (h : parse dotted = name :: rest) :
    Undotted name :=
  undotted_of_mem_parse (h ▸ List.mem_cons_self ..)

theorem undotted_second {dotted first name : String} {rest : Path}
    (h : parse dotted = first :: name :: rest) : Undotted name :=
  undotted_of_mem_parse (h ▸ List.mem_cons_of_mem first (List.mem_cons_self ..))

/-- Joining the pieces with dots gives the text back. -/
theorem intercalate_cutAtDots (s : List Char) : List.intercalate ['.'] (cutAtDots s) = s := by
  induction s with
  | nil => rfl
  | cons c cs ih =>
      obtain ⟨piece, rest, hcut⟩ := List.exists_cons_of_ne_nil (cutAtDots_ne_nil cs)
      rw [hcut] at ih
      by_cases hc : c = '.'
      · rw [cutAtDots, if_pos hc, hcut, List.intercalate_cons_cons, ih, hc]
        rfl
      · rw [cutAtDots, if_neg hc, hcut]
        cases rest with
        | nil => simpa using ih
        | cons next rest =>
            rw [List.intercalate_cons_cons] at ih ⊢
            simpa using ih

theorem parse_injective {p q : String} (h : parse p = parse q) : p = q := by
  have hcut : cutAtDots p.toList = cutAtDots q.toList :=
    (List.map_inj_right fun _ _ => String.ofList_injective).mp h
  rw [← String.toList_inj, ← intercalate_cutAtDots p.toList, hcut, intercalate_cutAtDots]

/-! ## Paths of one and two names -/

theorem parse_first {path name : String} {rest : Path} (h : parse path = name :: rest) :
    parse name = [name] :=
  parse_of_undotted (undotted_first h)

theorem eq_of_parse_singleton {path name : String} (h : parse path = [name]) : path = name :=
  parse_injective (h.trans (parse_first h).symm)

theorem ne_of_parse_pair {path parent child : String} (h : parse path = [parent, child]) :
    path ≠ parent := by
  rintro rfl
  rw [parse_first h] at h
  cases h

theorem parse_childPath {parent child : String} (hparent : Undotted parent)
    (hchild : Undotted child) : parse (parent ++ "." ++ child) = [parent, child] := by
  rw [parse_append_dot, parse_of_undotted hparent, parse_of_undotted hchild]
  rfl

/-- A path of two names is these with a dot between them. -/
theorem eq_of_parse_pair {path parent child : String} (h : parse path = [parent, child]) :
    path = parent ++ "." ++ child := by
  refine parse_injective (h.trans ?_)
  exact (parse_childPath (undotted_first h) (undotted_second h)).symm

theorem parse_dotted_ne_singleton (p q name : String) : parse (p ++ "." ++ q) ≠ [name] := by
  intro h
  have hlength := congrArg List.length h
  have hp := List.length_pos_iff.mpr (parse_ne_nil p)
  have hq := List.length_pos_iff.mpr (parse_ne_nil q)
  rw [parse_append_dot, List.length_append, List.length_singleton] at hlength
  omega

/-- There is one dot only in a path of two names. -/
theorem names_of_parse_dotted {p q first second : String}
    (h : parse (p ++ "." ++ q) = [first, second]) : p = first ∧ q = second := by
  have hfirst := parse_first h
  have hsecond := parse_of_undotted (undotted_second h)
  rw [parse_append_dot] at h
  rcases List.append_eq_cons_iff.mp h with ⟨hp, -⟩ | ⟨names, hp, hrest⟩
  · exact absurd hp (parse_ne_nil p)
  · rcases List.append_eq_cons_iff.mp hrest.symm with ⟨rfl, hq⟩ | ⟨names, rfl, hq⟩
    · exact ⟨parse_injective (hp.trans hfirst.symm), parse_injective (hq.trans hsecond.symm)⟩
    · have hnil := (List.append_eq_nil_iff.mp hq.symm).2
      exact absurd hnil (parse_ne_nil q)

/-! ## Paths that overlap -/

theorem overlap_nil_left (p : Path) : Overlap [] p := .inl List.nil_prefix

theorem overlap_comm {p q : Path} : Overlap p q ↔ Overlap q p := Or.comm

theorem overlap_cons {first other : String} {p q : Path} :
    Overlap (first :: p) (other :: q) ↔ first = other ∧ Overlap p q := by
  rw [Overlap, Overlap, List.cons_prefix_cons, List.cons_prefix_cons, eq_comm (a := other),
    ← and_or_left]

theorem ne_nil_of_not_overlap {p q : Path} (h : ¬Overlap p q) : p ≠ [] := by
  rintro rfl
  exact h (overlap_nil_left q)

instance : Std.Symm fun p q : Path => ¬Overlap p q := ⟨fun _ _ h => mt overlap_comm.mp h⟩

/-- Induction along two paths that do not overlap: they part at their first names, or share the
first name and do not overlap behind it. -/
@[elab_as_elim]
theorem not_overlap_induct {motive : (p q : Path) → ¬Overlap p q → Prop} {p q : Path}
    (h : ¬Overlap p q)
    (part : ∀ {name other : String} {p q : Path} (hname : name ≠ other),
      motive (name :: p) (other :: q) fun h => hname (overlap_cons.mp h).1)
    (share : ∀ {name : String} {p q : Path} (h : ¬Overlap p q), p ≠ [] → q ≠ [] → motive p q h →
      motive (name :: p) (name :: q) fun hmore => h (overlap_cons.mp hmore).2) :
    motive p q h := by
  induction p generalizing q with
  | nil => exact absurd (overlap_nil_left q) h
  | cons name p ih =>
      cases q with
      | nil => exact absurd (overlap_comm.mp (overlap_nil_left _)) h
      | cons other q =>
          by_cases hname : name = other
          · subst hname
            have hrest : ¬Overlap p q := fun hrest => h (overlap_cons.mpr ⟨rfl, hrest⟩)
            have hq : q ≠ [] := ne_nil_of_not_overlap (mt overlap_comm.mp hrest)
            exact share hrest (ne_nil_of_not_overlap hrest) hq (ih hrest)
          · exact part hname

end DocQuery.Path
