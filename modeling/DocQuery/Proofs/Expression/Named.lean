import DocQuery.Proofs.Expression.Reads

/-!
# The names in an expression

A string of an expression names a field of the document (`$field`), a variable (`$$name`), or
nothing. `fieldsOf` and `variablesOf` list what the strings of an expression name. Two scopes agree
on such lists (`AgreeOn`) when their documents hold the same under the fields and the variables have
the same values. Binding a variable hides an outer one of that name and leaves the rest alone, so it
keeps the agreement whether or not the bound name is on the list (`keptByBinding_agreeOn`), and the
strings of the expression are all that is left to compare (`eval_of_agreeOn`).

The variables `ROOT` and `CURRENT` stand for the document itself. To agree on one of them is to have
equal documents.
-/

namespace DocQuery.Expression

/-! ## Names -/

/-- The field that a string names, the first one of its path. -/
def fieldOfText? (text : String) : Option String :=
  match text.toList with
  | '$' :: '$' :: _ => none
  | '$' :: field => some (Path.head (String.ofList field))
  | _ => none

/-- The variable that a string names. -/
def variableOfText? (text : String) : Option String :=
  match text.toList with
  | '$' :: '$' :: name => some (Path.head (String.ofList name))
  | _ => none

/-- The fields of the document that an expression names. -/
def fieldsOf (e : Value) : List String := (texts e).filterMap fieldOfText?

/-- The variables that an expression names. -/
def variablesOf (e : Value) : List String := (texts e).filterMap variableOfText?

/-! ## Agreement -/

/-- The documents hold the same under the fields, and the variables have the same values. -/
structure AgreeOn (fields names : List String) (scope scope' : Scope) : Prop where
  documents : ∃ doc doc' : Document, scope.root = .object doc ∧ scope'.root = .object doc' ∧
    ∀ field ∈ fields, doc.get? field = doc'.get? field
  values : ∀ name ∈ names, scope.lookup? name = scope'.lookup? name

variable {fields names : List String}

theorem lookup?_bind_self {scope : Scope} {name : String} (h : ¬(name = "ROOT" ∨ name = "CURRENT"))
    (value : Value) : (scope.bind name value).lookup? name = some value := by
  rw [Scope.lookup?, if_neg h, Scope.bind, List.lookup_cons_self]

theorem lookup?_bind_of_ne {scope : Scope} {name bound : String} (h : name ≠ bound)
    (value : Value) :
    (scope.bind bound value).lookup? name = scope.lookup? name := by
  have hbeq : (name == bound) = false := beq_eq_false_iff_ne.mpr h
  simp only [Scope.lookup?, Scope.bind, List.lookup_cons, hbeq]

theorem lookup?_document {name : String} (h : name = "ROOT" ∨ name = "CURRENT") (scope : Scope) :
    scope.lookup? name = some scope.root := by
  rw [Scope.lookup?, if_pos h]

/-- The hidden variables are those of one name, and they are hidden in both scopes. -/
theorem keptByBinding_agreeOn (fields names : List String) :
    KeptByBinding (AgreeOn fields names) := by
  intro scope scope' hscope bound value
  refine ⟨hscope.documents, ?_⟩
  intro name hname
  have hagree := hscope.values name hname
  by_cases hdocument : name = "ROOT" ∨ name = "CURRENT"
  · rw [lookup?_document hdocument] at hagree ⊢
    rw [lookup?_document hdocument] at hagree ⊢
    exact hagree
  · by_cases hbound : name = bound
    · subst hbound
      rw [lookup?_bind_self hdocument, lookup?_bind_self hdocument]
    · rw [lookup?_bind_of_ne hbound, lookup?_bind_of_ne hbound]
      exact hagree

/-- A string has the same value where what it names is the same. -/
theorem readString_of_agreeOn {scope scope' : Scope} (hscope : AgreeOn fields names scope scope')
    {text : String} (hfield : ∀ field, fieldOfText? text = some field → field ∈ fields)
    (hvariable : ∀ name, variableOfText? text = some name → name ∈ names) :
    readString scope text = readString scope' text := by
  unfold readString
  split
  · rename_i name htext
    obtain ⟨head, rest, hpath⟩ :=
      List.exists_cons_of_ne_nil (Path.parse_ne_nil (String.ofList name))
    have hhead : variableOfText? text = some head := by
      simp only [variableOfText?, htext, Path.head, hpath, List.headD_cons]
    simp only [hpath, hscope.values head (hvariable head hhead)]
  · rename_i field hnot htext
    obtain ⟨doc, doc', hroot, hroot', hagree⟩ := hscope.documents
    have hhead : fieldOfText? text = some (Path.head (String.ofList field)) := by
      simp only [fieldOfText?, htext]
    rw [hroot, hroot', Path.resolve_of_get?_head (hagree _ (hfield _ hhead))]
  · rfl

/-- Scopes that agree on what an expression names give it the same outcome. -/
theorem eval_of_agreeOn {e : Value} {scope scope' : Scope}
    (h : AgreeOn (fieldsOf e) (variablesOf e) scope scope') : eval scope e = eval scope' e := by
  have halike : AlikeIn (AgreeOn (fieldsOf e) (variablesOf e)) e := by
    refine alike_of_texts (keptByBinding_agreeOn _ _) ?_
    intro text htext inner inner' hinner
    rw [eval_string, eval_string]
    refine congrArg Except.ok (readString_of_agreeOn hinner ?_ ?_)
    · intro field hfield
      exact List.mem_filterMap.mpr ⟨text, htext, hfield⟩
    · intro name hname
      exact List.mem_filterMap.mpr ⟨text, htext, hname⟩
  exact halike h

end DocQuery.Expression
