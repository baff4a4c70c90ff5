import DocQuery.Proofs.Expression.Evaluate
import DocQuery.Proofs.Path.Readings

/-!
# What an expression reads

An expression reads its scope through its strings only (`alike_of_texts`): `$field` reads one field,
`$$ROOT` and `$$CURRENT` the document as a whole, any other variable what was bound to it. The
evaluation of an operator is followed once (`alike_call`): it looks at its argument, at the items of
its argument and at the parts of its argument, and at nothing else.

An expression that avoids some fields (`avoids`) therefore has the same value, or the same error, on
documents that differ in these fields alone (`alike_of_avoids`).
-/

namespace DocQuery.Expression

/-! ## Avoiding fields -/

/-- The variables that name the document. -/
def documentNames : List String := ["ROOT", "CURRENT"]

/-- Whether the string reads neither the document as a whole nor one of the named fields. -/
def avoidsText (names : List String) (text : String) : Bool :=
  match text.toList with
  | '$' :: '$' :: name => Path.head (String.ofList name) ∉ documentNames
  | '$' :: field => Path.head (String.ofList field) ∉ names
  | _ => true

/-- Whether an object stands for the argument of its one key, unevaluated. -/
def isLiteral : Document → Bool
  | [(key, _)] => key = "$literal"
  | _ => false

mutual

/-- Whether no string that an expression evaluates reads the document or one of the named fields. -/
def avoids (names : List String) : Value → Bool
  | .string text => avoidsText names text
  | .array items => avoidsItems names items
  | .object fields => isLiteral fields || avoidsFields names fields
  | _ => true
termination_by structural e => e

/-- Whether all items avoid the fields. -/
def avoidsItems (names : List String) : List Value → Bool
  | [] => true
  | item :: rest => avoids names item && avoidsItems names rest
termination_by structural items => items

/-- Whether all values avoid the fields. -/
def avoidsFields (names : List String) : List (String × Value) → Bool
  | [] => true
  | (_, value) :: rest => avoids names value && avoidsFields names rest
termination_by structural fields => fields

end

variable {names : List String}

theorem name_of_isLiteral {fields : Document} (h : isLiteral fields = true)
    {entry : String × Value} (hmem : entry ∈ fields) : entry.1 = "$literal" := by
  cases fields with
  | nil => cases hmem
  | cons first rest =>
      cases rest with
      | nil =>
          obtain rfl := List.mem_singleton.mp hmem
          exact of_decide_eq_true h
      | cons next rest => cases h

/-! ## The strings of an expression -/

mutual

/-- The strings that an expression evaluates. -/
def texts : Value → List String
  | .string text => [text]
  | .array items => textsOfItems items
  | .object fields => if isLiteral fields then [] else textsOfFields fields
  | _ => []
termination_by structural e => e

/-- The strings of a list of expressions. -/
def textsOfItems : List Value → List String
  | [] => []
  | item :: rest => texts item ++ textsOfItems rest
termination_by structural items => items

/-- The strings of the values of an object. -/
def textsOfFields : List (String × Value) → List String
  | [] => []
  | (_, value) :: rest => texts value ++ textsOfFields rest
termination_by structural fields => fields

end

/-! ## Alike in related scopes -/

/-- Binding a value in both scopes keeps them related. -/
def KeptByBinding (R : Scope → Scope → Prop) : Prop :=
  ∀ ⦃scope scope' : Scope⦄, R scope scope' → ∀ name value,
    R (scope.bind name value) (scope'.bind name value)

/-- The expression has the same outcome in all scopes that are related. -/
def AlikeIn (R : Scope → Scope → Prop) (e : Value) : Prop :=
  ∀ ⦃scope scope' : Scope⦄, R scope scope' → eval scope e = eval scope' e

/-- The argument of an operator is alike, with its items and its parts, none of which is named as
the operator that leaves its argument as it is. -/
structure PartsAlikeIn (R : Scope → Scope → Prop) (arg : Value) : Prop where
  whole : AlikeIn R arg
  items : ∀ items, arg = .array items → ∀ item ∈ items, AlikeIn R item
  fields : ∀ fields, arg = .object fields → ∀ entry ∈ fields, entry.1 ≠ "$literal" →
    AlikeIn R entry.2

section Related

variable {R : Scope → Scope → Prop} {scope scope' : Scope}

theorem evalItems_alike {items : List Value} (h : ∀ item ∈ items, AlikeIn R item)
    (hscope : R scope scope') : evalItems scope items = evalItems scope' items := by
  induction items with
  | nil => rfl
  | cons item rest ih =>
      rw [evalItems, evalItems, h item (List.mem_cons_self ..) hscope,
        ih fun other hother => h other (List.mem_cons_of_mem _ hother)]

theorem evalFields_alike {fields : List (String × Value)} (h : ∀ entry ∈ fields, AlikeIn R entry.2)
    (hscope : R scope scope') : evalFields scope fields = evalFields scope' fields := by
  induction fields with
  | nil => rfl
  | cons entry rest ih =>
      obtain ⟨k, v⟩ := entry
      rw [evalFields, evalFields, h (k, v) (List.mem_cons_self ..) hscope,
        ih fun other hother => h other (List.mem_cons_of_mem _ hother)]

theorem evalField?_alike {fields : List (String × Value)} {key : String}
    (h : ∀ entry ∈ fields, entry.1 = key → AlikeIn R entry.2) (hscope : R scope scope') :
    evalField? scope key fields = evalField? scope' key fields := by
  induction fields with
  | nil => rfl
  | cons entry rest ih =>
      obtain ⟨k, v⟩ := entry
      rw [evalField?, evalField?, ih fun other hother => h other (List.mem_cons_of_mem _ hother)]
      by_cases hk : k = key
      · rw [if_pos hk, if_pos hk, h (k, v) (List.mem_cons_self ..) hk hscope]
      · rw [if_neg hk, if_neg hk]

theorem evalIfNull_alike {items : List Value} (h : ∀ item ∈ items, AlikeIn R item)
    (hscope : R scope scope') (key : String) :
    evalIfNull scope key items = evalIfNull scope' key items := by
  induction items with
  | nil => rfl
  | cons item rest ih =>
      have hrest := ih fun other hother => h other (List.mem_cons_of_mem _ hother)
      have hitem := h item (List.mem_cons_self ..) hscope
      cases rest with
      | nil => rw [evalIfNull, evalIfNull, hitem]
      | cons next rest =>
          show (eval scope item >>= _) = eval scope' item >>= _
          simp only [hitem, hrest]

theorem evalUntilNull_alike {items : List Value} (h : ∀ item ∈ items, AlikeIn R item)
    (hscope : R scope scope') (check : Value → Except StoreError Unit) :
    evalUntilNull scope check items = evalUntilNull scope' check items := by
  induction items with
  | nil => rfl
  | cons item rest ih =>
      rw [evalUntilNull, evalUntilNull, h item (List.mem_cons_self ..) hscope,
        ih fun other hother => h other (List.mem_cons_of_mem _ hother)]

theorem evalConnective_alike {items : List Value} (h : ∀ item ∈ items, AlikeIn R item)
    (hscope : R scope scope') (wantAll : Bool) :
    evalConnective scope wantAll items = evalConnective scope' wantAll items := by
  induction items with
  | nil => rfl
  | cons item rest ih =>
      rw [evalConnective, evalConnective, h item (List.mem_cons_self ..) hscope,
        ih fun other hother => h other (List.mem_cons_of_mem _ hother)]

variable {arg : Value}

theorem PartsAlikeIn.field {spec : Document} (h : PartsAlikeIn R (.object spec))
    (hscope : R scope scope') (key : String) (hkey : key ≠ "$literal") :
    evalField? scope key spec = evalField? scope' key spec :=
  evalField?_alike (fun entry hmem hname => h.fields spec rfl entry hmem (hname ▸ hkey)) hscope

theorem evalPair_alike (h : PartsAlikeIn R arg) (hscope : R scope scope') (key : String) :
    evalPair scope key arg = evalPair scope' key arg := by
  unfold evalPair
  split
  · rename_i first second
    rw [h.items _ rfl first (by simp) hscope, h.items _ rfl second (by simp) hscope]
  · rfl

theorem evalCond_alike (h : PartsAlikeIn R arg) (hscope : R scope scope') (key : String) :
    evalCond scope key arg = evalCond scope' key arg := by
  unfold evalCond
  split
  · rename_i test yes no
    rw [h.items _ rfl test (by simp) hscope, h.items _ rfl yes (by simp) hscope,
      h.items _ rfl no (by simp) hscope]
  · have htest := h.field hscope "if" (by decide)
    have hyes := h.field hscope "then" (by decide)
    have hno := h.field hscope "else" (by decide)
    simp only [htest, hyes, hno]
  · rfl

/-- The value of an argument that may be put into brackets. -/
theorem evalBracketed_alike (h : PartsAlikeIn R arg) (hscope : R scope scope') :
    (match (motive := Value → Except StoreError (Option Value)) arg with
      | .array [item] => eval scope item
      | other => eval scope other)
      = match (motive := Value → Except StoreError (Option Value)) arg with
        | .array [item] => eval scope' item
        | other => eval scope' other := by
  split
  · rename_i item
    exact h.items _ rfl item (by simp) hscope
  · exact h.whole hscope

/-! The two operators that bind a variable: their bodies are evaluated in scopes that are related
still. -/

theorem evalMap_alike (hR : KeptByBinding R) (h : PartsAlikeIn R arg) (hscope : R scope scope')
    (key : String) : evalMap scope key arg = evalMap scope' key arg := by
  cases arg with
  | object spec =>
      have hinput := h.field hscope "input" (by decide)
      have hbody := fun name item => h.field (hR hscope name item) "in" (by decide)
      simp only [evalMap, hinput, hbody]
  | _ => rfl

theorem evalFilter_alike (hR : KeptByBinding R) (h : PartsAlikeIn R arg) (hscope : R scope scope')
    (key : String) : evalFilter scope key arg = evalFilter scope' key arg := by
  cases arg with
  | object spec =>
      have hinput := h.field hscope "input" (by decide)
      have hcond := fun name item => h.field (hR hscope name item) "cond" (by decide)
      simp only [evalFilter, hinput, hcond]
  | _ => rfl

theorem alike_call (hR : KeptByBinding R) (key : String) (h : PartsAlikeIn R arg) :
    AlikeIn R (.object [(key, arg)]) := by
  intro scope scope' hscope
  have hwhole := h.whole hscope
  have hpair := evalPair_alike h hscope
  rw [eval.eq_def, eval.eq_def]
  simp only
  split
  · cases Operator.ofKey? key with
    | none => rfl
    | some operator =>
        cases operator with
        | literal => rfl
        | map => exact evalMap_alike hR h hscope key
        | filter => exact evalFilter_alike hR h hscope key
        | elementAt => simp only [hpair]
        | mergeObjects =>
            cases arg with
            | array items => simp only [evalItems_alike (h.items items rfl) hscope]
            | _ => simp only [hwhole]
        | cond => exact evalCond_alike h hscope key
        | ifNull =>
            cases arg with
            | array items => exact evalIfNull_alike (h.items items rfl) hscope key
            | _ => rfl
        | typeOf => exact congrArg (· >>= _) (evalBracketed_alike h hscope)
        | compare c => simp only [hpair]
        | isIn => simp only [hpair]
        | arithmetic a =>
            cases arg with
            | array items => simp only [evalUntilNull_alike (h.items items rfl) hscope]
            | _ => rfl
        | concat =>
            cases arg with
            | array items => simp only [evalUntilNull_alike (h.items items rfl) hscope]
            | _ => rfl
        | all =>
            cases arg with
            | array items => simp only [evalConnective_alike (h.items items rfl) hscope]
            | _ => rfl
        | any =>
            cases arg with
            | array items => simp only [evalConnective_alike (h.items items rfl) hscope]
            | _ => rfl
        | not => exact congrArg (· >>= _) (evalBracketed_alike h hscope)
        | size => exact congrArg (· >>= _) (evalBracketed_alike h hscope)
  · rw [hwhole]

mutual

theorem partsAlike_of_texts (hR : KeptByBinding R) :
    (e : Value) → (∀ text ∈ texts e, AlikeIn R (.string text)) → PartsAlikeIn R e
  | .null, _ => ⟨fun _ _ _ => rfl, nofun, nofun⟩
  | .bool _, _ => ⟨fun _ _ _ => rfl, nofun, nofun⟩
  | .number _, _ => ⟨fun _ _ _ => rfl, nofun, nofun⟩
  | .string text, h => ⟨h text (List.mem_singleton_self text), nofun, nofun⟩
  | .array items, h => by
      have hitems := alike_of_mem_items hR items h
      refine ⟨fun scope scope' hscope => ?_, fun _ heq => Value.array.inj heq ▸ hitems, nofun⟩
      rw [eval, eval, evalItems_alike hitems hscope]
  | .object [], _ => ⟨fun _ _ _ => rfl, nofun, fun _ heq => by cases heq; nofun⟩
  | .object [(key, arg)], h => by
      by_cases hliteral : isLiteral [(key, arg)] = true
      · obtain rfl : key = "$literal" := of_decide_eq_true hliteral
        refine ⟨fun _ _ _ => rfl, nofun, fun fields heq entry hmem hname => ?_⟩
        obtain rfl := Value.object.inj heq
        exact absurd (name_of_isLiteral hliteral hmem) hname
      · rw [texts, if_neg hliteral, textsOfFields, textsOfFields, List.append_nil] at h
        have harg := partsAlike_of_texts hR arg h
        refine ⟨alike_call hR key harg, nofun, fun fields heq entry hmem _ => ?_⟩
        obtain rfl := Value.object.inj heq
        obtain rfl := List.mem_singleton.mp hmem
        exact harg.whole
  | .object (first :: next :: rest), h => by
      have hfields := alike_of_mem_fields hR (first :: next :: rest) h
      refine ⟨fun scope scope' hscope => ?_, nofun, fun fields heq entry hmem _ => ?_⟩
      · have heval (scope : Scope) : eval scope (.object (first :: next :: rest))
            = (evalFields scope (first :: next :: rest) >>= fun fields =>
                .ok (some (.object fields))) := rfl
        rw [heval, heval, evalFields_alike hfields hscope]
      · obtain rfl := Value.object.inj heq
        exact hfields entry hmem

theorem alike_of_mem_items (hR : KeptByBinding R) : (items : List Value) →
    (∀ text ∈ textsOfItems items, AlikeIn R (.string text)) → ∀ item ∈ items, AlikeIn R item
  | [], _ => nofun
  | first :: rest, h => by
      rw [textsOfItems, List.forall_mem_append] at h
      have hfirst := partsAlike_of_texts hR first h.1
      intro item hmem
      rcases List.mem_cons.mp hmem with rfl | hmem
      · exact hfirst.whole
      · exact alike_of_mem_items hR rest h.2 item hmem

theorem alike_of_mem_fields (hR : KeptByBinding R) : (fields : List (String × Value)) →
    (∀ text ∈ textsOfFields fields, AlikeIn R (.string text)) → ∀ entry ∈ fields, AlikeIn R entry.2
  | [], _ => nofun
  | (_, first) :: rest, h => by
      rw [textsOfFields, List.forall_mem_append] at h
      have hfirst := partsAlike_of_texts hR first h.1
      intro entry hmem
      rcases List.mem_cons.mp hmem with rfl | hmem
      · exact hfirst.whole
      · exact alike_of_mem_fields hR rest h.2 entry hmem

end

/-- Scopes in which all its strings have the same value give an expression the same outcome. -/
theorem alike_of_texts (hR : KeptByBinding R) {e : Value}
    (h : ∀ text ∈ texts e, AlikeIn R (.string text)) : AlikeIn R e :=
  (partsAlike_of_texts hR e h).whole

end Related

/-! ## Documents that differ in the avoided fields -/

variable {doc doc' : Document}

theorem resolve_of_head (hdocs : doc.outside names = doc'.outside names) {dotted : String}
    (h : Path.head dotted ∉ names) :
    Path.resolve (Path.parse dotted) (.object doc)
      = Path.resolve (Path.parse dotted) (.object doc') :=
  Path.resolve_of_get?_head (FieldMap.get?_eq_of_outside_eq hdocs h)

theorem readString_of_avoids (hdocs : doc.outside names = doc'.outside names) {text : String}
    (h : avoidsText names text = true) (bindings : List (String × Value)) :
    readString ⟨.object doc, bindings⟩ text = readString ⟨.object doc', bindings⟩ text := by
  unfold avoidsText at h
  split at h
  · rename_i name htext
    simp only [decide_eq_true_eq, Path.head, documentNames, List.mem_cons, List.not_mem_nil,
      or_false] at h
    simp only [readString, htext]
    cases hpath : Path.parse (String.ofList name) with
    | nil => rfl
    | cons variableName rest =>
        rw [hpath] at h
        have hname : ¬(variableName = "ROOT" ∨ variableName = "CURRENT") := h
        simp only [Scope.lookup?, if_neg hname]
  · rename_i field _ htext
    have hresolve := resolve_of_head hdocs (of_decide_eq_true h)
    simp only [readString, htext, hresolve]
  · rename_i hvariable hfield
    unfold readString
    split
    · rename_i name htext
      exact absurd htext (hvariable name)
    · rename_i field _ htext
      exact absurd htext (hfield field)
    · rfl

mutual

theorem avoids_iff_texts : (e : Value) →
    (avoids names e = true ↔ ∀ text ∈ texts e, avoidsText names text = true)
  | .null => iff_of_true rfl nofun
  | .bool _ => iff_of_true rfl nofun
  | .number _ => iff_of_true rfl nofun
  | .string text => by rw [avoids, texts, List.forall_mem_singleton]
  | .array items => avoidsItems_iff_texts items
  | .object fields => by
      rw [avoids, texts, Bool.or_eq_true, avoidsFields_iff_texts fields]
      by_cases hliteral : isLiteral fields = true
      · rw [if_pos hliteral]
        exact iff_of_true (.inl hliteral) nofun
      · rw [if_neg hliteral, or_iff_right hliteral]

theorem avoidsItems_iff_texts : (items : List Value) →
    (avoidsItems names items = true ↔ ∀ text ∈ textsOfItems items, avoidsText names text = true)
  | [] => iff_of_true rfl nofun
  | item :: rest => by
      rw [avoidsItems, textsOfItems, Bool.and_eq_true, List.forall_mem_append,
        avoids_iff_texts item, avoidsItems_iff_texts rest]

theorem avoidsFields_iff_texts : (fields : List (String × Value)) →
    (avoidsFields names fields = true ↔ ∀ text ∈ textsOfFields fields, avoidsText names text = true)
  | [] => iff_of_true rfl nofun
  | (_, value) :: rest => by
      rw [avoidsFields, textsOfFields, Bool.and_eq_true, List.forall_mem_append,
        avoids_iff_texts value, avoidsFields_iff_texts rest]

end

/-- The expression has the same outcome on two documents, whatever is bound. -/
def Alike (root root' e : Value) : Prop :=
  ∀ bindings, eval ⟨root, bindings⟩ e = eval ⟨root', bindings⟩ e

/-- Documents that differ in avoided fields alone give an expression the same outcome. -/
theorem alike_of_avoids (hdocs : doc.outside names = doc'.outside names) {e : Value}
    (h : avoids names e = true) : Alike (.object doc) (.object doc') e := by
  let R (scope scope' : Scope) : Prop :=
    ∃ bindings, scope = ⟨.object doc, bindings⟩ ∧ scope' = ⟨.object doc', bindings⟩
  have hR : KeptByBinding R := by
    rintro _ _ ⟨bindings, rfl, rfl⟩ name value
    exact ⟨(name, value) :: bindings, rfl, rfl⟩
  have halike : AlikeIn R e := by
    refine alike_of_texts hR fun text htext => ?_
    rintro _ _ ⟨bindings, rfl, rfl⟩
    have havoids := (avoids_iff_texts e).mp h text htext
    rw [eval_string, eval_string, readString_of_avoids hdocs havoids]
  exact fun bindings => halike ⟨bindings, rfl, rfl⟩

end DocQuery.Expression
