import DocQuery.Proofs.Ordering
import DocQuery.Proofs.Outcome
import DocQuery.Proofs.Text.Words

/-!
# Shapes of selections and orderings

The fields of a selection, and those to sort by, can be given in several shapes: as a text of
tokens, as a list of them, each of these also as a value, and the fields to sort by also as pairs or
as an object of directions. `Selection.Writes` and `SortSpec.Writes` list the shapes in which given
entries can be written. An entry is a field with a mark, which is the minus sign of a token.

Whatever the shape, the entries come out of it as they were written (`Selection.Writes.eq_ok`,
`SortSpec.Writes.exists_ok`): a text is cut into its tokens, and a token is taken apart into the
field and the mark that it is made of (`splitMinus_token`). So all shapes compile to the map that
collects the entries.
-/

namespace DocQuery

/-- A field and whether it is marked: excluded from a selection, or sorted in descending order. -/
abbrev Marked := String × Bool

namespace Marked

variable {entry : Marked}

/-- The token of an entry, with a minus sign in front of a marked field. -/
def token (entry : Marked) : String := if entry.2 then "-" ++ entry.1 else entry.1

/-- The field can be written in a token: it is a word without a minus sign in front. -/
def Writable (entry : Marked) : Prop :=
  Text.IsWord entry.1.toList ∧ entry.1.toList.head? ≠ some '-'

instance (entry : Marked) : Decidable entry.Writable := inferInstanceAs (Decidable (_ ∧ _))

theorem toList_token_marked (field : String) :
    (token (field, true)).toList = '-' :: field.toList := by
  show ("-" ++ field).toList = _
  simp [String.toList_append]

theorem isWord_token (h : entry.Writable) : Text.IsWord entry.token.toList := by
  obtain ⟨field, marked⟩ := entry
  cases marked with
  | false => exact h.1
  | true =>
      rw [toList_token_marked]
      exact ⟨List.cons_ne_nil _ _, List.forall_mem_cons.mpr ⟨by decide, h.1.2⟩⟩

/-- A token is taken apart into what it is made of. -/
theorem splitMinus_token (h : entry.Writable) : splitMinus entry.token = (entry.2, entry.1) := by
  obtain ⟨field, marked⟩ := entry
  rw [splitMinus]
  cases marked with
  | true =>
      rw [toList_token_marked]
      exact congrArg _ String.ofList_toList
  | false =>
      split
      · rename_i hchars
        exact absurd (congrArg List.head? hchars) h.2
      · rfl

theorem field_ne_empty (h : entry.Writable) : entry.1 ≠ "" := by
  intro hempty
  exact h.1.1 (by rw [hempty]; rfl)

/-- Fields that can be written are named, so no entry is dropped. -/
theorem filter_named {α : Type} {entries : List Marked} (h : ∀ entry ∈ entries, entry.Writable)
    (f : Bool → α) :
    (FieldMap.mapValues f entries).filter (fun entry => entry.1 ≠ "")
      = FieldMap.mapValues f entries := by
  refine List.filter_eq_self.mpr fun entry hentry => ?_
  obtain ⟨marked, hmarked, rfl⟩ := List.mem_map.mp hentry
  exact decide_eq_true (field_ne_empty (h marked hmarked))

end Marked

variable {entries : List Marked}

theorem stringsOf_strings (refuse : Value → BuildError) (tokens : List String) :
    stringsOf refuse (tokens.map Value.string) = .ok tokens := by
  rw [stringsOf, List.mapM_map]
  exact (mapM_of_ok fun token _ => rfl).trans (by rw [List.map_id'])

/-- A text of the tokens of entries is cut into these. -/
theorem words_of_tokens (hentries : ∀ entry ∈ entries, entry.Writable) {text : String}
    (h : Text.Spaced (entries.map fun entry => entry.token.toList) text.toList) :
    Text.words text = entries.map Marked.token := by
  refine Text.words_of_spaced (by rwa [List.map_map]) fun token htoken => ?_
  obtain ⟨entry, hentry, rfl⟩ := List.mem_map.mp htoken
  exact Marked.isWord_token (hentries entry hentry)

/-! ## Selections -/

/-- Whether a projection keeps a field, by its mark. -/
def Inclusion.ofMark (marked : Bool) : Inclusion := if marked then .excluded else .included

namespace Selection

/-- The inputs of a selection that write the entries. -/
inductive Writes (entries : List Marked) : Except BuildError Selection → Prop
  | text {text : String}
      (h : Text.Spaced (entries.map fun entry => entry.token.toList) text.toList) :
      Writes entries (.ok (ofText text))
  | list : Writes entries (.ok ⟨entries.map Marked.token⟩)
  | textValue {text : String}
      (h : Text.Spaced (entries.map fun entry => entry.token.toList) text.toList) :
      Writes entries (ofValue (.string text))
  | listValue : Writes entries (ofValue (.array ((entries.map Marked.token).map Value.string)))

theorem Writes.eq_ok {input : Except BuildError Selection} (h : Writes entries input)
    (hentries : ∀ entry ∈ entries, entry.Writable) : input = .ok ⟨entries.map Marked.token⟩ := by
  cases h with
  | text htext => rw [ofText, words_of_tokens hentries htext]
  | list => rfl
  | textValue htext => rw [ofValue, ofText, words_of_tokens hentries htext]
  | listValue => rw [ofValue, stringsOf_strings, map_ok]

theorem flagOf_token {entry : Marked} (h : entry.Writable) :
    flagOf entry.token = (entry.1, Inclusion.ofMark entry.2) := by
  rw [flagOf, Marked.splitMinus_token h]
  obtain ⟨field, marked⟩ := entry
  cases marked <;> rfl

theorem compile_tokens (hentries : ∀ entry ∈ entries, entry.Writable) :
    compile ⟨entries.map Marked.token⟩ = (FieldMap.collect entries).mapValues Inclusion.ofMark := by
  have hflags : (entries.map Marked.token).map flagOf
      = FieldMap.mapValues Inclusion.ofMark entries := by
    rw [List.map_map]
    exact List.map_congr_left fun entry hentry => flagOf_token (hentries entry hentry)
  rw [compile, hflags, Marked.filter_named hentries, FieldMap.mapValues_collect]

end Selection

/-! ## Orderings -/

namespace Direction

/-- The direction of a field, by its mark. -/
def ofMark (marked : Bool) : Direction := if marked then .descending else .ascending

/-- The values that stand for a direction: a number or a name. -/
def Spelled (d : Direction) (v : Value) : Prop := v = d.toValue ∨ v = .string d.name

theorem ofValue?_of_spelled {d : Direction} {v : Value} (h : d.Spelled v) :
    ofValue? v = some d := by
  rcases h with rfl | rfl <;> cases d <;> rfl

end Direction

namespace SortSpec

/-- The inputs of an ordering that write the entries. An object holds every field once, so it writes
entries of distinct fields. -/
inductive Writes (entries : List Marked) : Except BuildError SortSpec → Prop
  | text {text : String}
      (h : Text.Spaced (entries.map fun entry => entry.token.toList) text.toList) :
      Writes entries (.ok (ofText text))
  | list : Writes entries (.ok (.tokenList (entries.map Marked.token)))
  | textValue {text : String}
      (h : Text.Spaced (entries.map fun entry => entry.token.toList) text.toList) :
      Writes entries (ofValue (.string text))
  | listValue : Writes entries (ofValue (.array ((entries.map Marked.token).map Value.string)))
  | pairs : Writes entries (.ok (.pairList (FieldMap.mapValues Direction.ofMark entries)))
  | object {fields : Document}
      (h : List.Forall₂ (fun (entry : Marked) (field : String × Value) =>
        field.1 = entry.1 ∧ (Direction.ofMark entry.2).Spelled field.2) entries fields) :
      Writes entries (ofValue (.object fields))

theorem directionOf_token {entry : Marked} (h : entry.Writable) :
    directionOf entry.token = (entry.1, Direction.ofMark entry.2) := by
  rw [directionOf, Marked.splitMinus_token h]
  obtain ⟨field, marked⟩ := entry
  cases marked <;> rfl

theorem entries_tokens (hentries : ∀ entry ∈ entries, entry.Writable) :
    (SortSpec.tokenList (entries.map Marked.token)).entries
      = FieldMap.mapValues Direction.ofMark entries := by
  rw [SortSpec.entries, List.map_map]
  exact List.map_congr_left fun entry hentry => directionOf_token (hentries entry hentry)

/-- An object of directions is read entry by entry. -/
theorem entryOf_spelled {fields : Document}
    (h : List.Forall₂ (fun (entry : Marked) (field : String × Value) =>
      field.1 = entry.1 ∧ (Direction.ofMark entry.2).Spelled field.2) entries fields) :
    fields.mapM entryOf = .ok (FieldMap.mapValues Direction.ofMark entries) := by
  induction h with
  | nil => rfl
  | cons hfield _ ih =>
      obtain ⟨hname, hvalue⟩ := hfield
      rw [List.mapM_cons, ih, entryOf, Direction.ofValue?_of_spelled hvalue, hname]
      rfl

theorem Writes.exists_ok {input : Except BuildError SortSpec} (h : Writes entries input)
    (hentries : ∀ entry ∈ entries, entry.Writable) :
    ∃ s, input = .ok s ∧ s.entries = FieldMap.mapValues Direction.ofMark entries := by
  have htokens := entries_tokens hentries
  cases h with
  | text htext => exact ⟨_, rfl, by rwa [ofText, words_of_tokens hentries htext]⟩
  | list => exact ⟨_, rfl, htokens⟩
  | textValue htext => exact ⟨_, rfl, by rwa [ofText, words_of_tokens hentries htext]⟩
  | listValue => exact ⟨_, by rw [ofValue, stringsOf_strings, map_ok], htokens⟩
  | pairs => exact ⟨_, rfl, rfl⟩
  | object hfields => exact ⟨_, by rw [ofValue, entryOf_spelled hfields, map_ok], rfl⟩

theorem compile_entries (hentries : ∀ entry ∈ entries, entry.Writable) (hne : entries ≠ [])
    {s : SortSpec} (h : s.entries = FieldMap.mapValues Direction.ofMark entries) :
    s.compile = .ok ((FieldMap.collect entries).mapValues Direction.ofMark) := by
  have hnamed : s.named = FieldMap.mapValues Direction.ofMark entries := by
    rw [named, h, Marked.filter_named hentries]
  rw [compile_eq_ok, hnamed, FieldMap.mapValues_collect]
  exact ⟨mt List.map_eq_nil_iff.mp hne, rfl⟩

end SortSpec

/-! ## One meaning -/

/-- **All shapes of input mean the same.** Entries whose fields are words without a minus sign in
front can be written in any of the shapes: every selection that writes them compiles to the map that
collects them, a marked field being excluded, and every ordering that writes them to the same map, a
marked field being sorted in descending order. The fields of the map stand in the order in which
they first occur, and each of them has its last mark. -/
theorem input_shapes_agree (hne : entries ≠ []) (hentries : ∀ entry ∈ entries, entry.Writable) :
    (∀ input, Selection.Writes entries input →
      Selection.compile <$> input = .ok ((FieldMap.collect entries).mapValues Inclusion.ofMark)) ∧
    (∀ input, SortSpec.Writes entries input →
      (input >>= SortSpec.compile) = .ok ((FieldMap.collect entries).mapValues Direction.ofMark)) ∧
    (FieldMap.collect entries).keys = (entries.map Prod.fst).eraseDups ∧
    ∀ field, (FieldMap.collect entries).get? field = entries.reverse.lookup field := by
  refine ⟨fun input hinput => ?_, fun input hinput => ?_, FieldMap.keys_collect entries,
    FieldMap.get?_collect entries⟩
  · rw [hinput.eq_ok hentries, map_ok, Selection.compile_tokens hentries]
  · obtain ⟨s, rfl, hs⟩ := hinput.exists_ok hentries
    exact SortSpec.compile_entries hentries hne hs

/-- A field that is marked when it comes again, and fields that are all different. -/
def nameAgain : List Marked := [("name", false), ("email", false), ("name", true)]

def nameThenAge : List Marked := [("name", false), ("age", true)]

theorem spaced_nameAgain : Text.Spaced (nameAgain.map fun entry => entry.token.toList)
    " name\temail\u3000 -name".toList := by
  refine .blank ' ' rfl (.word "name".toList ?_ (.blank '\t' rfl (.word "email".toList ?_
    (.blank '\u3000' rfl (.blank ' ' rfl (.word "-name".toList ?_ .nil))))))
  · rintro c ⟨rfl⟩
    rfl
  · rintro c ⟨rfl⟩
    rfl
  · nofun

theorem input_shapes_agree_names :
    (∀ entry ∈ nameAgain, entry.Writable) ∧ (∀ entry ∈ nameThenAge, entry.Writable) ∧
    (Selection.ofText " name\temail\u3000 -name").compile
      = [("name", .excluded), ("email", .included)] ∧
    (SortSpec.ofValue (.object [("name", .string "asc"), ("age", .ofInt (-1))])
        >>= SortSpec.compile)
      = .ok [("name", .ascending), ("age", .descending)] := by
  have hagain : ∀ entry ∈ nameAgain, entry.Writable := by decide
  have hage : ∀ entry ∈ nameThenAge, entry.Writable := by decide
  obtain ⟨hselection, -⟩ := input_shapes_agree (by decide) hagain
  obtain ⟨-, hordering, -⟩ := input_shapes_agree (by decide) hage
  have hobject : SortSpec.Writes nameThenAge
      (SortSpec.ofValue (.object [("name", .string "asc"), ("age", .ofInt (-1))])) :=
    .object (.cons ⟨rfl, .inr rfl⟩ (.cons ⟨rfl, .inl rfl⟩ .nil))
  exact ⟨hagain, hage, Except.ok.inj (hselection _ (.text spaced_nameAgain)), hordering _ hobject⟩

end DocQuery
