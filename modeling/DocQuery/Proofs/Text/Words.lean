import DocQuery.Text.Blank

/-!
# Words between blanks

A text is cut at its blanks. `Spaced` is the other direction: the texts that consist of given words
in order, with blanks wherever one word ends and the next begins, and any number of them around.
Such a text is cut into these words, if they are words at all, neither empty nor with blanks
(`words_of_spaced`).
-/

namespace DocQuery.Text

/-- A text that can be a word: it has characters, none of them a blank. -/
def IsWord (word : List Char) : Prop := word ≠ [] ∧ ∀ c ∈ word, isBlank c = false

instance (word : List Char) : Decidable (IsWord word) :=
  @instDecidableAnd _ _ _ (List.decidableBAll _ word)

/-- A text of words and blanks, in which a word ends at a blank or at the end of the text. -/
inductive Spaced : List (List Char) → List Char → Prop
  | nil : Spaced [] []
  | blank {words : List (List Char)} {text : List Char} (b : Char) (hb : isBlank b = true)
      (h : Spaced words text) : Spaced words (b :: text)
  | word {words : List (List Char)} {text : List Char} (word : List Char)
      (hend : ∀ c, text.head? = some c → isBlank c = true) (h : Spaced words text) :
      Spaced (word :: words) (word ++ text)

/-! ## The walk over a text -/

theorem wordsOf_blank {b : Char} (hb : isBlank b = true) (text : List Char) :
    wordsOf (b :: text) = wordsOf text := by
  cases text <;> exact if_pos hb

theorem wordsOf_last {c : Char} (hc : isBlank c = false) : wordsOf [c] = [[c]] :=
  if_neg (Bool.eq_false_iff.mp hc)

theorem wordsOf_end {c b : Char} (hc : isBlank c = false) (hb : isBlank b = true)
    (text : List Char) : wordsOf (c :: b :: text) = [c] :: wordsOf (b :: text) :=
  (if_neg (Bool.eq_false_iff.mp hc)).trans (if_pos hb)

theorem wordsOf_inside {c d : Char} (hc : isBlank c = false) (hd : isBlank d = false)
    {text word : List Char} {rest : List (List Char)} (h : wordsOf (d :: text) = word :: rest) :
    wordsOf (c :: d :: text) = (c :: word) :: rest := by
  refine (if_neg (Bool.eq_false_iff.mp hc)).trans ((if_neg (Bool.eq_false_iff.mp hd)).trans ?_)
  rw [h]

/-- A word is taken up to the blank behind it, or to the end. -/
theorem wordsOf_word {word text : List Char} (hword : IsWord word)
    (hend : ∀ c, text.head? = some c → isBlank c = true) :
    wordsOf (word ++ text) = word :: wordsOf text := by
  induction word with
  | nil => exact absurd rfl hword.1
  | cons c rest ih =>
      have hc := hword.2 c (List.mem_cons_self ..)
      cases rest with
      | nil =>
          cases text with
          | nil => exact wordsOf_last hc
          | cons b text => exact wordsOf_end hc (hend b rfl) text
      | cons d rest =>
          have hrest : IsWord (d :: rest) :=
            ⟨List.cons_ne_nil _ _, fun e he => hword.2 e (List.mem_cons_of_mem _ he)⟩
          exact wordsOf_inside hc (hrest.2 d (List.mem_cons_self ..)) (ih hrest)

theorem wordsOf_of_spaced {words : List (List Char)} {text : List Char} (h : Spaced words text)
    (hwords : ∀ word ∈ words, IsWord word) : wordsOf text = words := by
  induction h with
  | nil => rfl
  | blank b hb _ ih => rw [wordsOf_blank hb, ih hwords]
  | word word hend _ ih =>
      rw [wordsOf_word (hwords word (List.mem_cons_self ..)) hend,
        ih fun other hother => hwords other (List.mem_cons_of_mem _ hother)]

/-- A text of words is cut into these words. -/
theorem words_of_spaced {tokens : List String} {text : String}
    (h : Spaced (tokens.map String.toList) text.toList)
    (hwords : ∀ token ∈ tokens, IsWord token.toList) : words text = tokens := by
  rw [words, wordsOf_of_spaced h (List.forall_mem_map.mpr hwords), List.map_map]
  simp [Function.comp_def]

end DocQuery.Text
