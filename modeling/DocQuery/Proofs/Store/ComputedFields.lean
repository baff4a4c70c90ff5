import DocQuery.Filter.RegexEngine
import DocQuery.Proofs.Outcome
import DocQuery.Proofs.Path.Writing
import DocQuery.Store.Evaluate

/-!
# Computed fields

Every expression of a `$set` or an `$addFields` sees the document as it was, so the order of the
entries decides only in which order the results are written. Where no path of an entry is a prefix
of another one's, that makes no difference but in the order of keys
(`computed_fields_simultaneous`).
-/

namespace DocQuery.Store

open DocQuery.Path

/-- The write that stores a result. -/
def writeOf (entry : String × Option Value) : Path × Option Value := (parse entry.1, entry.2)

theorem setField_eq (doc : Document) (entry : String × Option Value) :
    setField doc entry = put (writeOf entry).1 (writeOf entry).2 doc := by
  obtain ⟨field, value⟩ := entry
  cases value <;> rfl

theorem foldl_setField (values : List (String × Option Value)) (doc : Document) :
    values.foldl setField doc = putAll (values.map writeOf) doc := by
  rw [putAll, List.foldl_map]
  exact congrArg (fun step => values.foldl step doc) (funext₂ setField_eq)

theorem computed_eq_mapM (doc : Value) (fields : List (String × Value)) :
    computed doc fields
      = fields.mapM fun entry => (entry.1, ·) <$> Expression.eval { root := doc } entry.2 := by
  induction fields with
  | nil => rfl
  | cons entry rest ih =>
      rw [List.mapM_cons, ← ih, computed]
      cases Expression.eval { root := doc } entry.2 <;> rfl

/-- The results stand under the names of the entries, in their order. -/
theorem names_of_computed {doc : Value} {fields : List (String × Value)}
    {values : List (String × Option Value)} (h : computed doc fields = .ok values) :
    values.map Prod.fst = fields.map Prod.fst := by
  rw [computed_eq_mapM] at h
  have hpairs := mapM_eq_ok h
  clear h
  induction hpairs with
  | nil => rfl
  | cons hentry _ ih =>
      obtain ⟨value, -, rfl⟩ := map_eq_ok.mp hentry
      rw [List.map_cons, List.map_cons, ih]

/-- Results written in one order or another make the same document. -/
theorem sortKeys_foldl_setField {values others : List (String × Option Value)}
    (h : values.Perm others)
    (hapart : (values.map Prod.fst).Pairwise fun name other => ¬Overlap (parse name) (parse other))
    {doc : Document} (hdoc : (Value.object doc).WellFormed) :
    (Value.object (values.foldl setField doc)).sortKeys
      = (Value.object (others.foldl setField doc)).sortKeys := by
  rw [foldl_setField, foldl_setField]
  refine sortKeys_putAll_perm (h.map writeOf) ?_ fun write _ => keysAlong_of_wellFormed hdoc _
  exact List.pairwise_map.mpr (List.pairwise_map.mp hapart)

theorem okTogether_setFields {fields others : Document} (h : fields.Perm others)
    (hapart : fields.keys.Pairwise fun name other => ¬Overlap (parse name) (parse other))
    {doc : Value} (hdoc : doc.WellFormed) :
    OkTogether (fun row row' => row.sortKeys = row'.sortKeys) (setFields fields doc)
      (setFields others doc) := by
  have hperm := okTogether_mapM
    (fun entry => (entry.1, ·) <$> Expression.eval { root := doc } entry.2) h
  rw [← computed_eq_mapM, ← computed_eq_mapM] at hperm
  refine (hperm.and_left fun values => names_of_computed).bind fun values values' hvalues => ?_
  obtain ⟨hnames, hvalues⟩ := hvalues
  cases doc with
  | object fields => exact sortKeys_foldl_setField hvalues (hnames ▸ hapart) hdoc
  | _ => rfl

/-- **Computed fields are simultaneous.** Let no path of an entry be a prefix of another one's. Then
the entries may stand in any order: the stage succeeds with one order if and only if it does with
another, and its rows differ in the order of keys only. -/
theorem computed_fields_simultaneous [Filter.Engine] (s : Store) {fields others : Document}
    (h : fields.Perm others)
    (hapart : fields.keys.Pairwise fun name other => ¬Overlap (parse name) (parse other))
    {docs : List Value} (hdocs : ∀ doc ∈ docs, doc.WellFormed) :
    OkTogether (List.Forall₂ fun row row' => row.sortKeys = row'.sortKeys)
        (s.applyStage (.set fields) docs) (s.applyStage (.set others) docs)
      ∧ OkTogether (List.Forall₂ fun row row' => row.sortKeys = row'.sortKeys)
        (s.applyStage (.addFields fields) docs) (s.applyStage (.addFields others) docs) := by
  have hrows := OkTogether.mapM fun doc hdoc => okTogether_setFields h hapart (hdocs doc hdoc)
  rw [applyStage, applyStage, applyStage, applyStage]
  exact ⟨hrows, hrows⟩

/-- A document with an array and a number where fields below them are computed. -/
def player : Document :=
  [("name", .string "Ada"), ("level", .ofInt 4),
    ("scores", .array [.object [("low", .ofInt 1), ("high", .ofInt 3)], .ofInt 7])]

/-- Fields that read each other, two of them without a result. -/
def playerFields : Document :=
  [("level.now", .string "$scores.high"), ("level.before", .string "$level"),
    ("scores.low", .string "$absent"), ("scores.best", .string "$name"),
    ("home.city", .string "$level"), ("name", .string "$home.city")]

/-- The player with its computed fields. -/
def playerRow : Value :=
  .object [("level", .object [("now", .array [.ofInt 3]), ("before", .ofInt 4)]),
    ("scores", .object [("best", .string "Ada")]), ("home", .object [("city", .ofInt 4)])]

attribute [local instance] Filter.regexEngine

theorem computed_fields_simultaneous_player :
    playerFields.Perm playerFields.reverse ∧
    (playerFields.keys.Pairwise fun name other => ¬Overlap (parse name) (parse other)) ∧
    (∀ doc ∈ [Value.object player], doc.WellFormed) ∧
    (⟨[]⟩ : Store).applyStage (.addFields playerFields) [.object player] = .ok [playerRow] ∧
    ∃ row,
      (⟨[]⟩ : Store).applyStage (.addFields playerFields.reverse) [.object player] = .ok [row] ∧
      playerRow.sortKeys = row.sortKeys := by
  have hperm : playerFields.Perm playerFields.reverse := (List.reverse_perm _).symm
  have hapart :
      playerFields.keys.Pairwise fun name other => ¬Overlap (parse name) (parse other) := by
    decide +kernel
  have hdocs : ∀ doc ∈ [Value.object player], doc.WellFormed := by decide
  have hrow : (⟨[]⟩ : Store).applyStage (.addFields playerFields) [.object player]
      = .ok [playerRow] := by
    cbv
  have htogether := (computed_fields_simultaneous ⟨[]⟩ hperm hapart hdocs).2
  rw [hrow] at htogether
  cases hrow' : (⟨[]⟩ : Store).applyStage (.addFields playerFields.reverse) [.object player] with
  | error e =>
      rw [hrow'] at htogether
      exact htogether.elim
  | ok rows =>
      rw [hrow'] at htogether
      cases htogether with
      | cons hsame hnil =>
          cases hnil
          exact ⟨hperm, hapart, hdocs, hrow, _, rfl, hsame⟩

end DocQuery.Store
