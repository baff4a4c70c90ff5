import DocQuery.Filter.RegexEngine
import DocQuery.Query.Run
import DocQuery.Proofs.Filter.Conditions
import DocQuery.Proofs.Store.Documents

/-!
# Negative conditions

A negative condition asks what its positive counterpart asks, of the same candidates, and turns the
answer round. So the two fail together, with the same error, and of two queries by them each
document is kept by exactly one (`splits_run`). None of this depends on how patterns are evaluated:
the engine may refuse a pattern, and may fail on a text.
-/

namespace DocQuery.Filter

section Complements

variable [Engine]

/-! ## Conditions and their negations -/

theorem holdsOfCondition_not (candidates : List Value) (cond : Value) :
    holdsOfCondition candidates (.object [("$not", cond)])
      = (!·) <$> holdsOfCondition candidates cond := by
  rw [holdsOfCondition, if_pos (isSome_operators? (by decide) (by decide) cond), holdsOfOperators,
    if_pos rfl]
  cases holdsOfCondition candidates cond with
  | error e => rfl
  | ok answer => cases answer <;> rfl

theorem holdsOfCondition_ne (candidates : List Value) (value : Value) :
    holdsOfCondition candidates (.object [("$ne", value)])
      = (!·) <$> holdsOfCondition candidates (.object [("$eq", value)]) := by
  rw [holdsOfCondition_operator (by decide) (by decide) (by decide),
    holdsOfCondition_operator (by decide) (by decide) (by decide)]
  rfl

theorem holdsOfCondition_nin (candidates values : List Value) :
    holdsOfCondition candidates (.object [("$nin", .array values)])
      = (!·) <$> holdsOfCondition candidates (.object [("$in", .array values)]) := by
  rw [holdsOfCondition_operator (by decide) (by decide) (by decide), holdsOfCondition_in]
  exact bind_ok_eq_map _ _

/-- A filter under `$nor` is a filter like any other, on fields or not. -/
theorem holds_nor (doc : Value) (filter : Document) :
    holds doc [("$nor", .array [.object filter])] = (!·) <$> holds doc filter := by
  rw [holds_singleton, holdsOfClause, Connective.ofKey?, branchAnswers]
  cases holds doc filter with
  | error e => rfl
  | ok answer => cases answer <;> rfl

/-! ## Queries that split a collection -/

/-- Two runs split some documents: they fail with the same error, or each document is a row of
exactly one of them, where the rows stand in the order of the documents. -/
def Splits (docs : List Value) :
    Except StoreError (List Document) → Except StoreError (List Document) → Prop
  | .ok rows, .ok others => ∃ keep : Value → Bool,
      rows.map Value.object = docs.filter keep ∧
      others.map Value.object = docs.filter fun doc => !keep doc
  | .error e, .error e' => e = e'
  | _, _ => False

/-- Comparing a field by the one token and by the other gives two queries that split the
collection. -/
def SplitBy (s : Store) (q : Query) (field token opposite : String) (operand : Operand) : Prop :=
  ∃ kept others, q.filterCompare field token operand = .ok kept ∧
    q.filterCompare field opposite operand = .ok others ∧
    Splits (s.documents q.collection) (kept.rows s.run) (others.rows s.run)

theorem run_filter_eq_ok {s : Store} (hs : s.HoldsObjects) {collection : String}
    {condition : Document} {p : Value → Bool}
    (h : ∀ doc ∈ s.documents collection, holds doc condition = .ok (p doc)) :
    ∃ rows, s.run collection [.filter condition] = .ok rows ∧
      rows.map Value.object = (s.documents collection).filter p := by
  have hfilter : s.apply [.filter condition] (s.documents collection)
      = .ok ((s.documents collection).filter p) := by
    rw [Store.apply_singleton, Store.applyStage_filter s h]
  refine ⟨_, Store.run_of_apply hfilter, (Value.eq_map_object fun doc hdoc => ?_).symm⟩
  exact hs.isObject (List.mem_filter.mp hdoc).1

theorem run_filter_eq_error {s : Store} {collection : String} {condition : Document}
    {e : StoreError} (h : Store.filter condition (s.documents collection) = .error e) :
    s.run collection [.filter condition] = .error e := by
  rw [Store.run_eq_error, Store.apply_singleton, Store.applyStage, h]

/-- A filter and another one that turns its answers round split every collection. -/
theorem splits_run {s : Store} (hs : s.HoldsObjects) {condition opposite : Document}
    (h : ∀ doc, holds doc opposite = (!·) <$> holds doc condition) (collection : String) :
    Splits (s.documents collection) (s.run collection [.filter condition])
      (s.run collection [.filter opposite]) := by
  cases hfilter : Store.filter condition (s.documents collection) with
  | error e =>
      have hopposite : Store.filter opposite (s.documents collection) = .error e := by
        rw [Store.filter, funext h]
        exact filterItems_map_error _ hfilter
      rw [run_filter_eq_error hfilter, run_filter_eq_error hopposite]
      rfl
  | ok kept =>
      obtain ⟨p, hp, -⟩ := filterItems_eq_ok hfilter
      have hnot : ∀ doc ∈ s.documents collection, holds doc opposite = .ok (!p doc) := by
        intro doc hdoc
        rw [h, hp doc hdoc, map_ok]
      obtain ⟨rows, hrows, hkept⟩ := run_filter_eq_ok hs hp
      obtain ⟨others, hothers, hdropped⟩ := run_filter_eq_ok hs hnot
      rw [hrows, hothers]
      exact ⟨p, hkept, hdropped⟩

/-- **Negative conditions are exact complements.** On a field whose path does not start with a
dollar sign, `$not` and `$nor` hold of a condition just when it does not hold, `$ne` just when `$eq`
does not, and `$nin` just when `$in` does not; where the one fails, the other fails with the same
error. So of a query by `=` or `in` and one by `!=` or `nin`, each document of the collection is
kept by exactly one. -/
theorem negations_are_complements {field : String} (hfield : startsWithDollar field = false) :
    (∀ doc cond : Value,
      holds doc [(field, .object [("$not", cond)])] = (!·) <$> holds doc [(field, cond)] ∧
      holds doc [("$nor", .array [.object [(field, cond)]])] = (!·) <$> holds doc [(field, cond)]) ∧
    (∀ doc value : Value,
      holds doc [(field, .object [("$ne", value)])]
        = (!·) <$> holds doc [(field, .object [("$eq", value)])]) ∧
    (∀ (doc : Value) (values : List Value),
      holds doc [(field, .object [("$nin", .array values)])]
        = (!·) <$> holds doc [(field, .object [("$in", .array values)])]) ∧
    (∀ (s : Store) (entity : String) (schema : Schema) (options : Options), s.HoldsObjects →
      (∀ operand, SplitBy s { entity, schema, options } field "=" "!=" operand) ∧
      (∀ values, SplitBy s { entity, schema, options } field "in" "nin"
        (.value (.array values)))) := by
  have hne (doc value : Value) : holds doc [(field, .object [("$ne", value)])]
      = (!·) <$> holds doc [(field, .object [("$eq", value)])] := by
    rw [holds_field hfield, holds_field hfield, holdsOfCondition_ne]
  have hnin (doc : Value) (values : List Value) :
      holds doc [(field, .object [("$nin", .array values)])]
        = (!·) <$> holds doc [(field, .object [("$in", .array values)])] := by
    rw [holds_field hfield, holds_field hfield, holdsOfCondition_nin]
  refine ⟨fun doc cond => ⟨?_, holds_nor doc _⟩, hne, hnin,
    fun s entity schema options hs => ⟨?_, ?_⟩⟩
  · rw [holds_field hfield, holds_field hfield, holdsOfCondition_not]
  · intro operand
    -- only `regex` writes its operand in a form of its own
    have htoValue : operand.toValue .ne = operand.toValue .eq := by cases operand <;> rfl
    refine ⟨_, _, rfl, rfl, splits_run hs (fun doc => ?_) _⟩
    show holds doc [(field, .object [("$ne", operand.toValue .ne)])] = _
    rw [htoValue, hne]
    rfl
  · intro values
    exact ⟨_, _, rfl, rfl, splits_run hs (fun doc => hnin doc values) _⟩

end Complements

attribute [local instance] regexEngine

/-- Members with one name, with several of which one is null, with none, and with null for a
name. -/
def sampleNames : Store :=
  ⟨[("members", [.object [("name", .string "Ada")],
    .object [("name", .array [.string "Bo", .null])], .object [], .object [("name", .null)]])]⟩

/-- A fresh query on the members. -/
def memberQuery : Query := { entity := "Member", schema := { resolve := fun _ _ => .plain } }

theorem negations_are_complements_sampleNames :
    let bo : Value := .object [("name", .array [.string "Bo", .null])]
    let pattern : Value := .object [("$regex", .string "^b"), ("$options", .string "i")]
    startsWithDollar "name" = false ∧ sampleNames.HoldsObjects ∧
    holds bo [("name", .object [("$not", pattern)])] = (!·) <$> holds bo [("name", pattern)] ∧
    SplitBy sampleNames memberQuery "name" "=" "!=" (.value .null) ∧
    SplitBy sampleNames memberQuery "name" "in" "nin"
      (.value (.array [.string "Ada", (Pattern.ignoringCase "^b").toValue])) := by
  intro bo pattern
  have hfield : startsWithDollar "name" = false := by decide
  have hs : sampleNames.HoldsObjects := by decide
  obtain ⟨hnot, -, -, hqueries⟩ := negations_are_complements hfield
  obtain ⟨hequal, hamong⟩ := hqueries sampleNames "Member" memberQuery.schema {} hs
  exact ⟨hfield, hs, (hnot bo pattern).1, hequal _, hamong _⟩

end DocQuery.Filter
