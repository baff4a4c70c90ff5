import DocQuery.Filter.RegexEngine
import DocQuery.Query.Run
import DocQuery.Proofs.Expression.Evaluate
import DocQuery.Proofs.Filter.Conditions
import DocQuery.Proofs.Number.Rounding
import DocQuery.Proofs.Path.Readings
import DocQuery.Proofs.Store.Documents

/-!
# Equality of integers in filters and joins

Conditions and joins compare by `Value.same`, which asks for the order of two numbers, so two
integers are equal there when their doubles are (`same_ofInt`). An integer at the end of a path is
the only value that the path offers to a condition (`holds_equals_number`) and the only key that it
offers to a join (`mem_joined_iff`). Filtering and joining by an integer thus keep what has the same
double, which below `2 ^ 53` is the integer itself.
-/

namespace DocQuery

open Number (doubleOf)

/-! ## Comparing integers -/

namespace Value

theorem order_ofInt (a b : Int) :
    (ofInt a).order (ofInt b) = compare (doubleOf a) (doubleOf b) := by
  rw [ofInt, ofInt, order, Number.order_int]

theorem same_ofInt (a b : Int) : (ofInt a).same (ofInt b) = true ↔ doubleOf a = doubleOf b := by
  rw [same, order_ofInt, beq_iff_eq, Std.compare_eq_iff_eq]

end Value

/-! ## Filtering by a number -/

namespace Filter

variable [Engine]

theorem holdsOfClause_number (doc : Value) (key : String) (x : Number) :
    holdsOfClause doc key (.number x) = holdsOfSimpleClause doc key (.number x) := by
  rw [holdsOfClause]
  intro branches hbranches
  cases hbranches

theorem holdsOfCondition_number (candidates : List Value) (x : Number) :
    holdsOfCondition candidates (.number x) = .ok (candidates.any fun c => c.same (.number x)) := by
  rw [holdsOfCondition]
  · rfl
  · intro fields hfields
    cases hfields

theorem holds_equals (doc : Value) (field : String) (x : Number) :
    holds doc (Condition.equals field (.number x)) = holdsOfSimpleClause doc field (.number x) := by
  rw [Condition.equals, holds_singleton, holdsOfClause_number]

/-- A name with a dollar sign is an operator, and all of them but `$expr` refuse a number. -/
theorem holds_equals_dollar (doc : Value) {field : String} (x : Number)
    (hdollar : startsWithDollar field = true) (hexpr : field ≠ "$expr") :
    ∃ e, holds doc (Condition.equals field (.number x)) = .error e := by
  rw [holds_equals, holdsOfSimpleClause]
  by_cases hconnective : (Connective.ofKey? field).isSome = true
  · rw [if_pos hconnective]
    exact ⟨_, rfl⟩
  · rw [if_neg hconnective, if_neg hexpr, if_pos hdollar]
    exact ⟨_, rfl⟩

theorem holds_equals_number (doc : Value) {field : String} (x : Number)
    (hdollar : startsWithDollar field = false) :
    holds doc (Condition.equals field (.number x))
      = .ok ((Path.candidates (Path.parse field) doc).any fun c => c.same (.number x)) := by
  rw [Condition.equals, holds_field hdollar, holdsOfCondition_number]

end Filter

namespace Store

/-- Whether a field of a document offers the value to a condition. -/
def offers (field : String) (value doc : Value) : Bool :=
  (Path.candidates (Path.parse field) doc).any fun c => c.same value

theorem offers_ofInt {field : String} {doc : Value} {i n : Int}
    (hfield : Path.resolve (Path.parse field) doc = some (.ofInt i)) :
    offers field (.ofInt n) doc = true ↔ doubleOf i = doubleOf n := by
  rw [offers, Path.candidates_of_resolve hfield rfl, List.any_cons, List.any_nil, Bool.or_false,
    Value.same_ofInt]

theorem apply_filterEquals [Filter.Engine] (s : Store) {field : String} (n : Int)
    (docs : List Value) (hdollar : startsWithDollar field = false) :
    s.apply [.filter (Condition.equals field (.ofInt n))] docs
      = .ok (docs.filter (offers field (.ofInt n))) := by
  rw [apply_singleton]
  exact applyStage_filter s fun doc _ => Filter.holds_equals_number doc (.int n) hdollar

theorem apply_filterEquals_eq_ok [Filter.Engine] {s : Store} {field : String} {n : Int}
    {docs out : List Value}
    (h : s.apply [.filter (Condition.equals field (.ofInt n))] docs = .ok out)
    (hexpr : field ≠ "$expr") : out = docs.filter (offers field (.ofInt n)) := by
  cases hdollar : startsWithDollar field with
  | false =>
      rw [apply_filterEquals s n docs hdollar] at h
      exact (Except.ok.inj h).symm
  | true =>
      -- an operator refuses the first document, so there is none
      cases docs with
      | nil => exact (Except.ok.inj h).symm
      | cons doc rest =>
          obtain ⟨e, he⟩ := Filter.holds_equals_dollar doc (.int n) hdollar hexpr
          have hfilter : filter (Condition.equals field (.ofInt n)) (doc :: rest) = .error e := by
            rw [filter, Expression.filterItems, Value.ofInt, he, error_bind]
          rw [apply_singleton, applyStage, hfilter] at h
          cases h

/-! ## Joining by integers -/

theorem shareKey_integers {path foreignPath : Path} {doc foreign : Value} {refs : List Int}
    {j : Int} (hrefs : Path.flatten path doc = refs.map Value.ofInt)
    (hidentity : Path.resolve foreignPath foreign = some (.ofInt j)) :
    shareKey (joinKeys path doc) (joinKeys foreignPath foreign) = true
      ↔ ∃ i ∈ refs, doubleOf i = doubleOf j := by
  have hkey : joinKeys foreignPath foreign = [.ofInt j] := by
    rw [joinKeys, Path.flatten_of_resolve hidentity rfl]
  rw [hkey, shareKey, List.any_cons, List.any_nil, Bool.or_false]
  cases refs with
  | nil =>
      rw [joinKeys, hrefs]
      simp [Value.same, Value.order, Value.ofInt, Value.rank]
  | cons i rest =>
      have hkeys : joinKeys path doc = (i :: rest).map Value.ofInt := by
        rw [joinKeys, hrefs]
        rfl
      rw [hkeys]
      simp only [List.any_map, List.any_eq_true, Function.comp_apply, Value.same_ofInt]

/-! ## Integers by their doubles -/

/-- **Integers are compared by their nearest doubles.** Their order is never turned round, and it is
exact when one of the two is below `2 ^ 53`. A query by the value of a field keeps a document whose
field is an integer just when the two have the same double, and so does a join with the documents
whose identity is an integer. -/
theorem integers_compare_as_doubles [Filter.Engine] {s : Store} (hs : s.HoldsObjects) :
    (∀ a b : Int, (Value.ofInt a).order (.ofInt b) = compare (doubleOf a) (doubleOf b)
      ∧ (a ≤ b → (Value.ofInt a).order (.ofInt b) ≠ .gt)
      ∧ (a.natAbs < 2 ^ 53 ∨ b.natAbs < 2 ^ 53 →
          (Value.ofInt a).order (.ofInt b) = compare a b ∧ (doubleOf a = doubleOf b ↔ a = b))) ∧
    (∀ (entity : String) (schema : Schema) (options : Options) (field : String) (n : Int),
      let result := (({ entity, schema, options } : Query).filterEquals field (.ofInt n)).rows s.run
      (startsWithDollar field = false → ∃ rows, result = .ok rows) ∧
      (field ≠ "$expr" → ∀ rows, result = .ok rows →
        ∃ keep : Value → Bool,
          rows.map Value.object = (s.documents (schema.collectionOf entity)).filter keep ∧
          ∀ doc i, Path.resolve (Path.parse field) doc = some (.ofInt i) →
            (keep doc = true ↔ doubleOf i = doubleOf n))) ∧
    (∀ (l : Lookup) (doc : Document) (refs : List Int),
      Path.flatten (Path.parse l.localField) (.object doc) = refs.map Value.ofInt →
      ∃ keep : Value → Bool,
        s.apply [.lookup l] [.object doc]
          = .ok [.object (Path.set (Path.parse l.into)
              (.array ((s.documents l.collection).filter keep)) doc)] ∧
        ∀ foreign j, Path.resolve (Path.parse l.foreignField) foreign = some (.ofInt j) →
          (keep foreign = true ↔ ∃ i ∈ refs, doubleOf i = doubleOf j)) := by
  refine ⟨fun a b => ⟨Value.order_ofInt a b, fun hle => ?_, fun hsmall => ?_⟩, ?_, ?_⟩
  · have hmono := Number.doubleOf_mono hle
    rw [Value.order_ofInt, Ne, Int.compare_eq_gt]
    omega
  · rw [Value.order_ofInt]
    exact ⟨Number.compare_doubleOf hsmall, Number.doubleOf_inj hsmall, congrArg doubleOf⟩
  · intro entity schema options field n
    refine ⟨fun hdollar => ⟨_, run_of_apply (apply_filterEquals s n _ hdollar)⟩, ?_⟩
    intro hexpr rows hrows
    have hkept := apply_filterEquals_eq_ok (run_eq_ok hs hrows) hexpr
    exact ⟨offers field (.ofInt n), hkept, fun doc i hfield => offers_ofInt hfield⟩
  · intro l doc refs hrefs
    refine ⟨_, by rw [apply_singleton, applyStage]; rfl, fun foreign j hidentity => ?_⟩
    exact shareKey_integers hrefs hidentity

/-- Accounts of which two have neighbouring numbers with the same double. -/
def sampleAccounts : Store :=
  ⟨[("accounts", [
    .object [("number", .ofInt 9007199254740992)],
    .object [("number", .ofInt 9007199254740993)],
    .object [("number", .ofInt 9007199254740994)]])]⟩

theorem resolve_number (i : Int) :
    Path.resolve (Path.parse "number") (.object [("number", .ofInt i)]) = some (.ofInt i) := by
  have hpath : Path.parse "number" = ["number"] := Path.parse_of_undotted (by decide)
  rw [hpath]
  rfl

/-- A fresh query on the accounts. -/
def accountQuery : Query := { entity := "Account", schema := { resolve := fun _ _ => .plain } }

attribute [local instance] Filter.regexEngine

theorem integers_compare_as_doubles_sampleAccounts :
    sampleAccounts.HoldsObjects ∧
    ∃ (rows : List Document) (keep : Value → Bool),
      (accountQuery.filterEquals "number" (.ofInt 9007199254740993)).rows sampleAccounts.run
        = .ok rows ∧
      rows.map Value.object = (sampleAccounts.documents "accounts").filter keep ∧
      keep (.object [("number", .ofInt 9007199254740992)]) = true ∧
      keep (.object [("number", .ofInt 9007199254740994)]) = false := by
  have hs : sampleAccounts.HoldsObjects := by decide
  obtain ⟨hrows, hkept⟩ := (integers_compare_as_doubles hs).2.1 "Account"
    { resolve := fun _ _ => .plain } {} "number" 9007199254740993
  obtain ⟨rows, hrows⟩ := hrows rfl
  obtain ⟨keep, hfilter, hkeep⟩ := hkept (by decide) rows hrows
  have hsame := hkeep _ 9007199254740992 (resolve_number _)
  have hother := hkeep _ 9007199254740994 (resolve_number _)
  exact ⟨hs, rows, keep, hrows, hfilter, hsame.mpr (by decide),
    Bool.eq_false_iff.mpr (mt hother.mp (by decide))⟩

/-- An account with a field that is named like an operator. -/
def oddAccounts : Store := ⟨[("accounts", [.object [("$expr", .ofInt 5)]])]⟩

/-- Two integers with one double are equal to the order, to conditions and to joins; and a condition
on `$expr` is an expression, whatever the field holds. -/
theorem integers_not_compared_exactly :
    (Value.ofInt 9007199254740992).order (.ofInt 9007199254740993)
        ≠ compare (9007199254740992 : Int) 9007199254740993 ∧
    (∃ rows, (accountQuery.filterEquals "number" (.ofInt 9007199254740993)).rows sampleAccounts.run
        = .ok rows ∧ [("number", Value.ofInt 9007199254740992)] ∈ rows) ∧
    .object [("number", .ofInt 9007199254740992)]
      ∈ sampleAccounts.joined ⟨"accounts", "number", "number", "same"⟩
          (.object [("number", .ofInt 9007199254740993)]) ∧
    (accountQuery.filterEquals "$expr" (.ofInt 7)).rows oddAccounts.run
      = .ok [[("$expr", .ofInt 5)]] := by
  have heq : doubleOf 9007199254740992 = doubleOf 9007199254740993 := by decide
  refine ⟨?_, ?_, ?_, ?_⟩
  · rw [Value.order_ofInt, heq]
    decide
  · refine ⟨_, run_of_apply (apply_filterEquals sampleAccounts 9007199254740993 _ rfl), ?_⟩
    refine List.mem_filterMap.mpr ⟨_, List.mem_filter.mpr ⟨List.mem_cons_self .., ?_⟩, rfl⟩
    exact (offers_ofInt (resolve_number _)).mpr heq
  · refine List.mem_filter.mpr ⟨List.mem_cons_self .., ?_⟩
    have hrefs : Path.flatten (Path.parse "number") (.object [("number", .ofInt 9007199254740993)])
        = [9007199254740993].map Value.ofInt := Path.flatten_of_resolve (resolve_number _) rfl
    exact (shareKey_integers hrefs (resolve_number _)).mpr ⟨_, List.mem_singleton_self _, heq.symm⟩
  · let odd : Value := .object [("$expr", .ofInt 5)]
    have hkey : (Number.int 7).orderKey ≠ 0 := by
      rw [Number.orderKey_int]
      exact Int.mul_ne_zero (by decide) (Int.pow_ne_zero (by decide))
    have hholds : Filter.holds odd (Condition.equals "$expr" (.ofInt 7)) = .ok true := by
      rw [Value.ofInt, Filter.holds_equals, Filter.holdsOfSimpleClause, if_neg (by decide),
        if_pos rfl, Expression.eval_number, map_ok, Value.truthy, bne_iff_ne.mpr hkey]
    have hfilter : filter (Condition.equals "$expr" (.ofInt 7)) [odd] = .ok [odd] := by
      rw [filter, Expression.filterItems, hholds, ok_bind, Expression.filterItems, ok_bind]
      rfl
    have happly : oddAccounts.apply [.filter (Condition.equals "$expr" (.ofInt 7))] [odd]
        = .ok [odd] := by
      rw [apply_singleton, applyStage, hfilter]
    calc (accountQuery.filterEquals "$expr" (.ofInt 7)).rows oddAccounts.run
      _ = .ok ([odd].filterMap Value.fields?) := run_of_apply happly
      _ = .ok [[("$expr", .ofInt 5)]] := rfl

end Store

end DocQuery
