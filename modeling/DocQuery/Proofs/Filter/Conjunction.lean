import DocQuery.Filter.RegexEngine
import DocQuery.Proofs.Filter.Conditions
import DocQuery.Proofs.Store.Documents
import Mathlib.Tactic.Choose

/-!
# Conjunctions of filters

Two filters may be joined by `$and`, by writing the clauses of the one behind those of the other, or
by two stages. The three differ in how much they look at: `$and` asks both filters of every document
(`holds_and`), a list of clauses stops at the first that fails to hold (`holds_append`), and a
second stage sees only what the first has kept. So where `$and` succeeds both filters decide on
every document, and then all of them keep the same documents (`filters_conjoin`).
-/

namespace DocQuery.Filter

section Conjunction

variable [Engine] {doc : Value} {docs : List Value} {a b : Document}

theorem holds_and (doc : Value) (a b : Document) :
    holds doc [("$and", .array [.object a, .object b])]
      = (do return (← holds doc a) && (← holds doc b)) := by
  rw [holds_singleton, holdsOfClause, Connective.ofKey?, branchAnswers, branchAnswers,
    branchAnswers]
  cases holds doc a with
  | error e => rfl
  | ok answer =>
      cases holds doc b with
      | error e => rfl
      | ok other => cases answer <;> cases other <;> rfl

theorem holds_append (doc : Value) (a b : Document) :
    holds doc (a ++ b) = (do if ← holds doc a then holds doc b else return false) := by
  induction a with
  | nil => rfl
  | cons clause rest ih =>
      obtain ⟨key, cond⟩ := clause
      rw [List.cons_append, holds, holds, ih]
      cases holdsOfClause doc key cond with
      | error e => rfl
      | ok answer => cases answer <;> rfl

/-- Where `$and` succeeds, both of its filters decide. -/
theorem holds_and_eq_ok {keep : Bool}
    (h : holds doc [("$and", .array [.object a, .object b])] = .ok keep) :
    ∃ x y, holds doc a = .ok x ∧ holds doc b = .ok y ∧ keep = (x && y) := by
  rw [holds_and] at h
  obtain ⟨x, hx, h⟩ := bind_eq_ok.mp h
  obtain ⟨y, hy, h⟩ := bind_eq_ok.mp h
  exact ⟨x, y, hx, hy, (Except.ok.inj h).symm⟩

/-- Two stages of filters that decide on every document keep what both say yes to. -/
theorem apply_filters (s : Store) {p q : Value → Bool}
    (hp : ∀ doc ∈ docs, holds doc a = .ok (p doc)) (hq : ∀ doc ∈ docs, holds doc b = .ok (q doc)) :
    s.apply [.filter a, .filter b] docs = .ok (docs.filter fun doc => p doc && q doc) := by
  have hkept : ∀ doc ∈ docs.filter p, holds doc b = .ok (q doc) :=
    fun doc hdoc => hq doc (List.mem_filter.mp hdoc).1
  rw [Store.apply_cons, Store.applyStage_filter s hp, ok_bind, Store.apply_singleton,
    Store.applyStage_filter s hkept, List.filter_filter]
  simp only [Bool.and_comm]

/-- **Chained filters are a conjunction.** If a filter that joins two others by `$and` succeeds on
some documents, then both orders of the two as stages succeed as well, and so does a filter with the
clauses of the one behind those of the other, as it can be written when they share no key. All of
them keep the same documents, in the same order. -/
theorem filters_conjoin (s : Store) {kept : List Value}
    (h : s.apply [.filter [("$and", .array [.object a, .object b])]] docs = .ok kept) :
    s.apply [.filter a, .filter b] docs = .ok kept ∧
    s.apply [.filter b, .filter a] docs = .ok kept ∧
    s.apply [.filter (a ++ b)] docs = .ok kept := by
  rw [Store.apply_singleton] at h
  obtain ⟨keep, hkeep, rfl⟩ := filterItems_eq_ok h
  -- `$and` has asked both filters of every document, so no other form can meet an error
  have hdecided := fun doc hdoc => holds_and_eq_ok (hkeep doc hdoc)
  choose! p q hp hq hpq using hdecided
  have hkept : docs.filter keep = docs.filter fun doc => p doc && q doc := List.filter_congr hpq
  have hboth : ∀ doc ∈ docs, holds doc (a ++ b) = .ok (p doc && q doc) := by
    intro doc hdoc
    rw [holds_append, hp doc hdoc, ok_bind]
    cases p doc with
    | false => rfl
    | true => exact hq doc hdoc
  refine ⟨?_, ?_, ?_⟩
  · rw [apply_filters s hp hq, hkept]
  · rw [apply_filters s hq hp, hkept]
    simp only [Bool.and_comm]
  · rw [Store.apply_singleton, Store.applyStage_filter s hboth, hkept]

end Conjunction

attribute [local instance] regexEngine

/-- Players by role, in one team, in several or in none. -/
def samplePlayers : List Value :=
  [.object [("role", .string "keeper"), ("team", .array [.string "a", .string "c"])],
    .object [("role", .string "keeper"), ("team", .string "c")],
    .object [("role", .string "wing"), ("team", .string "b")],
    .object [("role", .string "keeper")]]

/-- Those who keep the goal. -/
def keeps : Document := [("role", .string "keeper")]

/-- Those in one of two teams, or in none. -/
def inTeams : Document :=
  [("$or", .array [.object [("team", .object [("$in", .array [.string "a", .string "b"])])],
    .object [("team", .object [("$exists", .bool false)])]])]

theorem filters_conjoin_samplePlayers :
    ∃ kept : List Value, kept.length = 2 ∧
      ({} : Store).apply [.filter [("$and", .array [.object keeps, .object inTeams])]] samplePlayers
        = .ok kept ∧
      ({} : Store).apply [.filter keeps, .filter inTeams] samplePlayers = .ok kept ∧
      ({} : Store).apply [.filter inTeams, .filter keeps] samplePlayers = .ok kept ∧
      ({} : Store).apply [.filter (keeps ++ inTeams)] samplePlayers = .ok kept := by
  have hkept : ({} : Store).apply [.filter [("$and", .array [.object keeps, .object inTeams])]]
      samplePlayers = .ok [.object [("role", .string "keeper"),
          ("team", .array [.string "a", .string "c"])], .object [("role", .string "keeper")]] := rfl
  exact ⟨_, rfl, hkept, filters_conjoin {} hkept⟩

/-- A second stage that is handed no document does not fail, where `$and` does. -/
example : ({} : Store).apply [.filter [("role", .null)], .filter [("$near", .null)]] samplePlayers
      = .ok [] ∧
    ∃ e, ({} : Store).apply [.filter [("$and", .array [.object [("role", .null)],
      .object [("$near", .null)]])]] samplePlayers = .error e :=
  ⟨rfl, _, rfl⟩

end DocQuery.Filter
