import DocQuery.Filter.Evaluate
import DocQuery.Proofs.Expression.Reads

/-!
# What a filter reads

A clause of a filter reads the field whose path is its key, and an expression reads what its strings
name. The branches of connectives are filters again, so what decides on a filter are its clauses
without branches, at any depth (`holds_of_simple`).

A filter that avoids some fields (`avoids`) has the same answer, or the same error, on documents
that differ in these fields alone (`holds_of_avoids`).
-/

namespace DocQuery.Filter

open Expression (Alike)

/-- Whether a clause without branches reads neither the document as a whole nor one of the named
fields. Other keys with a dollar sign than that of an expression name no field. -/
def avoidsSimple (names : List String) (key : String) (cond : Value) : Bool :=
  if key = "$expr" then Expression.avoids names cond
  else startsWithDollar key || Path.head key ∉ names

mutual

/-- Whether a clause avoids the document and the named fields, in all its branches if it has any. -/
def avoidsClause (names : List String) (key : String) : Value → Bool
  | .array branches =>
    if (Connective.ofKey? key).isSome then avoidsBranches names branches
    else avoidsSimple names key (.array branches)
  | cond => avoidsSimple names key cond
termination_by structural cond => cond

/-- Whether all branches avoid the document and the named fields. -/
def avoidsBranches (names : List String) : List Value → Bool
  | [] => true
  | .object filter :: rest => avoids names filter && avoidsBranches names rest
  | _ :: rest => avoidsBranches names rest
termination_by structural branches => branches

/-- Whether no clause of a filter reads the document as a whole or one of the named fields. -/
def avoids (names : List String) : List (String × Value) → Bool
  | [] => true
  | (key, cond) :: rest => avoidsClause names key cond && avoids names rest
termination_by structural clauses => clauses

end

/-! ## The clauses of a filter -/

mutual

/-- The clauses without branches that a clause is made of. -/
def simpleOfClause (key : String) : Value → List (String × Value)
  | .array branches =>
    if (Connective.ofKey? key).isSome then simpleOfBranches branches else [(key, .array branches)]
  | cond => [(key, cond)]
termination_by structural cond => cond

/-- The clauses without branches in the branches of a connective. -/
def simpleOfBranches : List Value → List (String × Value)
  | [] => []
  | .object filter :: rest => simpleClauses filter ++ simpleOfBranches rest
  | _ :: rest => simpleOfBranches rest
termination_by structural branches => branches

/-- The clauses of a filter that have no branches, at any depth. -/
def simpleClauses : List (String × Value) → List (String × Value)
  | [] => []
  | (key, cond) :: rest => simpleOfClause key cond ++ simpleClauses rest
termination_by structural clauses => clauses

end

section Outcomes

variable [Engine]

/-- Two documents have the same outcome in a clause without branches. -/
def SameOutcome (root root' : Value) (clause : String × Value) : Prop :=
  holdsOfSimpleClause root clause.1 clause.2 = holdsOfSimpleClause root' clause.1 clause.2

mutual

theorem holdsOfClause_of_simple {root root' : Value} (key : String) : (cond : Value) →
    (∀ clause ∈ simpleOfClause key cond, SameOutcome root root' clause) →
      holdsOfClause root key cond = holdsOfClause root' key cond
  | .array branches, h => by
      rw [simpleOfClause] at h
      rw [holdsOfClause, holdsOfClause]
      cases hkey : Connective.ofKey? key with
      | none =>
          rw [hkey, if_neg (by decide), List.forall_mem_singleton] at h
          exact h
      | some connective =>
          rw [hkey, if_pos Option.isSome_some] at h
          simp only [branchAnswers_of_simple key branches h]
  | .null, h => h (key, .null) (List.mem_singleton_self _)
  | .bool b, h => h (key, .bool b) (List.mem_singleton_self _)
  | .number n, h => h (key, .number n) (List.mem_singleton_self _)
  | .string s, h => h (key, .string s) (List.mem_singleton_self _)
  | .object fields, h => h (key, .object fields) (List.mem_singleton_self _)

theorem branchAnswers_of_simple {root root' : Value} (key : String) : (branches : List Value) →
    (∀ clause ∈ simpleOfBranches branches, SameOutcome root root' clause) →
      branchAnswers root key branches = branchAnswers root' key branches
  | [], _ => rfl
  | .object filter :: rest, h => by
      rw [simpleOfBranches, List.forall_mem_append] at h
      rw [branchAnswers, branchAnswers, holds_of_simple filter h.1,
        branchAnswers_of_simple key rest h.2]
  | .null :: _, _ => rfl
  | .bool _ :: _, _ => rfl
  | .number _ :: _, _ => rfl
  | .string _ :: _, _ => rfl
  | .array _ :: _, _ => rfl

/-- Documents with the same outcome in all clauses without branches have the same outcome in the
filter. -/
theorem holds_of_simple {root root' : Value} : (clauses : List (String × Value)) →
    (∀ clause ∈ simpleClauses clauses, SameOutcome root root' clause) →
      holds root clauses = holds root' clauses
  | [], _ => rfl
  | (key, cond) :: rest, h => by
      rw [simpleClauses, List.forall_mem_append] at h
      rw [holds, holds, holdsOfClause_of_simple key cond h.1, holds_of_simple rest h.2]

end

/-- A clause without branches looks at the value of an expression or at the candidates of a
field. -/
theorem sameOutcome_of_reads {root root' : Value} {key : String} {cond : Value}
    (hexpr : key = "$expr" →
      Expression.eval { root } cond = Expression.eval { root := root' } cond)
    (hfield : startsWithDollar key = false →
      Path.candidates (Path.parse key) root = Path.candidates (Path.parse key) root') :
    SameOutcome root root' (key, cond) := by
  unfold SameOutcome holdsOfSimpleClause
  split
  · rfl
  · split
    · rename_i h
      rw [hexpr h]
    · split
      · rfl
      · rename_i hdollar
        rw [hfield (Bool.eq_false_iff.mpr hdollar)]

end Outcomes

/-! ## Documents that differ in the avoided fields -/

variable {names : List String} {doc doc' : Document}

theorem avoidsSimple_iff (key : String) (cond : Value) : avoidsSimple names key cond = true ↔
    ∀ clause ∈ [(key, cond)], avoidsSimple names clause.1 clause.2 = true := by
  rw [List.forall_mem_singleton]

mutual

theorem avoidsClause_iff_simple (key : String) : (cond : Value) →
    (avoidsClause names key cond = true ↔
      ∀ clause ∈ simpleOfClause key cond, avoidsSimple names clause.1 clause.2 = true)
  | .array branches => by
      rw [avoidsClause, simpleOfClause]
      split
      · exact avoidsBranches_iff_simple branches
      · exact avoidsSimple_iff key (.array branches)
  | .null => avoidsSimple_iff key .null
  | .bool b => avoidsSimple_iff key (.bool b)
  | .number n => avoidsSimple_iff key (.number n)
  | .string s => avoidsSimple_iff key (.string s)
  | .object fields => avoidsSimple_iff key (.object fields)

theorem avoidsBranches_iff_simple : (branches : List Value) →
    (avoidsBranches names branches = true ↔
      ∀ clause ∈ simpleOfBranches branches, avoidsSimple names clause.1 clause.2 = true)
  | [] => iff_of_true rfl nofun
  | .object filter :: rest => by
      rw [avoidsBranches, simpleOfBranches, Bool.and_eq_true, List.forall_mem_append,
        avoids_iff_simple filter, avoidsBranches_iff_simple rest]
  | .null :: rest => avoidsBranches_iff_simple rest
  | .bool _ :: rest => avoidsBranches_iff_simple rest
  | .number _ :: rest => avoidsBranches_iff_simple rest
  | .string _ :: rest => avoidsBranches_iff_simple rest
  | .array _ :: rest => avoidsBranches_iff_simple rest

theorem avoids_iff_simple : (clauses : List (String × Value)) →
    (avoids names clauses = true ↔
      ∀ clause ∈ simpleClauses clauses, avoidsSimple names clause.1 clause.2 = true)
  | [] => iff_of_true rfl nofun
  | (key, cond) :: rest => by
      rw [avoids, simpleClauses, Bool.and_eq_true, List.forall_mem_append,
        avoidsClause_iff_simple key cond, avoids_iff_simple rest]

end

theorem sameOutcome_of_avoids [Engine] (hdocs : doc.outside names = doc'.outside names)
    {key : String} {cond : Value} (h : avoidsSimple names key cond = true) :
    SameOutcome (.object doc) (.object doc') (key, cond) := by
  unfold avoidsSimple at h
  refine sameOutcome_of_reads (fun hexpr => ?_) fun hdollar => ?_
  · rw [if_pos hexpr] at h
    have halike : Alike (.object doc) (.object doc') cond := Expression.alike_of_avoids hdocs h
    exact halike []
  · have hexpr : key ≠ "$expr" := by
      rintro rfl
      cases hdollar
    rw [if_neg hexpr, hdollar, Bool.false_or] at h
    exact Path.candidates_of_get?_head (FieldMap.get?_eq_of_outside_eq hdocs (of_decide_eq_true h))

/-- Documents that differ in avoided fields alone give a filter the same outcome. -/
theorem holds_of_avoids [Engine] (hdocs : doc.outside names = doc'.outside names)
    (clauses : List (String × Value)) (h : avoids names clauses = true) :
    holds (.object doc) clauses = holds (.object doc') clauses :=
  holds_of_simple clauses fun clause hmem =>
    sameOutcome_of_avoids hdocs ((avoids_iff_simple clauses).mp h clause hmem)

end DocQuery.Filter
