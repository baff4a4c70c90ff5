import DocQuery.Filter.Evaluate
import DocQuery.Proofs.Outcome

/-!
# Conditions on one field

A filter with one clause on a field asks for its condition on the candidates that the field offers
(`holds_field`); a condition with one operator asks that operator alone
(`holdsOfCondition_operator`).
-/

namespace DocQuery.Filter

theorem ofKey?_of_not_dollar {key : String} (h : startsWithDollar key = false) :
    Connective.ofKey? key = none := by
  unfold Connective.ofKey?
  split <;> first | rfl | cases h

theorem isSome_operators? {op : String} (hdollar : startsWithDollar op = true)
    (hpattern : op ≠ Pattern.valueKey) (arg : Value) :
    (operators? (.object [(op, arg)])).isSome = true := by
  simp [operators?, FieldMap.keys, FieldMap.hasKey, FieldMap.get?, hdollar, hpattern]

variable [Engine]

theorem holds_singleton (doc : Value) (key : String) (cond : Value) :
    holds doc [(key, cond)] = holdsOfClause doc key cond := by
  rw [holds]
  cases holdsOfClause doc key cond with
  | error e => rfl
  | ok answer => cases answer <;> rfl

section Field

variable {key : String} (hdollar : startsWithDollar key = false)

include hdollar

theorem holdsOfSimpleClause_field (doc cond : Value) :
    holdsOfSimpleClause doc key cond
      = holdsOfCondition (Path.candidates (Path.parse key) doc) cond := by
  have hexpr : key ≠ "$expr" := by
    rintro rfl
    cases hdollar
  rw [holdsOfSimpleClause, ofKey?_of_not_dollar hdollar, if_neg (by decide), if_neg hexpr, hdollar,
    if_neg (by decide)]

theorem holdsOfClause_field (doc cond : Value) :
    holdsOfClause doc key cond = holdsOfCondition (Path.candidates (Path.parse key) doc) cond := by
  rw [← holdsOfSimpleClause_field hdollar]
  cases cond with
  | array branches => rw [holdsOfClause, ofKey?_of_not_dollar hdollar]
  | _ => rw [holdsOfClause]; intro branches hbranches; cases hbranches

theorem holds_field (doc cond : Value) :
    holds doc [(key, cond)] = holdsOfCondition (Path.candidates (Path.parse key) doc) cond := by
  rw [holds_singleton, holdsOfClause_field hdollar]

end Field

theorem holdsOfCondition_operator {op : String} (hdollar : startsWithDollar op = true)
    (hpattern : op ≠ Pattern.valueKey) (hnot : op ≠ "$not") (candidates : List Value)
    (arg : Value) :
    holdsOfCondition candidates (.object [(op, arg)])
      = holdsOfOperator candidates [(op, arg)] op arg := by
  rw [holdsOfCondition, if_pos (isSome_operators? hdollar hpattern arg), holdsOfOperators,
    if_neg hnot]
  cases holdsOfOperator candidates [(op, arg)] op arg with
  | error e => rfl
  | ok answer => cases answer <;> rfl

theorem holdsOfCondition_in (candidates values : List Value) :
    holdsOfCondition candidates (.object [("$in", .array values)])
      = holdsOfAny candidates values := by
  rw [holdsOfCondition_operator (by decide) (by decide) (by decide)]
  rfl

theorem holdsOfAny_of_ok {candidates : List Value} {p : Value → Bool} {values : List Value}
    (h : ∀ value ∈ values, holdsOfValue candidates value = .ok (p value)) :
    holdsOfAny candidates values = .ok (values.any p) := by
  induction values with
  | nil => rfl
  | cons value rest ih =>
      have hrest := ih fun other hother => h other (List.mem_cons_of_mem _ hother)
      rw [holdsOfAny, h value (List.mem_cons_self ..), ok_bind, hrest, List.any_cons]
      cases p value <;> rfl

end DocQuery.Filter
