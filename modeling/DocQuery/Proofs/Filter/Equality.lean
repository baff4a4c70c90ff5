import DocQuery.Filter.RegexEngine
import DocQuery.Proofs.Filter.Conditions
import DocQuery.Proofs.Pattern
import DocQuery.Proofs.Query.Calls

/-!
# Ways to ask for equality

A comparison adds a filter with one operator, which looks at the candidates of its field alone
(`addsFilter_compare`). Of the operators, `$eq` asks for a candidate that equals the value, and
`$in` for one that equals any of several. A value that is no condition itself is asked for in the
same way, so a field that is to equal it can be written in three ways with one outcome. A pattern
among values is a pattern to match, and `$regex` matches it as well.
-/

namespace DocQuery.Filter

open DocQuery.Path (candidates parse)

/-- An operator is a key with a dollar sign, and neither marks a pattern nor negates a condition. -/
theorem key_of_operator (op : Operator) :
    startsWithDollar op.key = true ∧ op.key ≠ Pattern.valueKey ∧ op.key ≠ "$not" := by
  cases op <;> decide

/-- A pattern is a value and no condition. -/
theorem operators?_toValue (p : Pattern) : operators? p.toValue = none := by
  simp [operators?, Pattern.toValue, FieldMap.hasKey, FieldMap.get?]

section Calls

variable [Engine] {c : Call} {field : String}

/-- The call adds a filter that has the given outcome on every document. -/
def AddsFilter (c : Call) (outcome : Value → Except StoreError Bool) : Prop :=
  ∀ q : Query, ∃ condition, q.call c = .ok (q.push (.filter condition)) ∧
    ∀ doc, holds doc condition = outcome doc

theorem AddsFilter.congr {outcome outcome' : Value → Except StoreError Bool}
    (h : AddsFilter c outcome) (heq : ∀ doc, outcome doc = outcome' doc) :
    AddsFilter c outcome' := by
  rwa [funext heq] at h

theorem addsFilter_compare (hfield : startsWithDollar field = false) {token : String}
    {op : Operator} (hop : Operator.parse token = .ok op) (operand : Operand) :
    AddsFilter (.filterCompare field token operand) fun doc =>
      holdsOfOperator (candidates (parse field) doc) [(op.key, operand.toValue op)] op.key
        (operand.toValue op) := by
  obtain ⟨hdollar, hpattern, hnot⟩ := key_of_operator op
  refine fun q => ⟨Condition.equals field (.object [(op.key, operand.toValue op)]), ?_,
    fun doc => ?_⟩
  · rw [Query.call, Query.filterCompare, Condition.compare, hop]
    rfl
  · rw [Condition.equals, holds_field hfield, holdsOfCondition_operator hdollar hpattern hnot]

theorem addsFilter_equals (hfield : startsWithDollar field = false) (value : Value) :
    AddsFilter (.filterEquals field value) fun doc =>
      holdsOfCondition (candidates (parse field) doc) value := by
  refine fun q => ⟨Condition.equals field value, rfl, fun doc => ?_⟩
  rw [Condition.equals, holds_field hfield]

/-! ## Equality with one value -/

theorem holdsOfCondition_value {value : Value} (h : operators? value = none)
    (candidates : List Value) :
    holdsOfCondition candidates value = holdsOfValue candidates value := by
  cases value with
  | object fields => rw [holdsOfCondition, h, if_neg (by decide)]
  | _ => rfl

theorem holdsOfAny_singleton (candidates : List Value) (value : Value) :
    holdsOfAny candidates [value] = holdsOfValue candidates value := by
  rw [holdsOfAny]
  cases holdsOfValue candidates value with
  | error e => rfl
  | ok answer => cases answer <;> rfl

/-- The calls that ask for a field to equal a value. -/
def equalityCalls (field : String) (value : Value) : List Call :=
  [.filterEquals field value, .filterCompare field "=" (.value value),
    .filterCompare field "in" (.value (.array [value]))]

theorem addsFilter_of_equalityCalls (hfield : startsWithDollar field = false) {value : Value}
    (hvalue : operators? value = none) : ∀ c ∈ equalityCalls field value,
      AddsFilter c fun doc => holdsOfValue (candidates (parse field) doc) value := by
  have hbare := (addsFilter_equals hfield value).congr fun doc => holdsOfCondition_value hvalue _
  have heq := addsFilter_compare hfield (rfl : Operator.parse "=" = .ok .eq) (.value value)
  have hin := addsFilter_compare hfield (rfl : Operator.parse "in" = .ok .isIn)
    (.value (.array [value]))
  intro c hc
  simp only [equalityCalls, List.mem_cons, List.not_mem_nil, or_false] at hc
  rcases hc with rfl | rfl | rfl
  · exact hbare
  · exact heq
  · exact hin.congr fun doc => holdsOfAny_singleton _ value

/-! ## Patterns -/

/-- A pattern among values asks the engine for the pattern itself. -/
theorem holdsOfValue_pattern {source options : String} {p : Pattern}
    (h : Pattern.make source options = .ok p) (candidates : List Value) :
    holdsOfValue candidates p.toValue = (do anyString (← Engine.compile p) candidates) := by
  rw [holdsOfValue, Pattern.ofValue?_of_make h]
  rfl

theorem holdsOfPattern_toValue {source options : String} {p : Pattern}
    (h : Pattern.make source options = .ok p) (candidates : List Value) (key : String)
    (siblings : Document) :
    holdsOfPattern candidates key siblings p.toValue
      = (do anyString (← Engine.compile p) candidates) := by
  have hpattern : patternOf key siblings p.toValue = .ok (.ok p) := by
    rw [patternOf, Pattern.ofValue?_of_make h]
    exact fun source hsource => nomatch hsource
  rw [holdsOfPattern, hpattern]
  rfl

/-- **The ways to ask for equality agree.** Let a field not start with a dollar sign. That it equals
a value which is no condition itself can be asked as a bare value, by `=`, and by `in` with a list
of the one value: the three have the same answer or the same error on every document. If the value
is a pattern, `regex` agrees with them as well, and all ask the engine whether the pattern matches a
string that the field offers. -/
theorem equality_spellings_agree (hfield : startsWithDollar field = false) :
    (∀ value, operators? value = none → ∀ c ∈ equalityCalls field value,
      AddsFilter c fun doc => holdsOfValue (candidates (parse field) doc) value) ∧
    (∀ source options p, Pattern.make source options = .ok p →
      ∀ c ∈ .filterCompare field "regex" (.pattern p) :: equalityCalls field p.toValue,
        AddsFilter c fun doc => do
          anyString (← Engine.compile p) (candidates (parse field) doc)) := by
  refine ⟨fun value hvalue => addsFilter_of_equalityCalls hfield hvalue,
    fun source options p hp => ?_⟩
  refine List.forall_mem_cons.mpr ⟨?_, fun c hc => ?_⟩
  · have hregex :=
      addsFilter_compare hfield (rfl : Operator.parse "regex" = .ok .regex) (.pattern p)
    exact hregex.congr fun doc => holdsOfPattern_toValue hp _ _ _
  · have hvalue := addsFilter_of_equalityCalls hfield (operators?_toValue p) c hc
    exact hvalue.congr fun doc => holdsOfValue_pattern hp _

end Calls

attribute [local instance] regexEngine

/-- A member with two names, of which one is an empty object. -/
def oddlyNamed : Value := .object [("name", .array [.string "Bo", .object []])]

theorem equality_spellings_agree_oddlyNamed :
    let p : Pattern := ⟨"^b", "i"⟩
    startsWithDollar "name" = false ∧ operators? (.object []) = none ∧
    (∀ c ∈ equalityCalls "name" (.object []), ∀ q : Query, ∃ condition,
      q.call c = .ok (q.push (.filter condition)) ∧ holds oddlyNamed condition = .ok true) ∧
    Pattern.make "^b" "ii" = .ok p ∧
    ∀ c ∈ .filterCompare "name" "regex" (.pattern p) :: equalityCalls "name" p.toValue,
      ∀ q : Query, ∃ condition,
        q.call c = .ok (q.push (.filter condition)) ∧ holds oddlyNamed condition = .ok true := by
  intro p
  have hfield : startsWithDollar "name" = false := by decide
  have hvalue : operators? (.object []) = none := rfl
  have hp : Pattern.make "^b" "ii" = .ok p := rfl
  have hmatch : (do anyString (← Engine.compile p) (candidates (parse "name") oddlyNamed))
      = .ok true := eq_ok_of_toOption (by decide +kernel)
  obtain ⟨hvalues, hpatterns⟩ := equality_spellings_agree hfield
  refine ⟨hfield, hvalue, fun c hc q => ?_, hp, fun c hc q => ?_⟩
  · obtain ⟨condition, hcall, hholds⟩ := hvalues _ hvalue c hc q
    exact ⟨condition, hcall, (hholds oddlyNamed).trans rfl⟩
  · obtain ⟨condition, hcall, hholds⟩ := hpatterns _ _ p hp c hc q
    exact ⟨condition, hcall, (hholds oddlyNamed).trans hmatch⟩

end DocQuery.Filter
