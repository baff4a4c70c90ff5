import DocQuery.Filter.RegexEngine
import DocQuery.Proofs.Filter.Equality
import DocQuery.Proofs.Store.Documents
import DocQuery.Proofs.Value.Order
import DocQuery.Query.Run

/-!
# Ranges and equality

Range conditions compare values by size within brackets alone: numbers, strings, booleans, and null.
So a range that includes its bound holds of what lies beyond the bound, and of what equals the bound
and is in its bracket (`holdsOfBound_or_same`). Equality knows no brackets. Arrays and objects equal
others of their kind as well, and null equals a field that offers nothing; what equals the bound is
in the range only where the field offers a value in the bracket of the bound (`any_bracketed`).
-/

namespace DocQuery.Filter

open Expression (Comparison)
open DocQuery.Path (candidates parse)

variable {values : List Value} {bound v : Value}

/-! ## Brackets -/

theorem gte_holds (o : Ordering) :
    Comparison.gte.holds o = (Comparison.gt.holds o || o == .eq) := by
  cases o <;> rfl

theorem lte_holds (o : Ordering) :
    Comparison.lte.holds o = (Comparison.lt.holds o || o == .eq) := by
  cases o <;> rfl

theorem sameBracket_of_same (h : v.same bound = true) :
    sameBracket v bound = sameBracket bound bound := by
  cases v <;> cases bound <;> first | rfl | simp [Value.same, Value.order, Value.rank] at h

theorem sameBracket_self (h : sameBracket v bound = true) : sameBracket bound bound = true := by
  cases bound <;> first | rfl | (cases v <;> cases h)

/-- Whether a value is held by one of some candidates; null is held by none of them as well. -/
def heldBy (values : List Value) (v : Value) : Bool :=
  (v.isNull && values.isEmpty) || values.any fun c => c.same v

theorem holdsOfValue_plain [Engine] (hv : Pattern.ofValue? v = none) (values : List Value) :
    holdsOfValue values v = .ok (heldBy values v) := by
  rw [holdsOfValue, hv, heldBy]
  cases v with
  | null => cases values with
    | nil => rfl
    | cons c rest => simp [Value.isNull, Value.same_null]
  | _ => simp [Value.isNull]

theorem holdsOfBound_or_same {strict inclusive : Comparison}
    (h : ∀ o, inclusive.holds o = (strict.holds o || o == .eq)) (values : List Value)
    (bound : Value) :
    holdsOfBound inclusive values bound = (holdsOfBound strict values bound ||
      values.any fun c => sameBracket c bound && c.same bound) := by
  induction values with
  | nil => rfl
  | cons c rest ih =>
    simp only [holdsOfBound, List.any_cons] at ih ⊢
    rw [ih, h, Bool.and_or_distrib_left]
    ac_rfl

theorem any_bracketed (values : List Value) (bound : Value) :
    (values.any fun c => sameBracket c bound && c.same bound)
      = (heldBy values bound && values.any fun c => sameBracket c bound) := by
  refine Bool.eq_iff_iff.mpr ?_
  simp only [heldBy, Bool.and_eq_true, Bool.or_eq_true, List.any_eq_true]
  constructor
  · rintro ⟨c, hc, hbracket, hsame⟩
    exact ⟨.inr ⟨c, hc, hsame⟩, c, hc, hbracket⟩
  · rintro ⟨hnull | ⟨c, hc, hsame⟩, other, hother, hbracket⟩
    · rw [List.isEmpty_iff.mp hnull.2] at hother
      cases hother
    · exact ⟨c, hc, (sameBracket_of_same hsame).trans (sameBracket_self hbracket), hsame⟩

/-- A range that includes its bound holds of what the range without it holds of, and of what equals
the bound and offers a value in its bracket. -/
theorem holdsOfBound_inclusive {strict inclusive : Comparison}
    (h : ∀ o, inclusive.holds o = (strict.holds o || o == .eq)) (values : List Value)
    (bound : Value) :
    holdsOfBound inclusive values bound = (holdsOfBound strict values bound ||
      (heldBy values bound && values.any fun c => sameBracket c bound)) := by
  rw [holdsOfBound_or_same h, any_bracketed]

theorem comparable_of_heldBy (hself : sameBracket bound bound = true) (hnull : bound.isNull = false)
    (h : heldBy values bound = true) : (values.any fun c => sameBracket c bound) = true := by
  rw [heldBy, hnull, Bool.false_and, Bool.false_or] at h
  obtain ⟨c, hc, hsame⟩ := List.any_eq_true.mp h
  exact List.any_eq_true.mpr ⟨c, hc, (sameBracket_of_same hsame).trans hself⟩

/-! ## Comparisons with a bound -/

section Comparisons

variable [Engine] {field : String}

/-- The call adds a filter that fails on no documents and keeps those with the given property. -/
def Keeps (c : Call) (keep : Value → Bool) : Prop :=
  ∀ q : Query, ∃ condition, q.call c = .ok (q.push (.filter condition)) ∧
    ∀ (s : Store) (docs : List Value), s.apply [.filter condition] docs = .ok (docs.filter keep)

theorem AddsFilter.keeps {c : Call} {outcome : Value → Except StoreError Bool} {keep : Value → Bool}
    (h : AddsFilter c outcome) (hkeep : ∀ doc, outcome doc = .ok (keep doc)) : Keeps c keep := by
  intro q
  obtain ⟨condition, hcall, hholds⟩ := h q
  refine ⟨condition, hcall, fun s docs => ?_⟩
  rw [Store.apply_singleton]
  exact Store.applyStage_filter s fun doc _ => (hholds doc).trans (hkeep doc)

/-- Whether a field offers a value in the bracket of the bound. -/
def offersComparable (field : String) (bound doc : Value) : Bool :=
  (candidates (parse field) doc).any fun c => sameBracket c bound

/-- **Ranges that include their bound contain what equals it, if it can be compared.** Let a field
not start with a dollar sign, and the bound be no pattern. No comparison with the bound fails. A
document is kept by `>=` when it is kept by `>`, or by `=` while its field offers a value in the
bracket of the bound; and so for `<=` and `<`. Whatever equals a number, a string or a boolean is in
the bracket. -/
theorem inclusive_ranges (hfield : startsWithDollar field = false)
    (hbound : Pattern.ofValue? bound = none) :
    ∃ equal greater less : Value → Bool,
      Keeps (.filterCompare field "=" (.value bound)) equal ∧
      Keeps (.filterCompare field ">" (.value bound)) greater ∧
      Keeps (.filterCompare field "<" (.value bound)) less ∧
      Keeps (.filterCompare field ">=" (.value bound))
        (fun doc => greater doc || (equal doc && offersComparable field bound doc)) ∧
      Keeps (.filterCompare field "<=" (.value bound))
        (fun doc => less doc || (equal doc && offersComparable field bound doc)) ∧
      (sameBracket bound bound = true → bound.isNull = false →
        ∀ doc, equal doc = true → offersComparable field bound doc = true) := by
  have hgt := addsFilter_compare hfield (rfl : Operator.parse ">" = .ok .gt) (.value bound)
  have hlt := addsFilter_compare hfield (rfl : Operator.parse "<" = .ok .lt) (.value bound)
  have hgte := addsFilter_compare hfield (rfl : Operator.parse ">=" = .ok .gte) (.value bound)
  have hlte := addsFilter_compare hfield (rfl : Operator.parse "<=" = .ok .lte) (.value bound)
  have heq := addsFilter_compare hfield (rfl : Operator.parse "=" = .ok .eq) (.value bound)
  refine ⟨fun doc => heldBy (candidates (parse field) doc) bound,
    fun doc => holdsOfBound .gt (candidates (parse field) doc) bound,
    fun doc => holdsOfBound .lt (candidates (parse field) doc) bound,
    heq.keeps fun doc => holdsOfValue_plain hbound _, hgt.keeps fun doc => rfl,
    hlt.keeps fun doc => rfl, hgte.keeps fun doc => ?_, hlte.keeps fun doc => ?_, ?_⟩
  · exact congrArg Except.ok (holdsOfBound_inclusive gte_holds _ bound)
  · exact congrArg Except.ok (holdsOfBound_inclusive lte_holds _ bound)
  · exact fun hself hnull doc hequal => comparable_of_heldBy hself hnull hequal

end Comparisons

attribute [local instance] regexEngine

theorem inclusive_ranges_score :
    startsWithDollar "score" = false ∧ Pattern.ofValue? (.ofInt 2) = none ∧
    ∃ equal greater : Value → Bool,
      Keeps (.filterCompare "score" "=" (.value (.ofInt 2))) equal ∧
      Keeps (.filterCompare "score" ">" (.value (.ofInt 2))) greater ∧
      Keeps (.filterCompare "score" ">=" (.value (.ofInt 2)))
        fun doc => greater doc || equal doc := by
  have hfield : startsWithDollar "score" = false := by decide
  have hbound : Pattern.ofValue? (.ofInt 2) = none := rfl
  obtain ⟨equal, greater, less, hequal, hgreater, -, hinclusive, -, hcomparable⟩ :=
    inclusive_ranges hfield hbound
  refine ⟨hfield, hbound, equal, greater, hequal, hgreater, ?_⟩
  have hall (doc : Value) : (equal doc && offersComparable "score" (.ofInt 2) doc) = equal doc :=
    Bool.and_eq_left_iff_imp.mpr (hcomparable rfl rfl doc)
  simpa only [hall] using hinclusive

/-- A list of tags equals itself and is in no range, and a field without a value equals null
alone. -/
theorem equal_and_out_of_range :
    let tags : Value := .array [.string "a"]
    let tagged : Value := .object [("tags", tags)]
    let untagged : Value := .object []
    (∃ equal atLeast, Condition.compare "tags" "=" (.value tags) = .ok equal ∧
      Condition.compare "tags" ">=" (.value tags) = .ok atLeast ∧
      ({} : Store).apply [.filter equal] [tagged] = .ok [tagged] ∧
      ({} : Store).apply [.filter atLeast] [tagged] = .ok []) ∧
    (∃ equal atMost, Condition.compare "tags" "=" (.value .null) = .ok equal ∧
      Condition.compare "tags" "<=" (.value .null) = .ok atMost ∧
      ({} : Store).apply [.filter equal] [untagged] = .ok [untagged] ∧
      ({} : Store).apply [.filter atMost] [untagged] = .ok []) :=
  ⟨⟨_, _, rfl, rfl, rfl, rfl⟩, _, _, rfl, rfl, rfl, rfl⟩

end DocQuery.Filter
