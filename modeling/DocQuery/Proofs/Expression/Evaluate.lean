import DocQuery.Proofs.FieldMap
import DocQuery.Proofs.Outcome
import DocQuery.Proofs.Path.Segments

/-!
# Evaluating expressions

One lemma for each kind of expression that generated stages are made of: what it evaluates to when
its parts evaluate. Strings read fields and variables (`eval_field`, `eval_variable`), the operators
on arrays bind their items (`eval_filter`, `eval_map`), and a patch of one field has the field when
its expression has a value (`eval_patch`).
-/

namespace DocQuery.Expression

variable {scope : Scope}

/-! ## Constants and references -/

theorem eval_number (scope : Scope) (x : Number) :
    eval scope (.number x) = .ok (some (.number x)) := rfl

theorem eval_string (scope : Scope) (text : String) :
    eval scope (.string text) = .ok (readString scope text) := rfl

theorem eval_text {text : String} (h : startsWithDollar text = false) :
    eval scope (.string text) = .ok (some (.string text)) := by
  rw [eval_string, readString]
  split
  · rename_i hchars
    simp [startsWithDollar, hchars] at h
  · rename_i hchars
    simp [startsWithDollar, hchars] at h
  · rfl

theorem eval_field {field : String} (h : startsWithDollar field = false) :
    eval scope (.string ("$" ++ field)) = .ok (Path.resolve (Path.parse field) scope.root) := by
  have hchars : ("$" ++ field).toList = '$' :: field.toList := by simp [String.toList_append]
  rw [eval_string, readString, hchars]
  split
  · rename_i heq
    simp [startsWithDollar, (List.cons.inj heq).2] at h
  · rename_i heq
    rw [← (List.cons.inj heq).2, String.ofList_toList]
  · rename_i hother
    exact (hother field.toList rfl).elim

theorem eval_variable {name : String} (h : Path.Undotted name) :
    eval scope (.string ("$$" ++ name)) = .ok (scope.lookup? name) := by
  have hchars : ("$$" ++ name).toList = '$' :: '$' :: name.toList := by simp [String.toList_append]
  simp only [eval_string, readString, hchars, String.ofList_toList, Path.parse_of_undotted h]
  rw [Path.resolve, Option.bind_fun_some]

theorem eval_variableField {name : String} (h : Path.Undotted name) (field : String) :
    eval scope (.string ("$$" ++ name ++ "." ++ field))
      = .ok ((scope.lookup? name).bind (Path.resolve (Path.parse field))) := by
  have hchars : ("$$" ++ name ++ "." ++ field).toList
      = '$' :: '$' :: (name ++ "." ++ field).toList := by simp [String.toList_append]
  simp only [eval_string, readString, hchars, String.ofList_toList, Path.parse_append_dot,
    Path.parse_of_undotted h, List.singleton_append]

/-! ## Comparisons -/

theorem typeName_eq_object {v : Option Value} :
    typeName v = "object" ↔ ∃ fields, v = some (.object fields) := by
  constructor
  · intro h
    cases v with
    | none => exact absurd h (by decide)
    | some v =>
        cases v with
        | object fields => exact ⟨fields, rfl⟩
        | number n =>
            simp only [typeName] at h
            split at h
            · split at h <;> exact absurd h (by decide)
            · exact absurd h (by decide)
        | _ => exact absurd h (by simp [typeName])
  · rintro ⟨fields, rfl⟩
    rfl

theorem evalPair_pair {key : String} {x y : Value} {v w : Option Value} (hx : eval scope x = .ok v)
    (hy : eval scope y = .ok w) : evalPair scope key (.array [x, y]) = .ok (v, w) := by
  show (eval scope x >>= fun v => eval scope y >>= _) = _
  rw [hx, hy]
  rfl

theorem eval_equal {x y : Value} {v w : Option Value} (hx : eval scope x = .ok v)
    (hy : eval scope y = .ok w) :
    eval scope (.object [("$eq", .array [x, y])])
      = .ok (some (.bool (Value.orderMissing v w == .eq))) := by
  show (evalPair scope "$eq" (.array [x, y]) >>= _) = _
  rw [evalPair_pair hx hy]
  rfl

theorem eval_among {x y : Value} {v : Option Value} {items : List Value} (hx : eval scope x = .ok v)
    (hy : eval scope y = .ok (some (.array items))) :
    eval scope (.object [("$in", .array [x, y])])
      = .ok (some (.bool (items.any fun item => item.same (v.getD .null)))) := by
  show (evalPair scope "$in" (.array [x, y]) >>= _) = _
  rw [evalPair_pair hx hy]
  rfl

theorem eval_among_not_array {x y : Value} {v w : Option Value} (hx : eval scope x = .ok v)
    (hy : eval scope y = .ok w) (hw : ∀ items, w ≠ some (.array items)) :
    eval scope (.object [("$in", .array [x, y])])
      = .error (.invalidArgument "$in" .secondNotArray) := by
  show (evalPair scope "$in" (.array [x, y]) >>= _) = _
  rw [evalPair_pair hx hy]
  show ((isAmong "$in" v w) >>= _) = _
  rw [isAmong.eq_def]
  split
  · exact absurd rfl (hw _)
  · rfl

theorem eval_ifNull_some {x fallback v : Value} (hx : eval scope x = .ok (some v))
    (hv : v.isNull = false) :
    eval scope (.object [("$ifNull", .array [x, fallback])]) = .ok (some v) := by
  show (eval scope x >>= _) = _
  rw [hx, ok_bind]
  cases v with
  | null => cases hv
  | _ => rfl

theorem eval_ifNull_null {x fallback : Value} {v : Option Value} (hx : eval scope x = .ok v)
    (hv : v = none ∨ v = some .null) :
    eval scope (.object [("$ifNull", .array [x, fallback])]) = eval scope fallback := by
  show (eval scope x >>= _) = _
  rw [hx, ok_bind]
  rcases hv with rfl | rfl <;> rfl

theorem eval_type {text : String} {v : Option Value} (hx : eval scope (.string text) = .ok v) :
    eval scope (.object [("$type", .string text)]) = .ok (some (.string (typeName v))) := by
  show (eval scope (.string text) >>= _) = _
  rw [hx, ok_bind]
  rfl

theorem eval_cond {test yes no : Value} {v : Option Value} (htest : eval scope test = .ok v) :
    eval scope (.object [("$cond", .object [("if", test), ("then", yes), ("else", no)])])
      = if Value.truthy v then eval scope yes else eval scope no := by
  show (eval scope test >>= _) = _
  rw [htest, ok_bind]

/-! ## Arrays -/

theorem eval_filter_items {input cond : Value} {name : String} {items : List Value}
    (hinput : eval scope input = .ok (some (.array items))) :
    eval scope
        (.object [("$filter", .object [("input", input), ("as", .string name), ("cond", cond)])])
      = (fun kept => some (.array kept)) <$>
          filterItems (fun item => Value.truthy <$> eval (scope.bind name item) cond) items := by
  show (eval scope input >>= _) = _
  rw [hinput, ok_bind]
  show (filterItems (fun item => eval (scope.bind name item) cond >>= _) items >>= _) = _
  simp only [pure_eq_ok, bind_ok_eq_map]

theorem eval_filter {input cond : Value} {name : String} {items : List Value}
    {test : Value → Option Value} (hinput : eval scope input = .ok (some (.array items)))
    (hcond : ∀ item ∈ items, eval (scope.bind name item) cond = .ok (test item)) :
    eval scope
        (.object [("$filter", .object [("input", input), ("as", .string name), ("cond", cond)])])
      = .ok (some (.array (items.filter fun item => Value.truthy (test item)))) := by
  rw [eval_filter_items hinput, filterItems_of_ok fun item hitem => ?_]
  · rfl
  · rw [hcond item hitem, map_ok]

theorem eval_map_items {input body : Value} {name : String} {items : List Value}
    (hinput : eval scope input = .ok (some (.array items))) :
    eval scope (.object [("$map", .object [("input", input), ("as", .string name), ("in", body)])])
      = (fun mapped => some (.array mapped)) <$>
          items.mapM fun item => (·.getD .null) <$> eval (scope.bind name item) body := by
  show (eval scope input >>= _) = _
  rw [hinput, ok_bind]
  show (items.mapM (fun item => eval (scope.bind name item) body >>= _) >>= _) = _
  simp only [pure_eq_ok, bind_ok_eq_map]

theorem eval_map {input body : Value} {name : String} {items : List Value} {f : Value → Value}
    (hinput : eval scope input = .ok (some (.array items)))
    (hbody : ∀ item ∈ items, eval (scope.bind name item) body = .ok (some (f item))) :
    eval scope (.object [("$map", .object [("input", input), ("as", .string name), ("in", body)])])
      = .ok (some (.array (items.map f))) := by
  rw [eval_map_items hinput, mapM_of_ok (g := f) fun item hitem => ?_]
  · rfl
  · rw [hbody item hitem, map_ok, Option.getD_some]

/-- Nothing is mapped to null. -/
theorem eval_map_nothing {input body : Value} {name : String} {v : Option Value}
    (hinput : eval scope input = .ok v) (hv : v = none ∨ v = some .null) :
    eval scope (.object [("$map", .object [("input", input), ("as", .string name), ("in", body)])])
      = .ok (some .null) := by
  show (eval scope input >>= _) = _
  rw [hinput, ok_bind]
  rcases hv with rfl | rfl <;> rfl

theorem eval_first {x : Value} {items : List Value}
    (hx : eval scope x = .ok (some (.array items))) :
    eval scope (.object [("$arrayElemAt", .array [x, .ofInt 0])]) = .ok items.head? := by
  have hzero : eval scope (.ofInt 0) = .ok (some (.ofInt 0)) := rfl
  show (evalPair scope "$arrayElemAt" (.array [x, .ofInt 0]) >>= _) = _
  rw [evalPair_pair hx hzero, List.head?_eq_getElem?]
  rfl

/-! ## Objects -/

theorem eval_patch_eq {field : String} (hfield : startsWithDollar field = false) (x : Value) :
    eval scope (.object [(field, x)])
      = (fun v => some (.object ((v.map fun found => (field, found)).toList)))
        <$> eval scope x := by
  rw [eval.eq_def]
  simp only [hfield, Bool.false_eq_true, if_false]
  cases eval scope x with
  | error e => rfl
  | ok v => cases v <;> rfl

theorem eval_patch {field : String} (hfield : startsWithDollar field = false) {x : Value}
    {v : Option Value} (hx : eval scope x = .ok v) :
    eval scope (.object [(field, x)])
      = .ok (some (.object ((v.map fun found => (field, found)).toList))) := by
  rw [eval_patch_eq hfield, hx, map_ok]

/-- The first object is collected anew, so that its keys stand once. -/
theorem eval_mergeObjects_collect {x y : Value} {fields patch : Document}
    (hx : eval scope x = .ok (some (.object fields)))
    (hy : eval scope y = .ok (some (.object patch))) :
    eval scope (.object [("$mergeObjects", .array [x, y])])
      = .ok (some (.object ((FieldMap.collect fields).merge patch))) := by
  have hparts : evalItems scope [x, y] = .ok [some (.object fields), some (.object patch)] := by
    simp only [evalItems, hx, hy, ok_bind, pure_eq_ok]
  show (evalItems scope [x, y] >>= _) = _
  rw [hparts, ok_bind]
  rfl

theorem eval_mergeObjects_error {x y : Value} {v : Option Value} {e : StoreError}
    (hx : eval scope x = .ok v) (hy : eval scope y = .error e) :
    eval scope (.object [("$mergeObjects", .array [x, y])]) = .error e := by
  have hparts : evalItems scope [x, y] = .error e := by
    simp only [evalItems, hx, hy, ok_bind, error_bind]
  show (evalItems scope [x, y] >>= _) = _
  rw [hparts, error_bind]

end DocQuery.Expression
