import DocQuery.Proofs.Expression.Evaluate
import DocQuery.Proofs.Join.Stages

/-!
# What the merging expressions compute

A nested join puts everything its parents refer to into a temporary field and merges it from there.
For a single parent that is all there is to merge, if it is an object
(`eval_mergeIntoObject_object`, `eval_mergeIntoObject_other`). For a list of parents an expression
runs the inner loop: it maps over the parents and filters the temporary field by the reference of
each (`eval_mergeIntoItems`). The condition it filters by compares the other way round than a lookup
does, and equality is symmetric.
-/

namespace DocQuery.Join

open Expression (eval Scope)
open DocQuery.Path

/-! ## Names -/

theorem undotted_tempField {parent child : String} (hparent : Undotted parent)
    (hchild : Undotted child) : Undotted (tempField parent child) := by
  simp only [Undotted, tempField, String.toList_append, List.mem_append, not_or]
  exact ⟨⟨⟨hparent, by decide⟩, hchild⟩, by decide⟩

theorem startsWithDollar_tempField {parent : String} (child : String)
    (hparent : startsWithDollar parent = false) :
    startsWithDollar (tempField parent child) = false := by
  simp only [startsWithDollar, tempField, String.toList_append] at hparent ⊢
  cases hchars : parent.toList with
  | nil => rfl
  | cons c rest =>
      rw [hchars] at hparent
      exact hparent

theorem tempField_ne (parent child : String) : tempField parent child ≠ parent := by
  intro h
  have hlength := congrArg String.length h
  simp only [tempField, String.length_append] at hlength
  have hunderscore : "_".length = 1 := rfl
  omega

theorem resolve_field (field : String) (doc : Document) :
    resolve [field] (.object doc) = doc.get? field := by
  rw [resolve, readField_object, resolve, Option.bind_fun_some]

theorem eval_fieldRef {scope : Scope} {doc : Document} (hroot : scope.root = .object doc)
    {field : String} (hfield : Undotted field) (hdollar : startsWithDollar field = false) :
    eval scope (fieldRef field) = .ok (doc.get? field) := by
  rw [fieldRef, Expression.eval_field hdollar, parse_of_undotted hfield, hroot, resolve_field]

theorem eval_candidates {scope : Scope} {temp : String} {found : List Value} {cond : Value}
    {test : Value → Bool} (htemp : eval scope (fieldRef temp) = .ok (some (.array found)))
    (hcond : ∀ candidate ∈ found,
      eval (scope.bind candidateName candidate) cond = .ok (some (.bool (test candidate)))) :
    eval scope (candidates temp cond) = .ok (some (.array (found.filter test))) := by
  rw [candidates, call, Expression.eval_filter htemp hcond]
  rfl

/-! ## The inner loop -/

section Items

variable {schema : Schema} {t : Relationship} {scope : Scope} {fields : Document} {child : String}

theorem eval_identity (item candidate : Value) (identity : String) :
    eval ((scope.bind itemName item).bind candidateName candidate)
        (variableFieldRef candidateName identity)
      = .ok (resolve (parse identity) candidate) := by
  rw [variableFieldRef, Expression.eval_variableField (by decide)]
  rfl

theorem eval_reference (candidate : Value) (hchild : Undotted child) :
    eval ((scope.bind itemName (.object fields)).bind candidateName candidate)
        (variableFieldRef itemName child)
      = .ok (fields.get? child) := by
  rw [variableFieldRef, Expression.eval_variableField (by decide), parse_of_undotted hchild,
    ← resolve_field child fields]
  rfl

/-- The condition of a single reference. -/
theorem eval_names_one (hchild : Undotted child) (hone : t.cardinality = .one) {candidate : Value}
    (hid : HasIdentity (schema.identityOf t.target) candidate) :
    eval ((scope.bind itemName (.object fields)).bind candidateName candidate)
        (call "$eq" (.array [variableFieldRef candidateName (schema.identityOf t.target),
          variableFieldRef itemName child]))
      = .ok (some (.bool (pointsTo schema t (fields.get? child) candidate))) := by
  obtain ⟨id, hresolve, -, -⟩ := hid
  rw [call, Expression.eval_equal (eval_identity _ _ _) (eval_reference candidate hchild), pointsTo,
    hone, hresolve, Option.any_some]
  cases fields.get? child with
  | none => rfl
  | some reference =>
      rw [refersTo, Value.same_comm]
      rfl

/-- The items of a list of references; null and nothing are no list. -/
def listed : Option Value → List Value
  | some (.array references) => references
  | _ => []

theorem any_listed (reference : Option Value) (id : Value) :
    ((listed reference).any fun item => item.same id) = refersTo .many reference id := by
  cases reference with
  | none => rfl
  | some v => cases v <;> rfl

/-- A missing list of references is read as an empty one. -/
theorem eval_listed (hchild : Undotted child) (hshape : WellShaped .many (fields.get? child))
    (candidate : Value) :
    eval ((scope.bind itemName (.object fields)).bind candidateName candidate)
        (call "$ifNull" (.array [variableFieldRef itemName child, .array []]))
      = .ok (some (.array (listed (fields.get? child)))) := by
  have hreference : eval ((scope.bind itemName (.object fields)).bind candidateName candidate)
      (variableFieldRef itemName child) = .ok (fields.get? child) := eval_reference candidate hchild
  rcases hshape with hget | hget | ⟨items, hget⟩
  · rw [call, Expression.eval_ifNull_null hreference (.inl hget), hget]
    rfl
  · rw [call, Expression.eval_ifNull_null hreference (.inr hget), hget]
    rfl
  · rw [hget] at hreference ⊢
    rw [call, Expression.eval_ifNull_some hreference rfl]
    rfl

/-- The condition of a list of references. -/
theorem eval_names_many (hchild : Undotted child) (hmany : t.cardinality = .many)
    (hshape : WellShaped t.cardinality (fields.get? child)) {candidate : Value}
    (hid : HasIdentity (schema.identityOf t.target) candidate) :
    eval ((scope.bind itemName (.object fields)).bind candidateName candidate)
        (call "$in" (.array [variableFieldRef candidateName (schema.identityOf t.target),
          call "$ifNull" (.array [variableFieldRef itemName child, .array []])]))
      = .ok (some (.bool (pointsTo schema t (fields.get? child) candidate))) := by
  obtain ⟨id, hresolve, -, -⟩ := hid
  rw [hmany] at hshape
  rw [call, Expression.eval_among (eval_identity _ _ _) (eval_listed hchild hshape candidate),
    hresolve, Option.getD_some, any_listed, pointsTo, hmany, hresolve, Option.any_some]

/-- What the expression for one parent finds among the candidates. -/
theorem eval_matchesOfItem (hchild : Undotted child)
    (hshape : WellShaped t.cardinality (fields.get? child)) {temp : String} {found : List Value}
    (hfound : ∀ candidate ∈ found, HasIdentity (schema.identityOf t.target) candidate)
    (htemp : eval (scope.bind itemName (.object fields)) (fieldRef temp)
      = .ok (some (.array found))) :
    eval (scope.bind itemName (.object fields))
        (matchesOfItem child t.cardinality temp (schema.identityOf t.target))
      = .ok (foundValue t.cardinality (found.filter (pointsTo schema t (fields.get? child)))) := by
  cases hcard : t.cardinality with
  | one =>
      exact Expression.eval_first (eval_candidates htemp fun candidate hmem =>
        eval_names_one hchild hcard (hfound candidate hmem))
  | many =>
      exact eval_candidates htemp fun candidate hmem =>
        eval_names_many hchild hcard hshape (hfound candidate hmem)

end Items

/-! ## Merging -/

theorem merge_foundValue (cardinality : Cardinality) (child : String) (found : List Value)
    (fields : Document) :
    fields.merge ((foundValue cardinality found).map fun v => (child, v)).toList
      = putFound cardinality child found fields := by
  rw [putFound]
  cases foundValue cardinality found <;> rfl

/-- A patch is merged as far as its expression has a value. -/
theorem eval_merge_patch {scope : Scope} {x : Value} {fields : Document} {child : String}
    (hdollar : startsWithDollar child = false) (hx : eval scope x = .ok (some (.object fields)))
    (e : Value) :
    eval scope (call "$mergeObjects" (.array [x, .object [(child, e)]]))
      = (fun v => some (.object ((FieldMap.collect fields).merge
          (v.map fun found => (child, found)).toList))) <$> eval scope e := by
  cases he : eval scope e with
  | error err =>
      rw [call, Expression.eval_mergeObjects_error hx
        (by rw [Expression.eval_patch_eq hdollar, he]; rfl)]
      rfl
  | ok v =>
    rw [call, Expression.eval_mergeObjects_collect hx (Expression.eval_patch hdollar he), map_ok]

theorem eval_merge {scope : Scope} {x e : Value} {fields : Document} {cardinality : Cardinality}
    {child : String} {found : List Value} (hdollar : startsWithDollar child = false)
    (hfields : fields.DistinctKeys) (hx : eval scope x = .ok (some (.object fields)))
    (he : eval scope e = .ok (foundValue cardinality found)) :
    eval scope (call "$mergeObjects" (.array [x, .object [(child, e)]]))
      = .ok (some (.object (putFound cardinality child found fields))) := by
  rw [eval_merge_patch hdollar hx, he, map_ok, FieldMap.collect, FieldMap.merge_nil_left hfields,
    merge_foundValue]

section Parent

variable {schema : Schema} {t : Relationship} {doc : Document} {parent child : String}

/-- A list of parents is merged item by item. -/
theorem eval_mergeIntoItems (hparent : Undotted parent) (hchild : Undotted child)
    (hparent' : startsWithDollar parent = false) (hchild' : startsWithDollar child = false)
    {items found : List Value} (hget : doc.get? parent = some (.array items))
    (htemp : doc.get? (tempField parent child) = some (.array found))
    (hfound : ∀ candidate ∈ found, HasIdentity (schema.identityOf t.target) candidate)
    (hitems : ∀ item ∈ items, Refers t child item) :
    eval { root := .object doc }
        (mergeIntoItems parent child t.cardinality (tempField parent child)
          (schema.identityOf t.target))
      = .ok (some (.array (items.map (Value.mapFields fun fields =>
          putFound t.cardinality child
            (found.filter (pointsTo schema t (FieldMap.get? fields child))) fields)))) := by
  have hinput : eval { root := .object doc } (fieldRef parent) = .ok (some (.array items)) :=
    hget ▸ eval_fieldRef rfl hparent hparent'
  refine Expression.eval_map hinput fun item hmem => ?_
  obtain ⟨fields, rfl, hfields, hshape⟩ := hitems item hmem
  let scope : Scope := { root := .object doc }
  have hitem : eval (scope.bind itemName (.object fields)) (variableRef itemName)
      = .ok (some (.object fields)) := Expression.eval_variable (by decide)
  have hcandidates : eval (scope.bind itemName (.object fields)) (fieldRef (tempField parent child))
      = .ok (some (.array found)) :=
    htemp ▸ eval_fieldRef rfl (undotted_tempField hparent hchild)
      (startsWithDollar_tempField child hparent')
  exact eval_merge hchild' hfields hitem
    (eval_matchesOfItem hchild hshape hfound hcandidates)

/-- The condition that the parent is an object. -/
theorem eval_isObject (doc : Document) (hparent : Undotted parent)
    (hparent' : startsWithDollar parent = false) :
    eval { root := .object doc }
        (call "$eq" (.array [call "$type" (fieldRef parent), .string "object"]))
      = .ok (some (.bool (compare (Expression.typeName (doc.get? parent)) "object" == .eq))) := by
  have hfield : eval { root := .object doc } (fieldRef parent) = .ok (doc.get? parent) :=
    eval_fieldRef rfl hparent hparent'
  have htext : startsWithDollar "object" = false := by decide
  exact Expression.eval_equal (Expression.eval_type hfield) (Expression.eval_text htext)

/-- A single parent is merged with everything in the temporary field. -/
theorem eval_mergeIntoObject_object (hparent : Undotted parent) (hchild : Undotted child)
    (hparent' : startsWithDollar parent = false) (hchild' : startsWithDollar child = false)
    (cardinality : Cardinality) {fields : Document} {found : List Value}
    (hget : doc.get? parent = some (.object fields))
    (htemp : doc.get? (tempField parent child) = some (.array found)) :
    eval { root := .object doc }
        (mergeIntoObject parent child cardinality (tempField parent child))
      = .ok (some (.object ((FieldMap.collect fields).merge
          ((foundValue cardinality found).map fun v => (child, v)).toList))) := by
  have hfieldRef : eval { root := .object doc } (fieldRef parent) = .ok (some (.object fields)) :=
    hget ▸ eval_fieldRef rfl hparent hparent'
  have hfound : eval { root := .object doc } (fieldRef (tempField parent child))
      = .ok (some (.array found)) :=
    htemp ▸ eval_fieldRef rfl (undotted_tempField hparent hchild)
      (startsWithDollar_tempField child hparent')
  have htest := eval_isObject doc hparent hparent'
  rw [hget] at htest
  refine (Expression.eval_cond htest).trans ?_
  rw [Expression.typeName, if_pos (by decide), eval_merge_patch hchild' hfieldRef]
  cases cardinality with
  | one => exact congrArg _ (Expression.eval_first hfound)
  | many => exact congrArg _ hfound

/-- What is no object is left alone. -/
theorem eval_mergeIntoObject_other (hparent : Undotted parent)
    (hparent' : startsWithDollar parent = false)
    (hother : ∀ fields, doc.get? parent ≠ some (.object fields))
    (child : String) (cardinality : Cardinality) (temp : String) :
    eval { root := .object doc } (mergeIntoObject parent child cardinality temp)
      = .ok (doc.get? parent) := by
  refine (Expression.eval_cond (eval_isObject doc hparent hparent')).trans ?_
  rw [if_neg, eval_fieldRef rfl hparent hparent']
  intro htest
  have htype : Expression.typeName (doc.get? parent) = "object" := by
    simpa [Value.truthy] using htest
  obtain ⟨fields, hget⟩ := Expression.typeName_eq_object.mp htype
  exact hother fields hget

end Parent

end DocQuery.Join
