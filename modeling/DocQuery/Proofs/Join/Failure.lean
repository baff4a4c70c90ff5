import DocQuery.Filter.RegexEngine
import DocQuery.Proofs.Join.Blocks
import DocQuery.Query.Run
import DocQuery.Schema.Registry

/-!
# When a join fails

A sequence of joins can fail in one way only: merging the children of a list of parents asks for
each parent whether a candidate is among its references, and a reference that is neither a list nor
null nor missing is refused (`notList`). Such a reference stands in a stored document. Between two
joins, what is held under a joined list are documents whose lists are lists as far as those of all
stored documents are (`Between`): a stage of the parent puts stored documents there, and merging
children replaces references by lists.
-/

namespace DocQuery.Join

open Expression (eval Scope)
open DocQuery.Path

/-- The refusal of references that are no list. -/
def notList : StoreError := .invalidArgument "$in" .secondNotArray

/-- Where the stored documents of an entity have a list, null or nothing. -/
def StoredLists (schema : Schema) (s : Store) (entity field : String) : Prop :=
  ∀ fields : Document, .object fields ∈ s.documents (schema.collectionOf entity) →
    WellShaped .many (fields.get? field)

/-- A document whose lists are lists where those of all stored documents are. -/
structure LikeStored (schema : Schema) (s : Store) (entity : String)
    (fields : Document) : Prop where
  distinct : fields.DistinctKeys
  lists : ∀ child t, schema.resolve entity child = .relationship t → t.cardinality = .many →
    StoredLists schema s entity child → WellShaped .many (fields.get? child)

/-- What a joined list holds: documents of the target, unless the field is gone. -/
def HoldsList (schema : Schema) (s : Store) (r : Relationship) (held : Option Value) : Prop :=
  held = none ∨ held = some .null ∨ ∃ items, held = some (.array items) ∧
    ∀ item ∈ items, ∃ fields, item = .object fields ∧ LikeStored schema s r.target fields

variable {schema : Schema} {s : Store}

theorem likeStored_of_mem (hs : s.WellFormed) {entity : String} {item : Value}
    (h : item ∈ s.documents (schema.collectionOf entity)) :
    ∃ fields, item = .object fields ∧ LikeStored schema s entity fields := by
  obtain ⟨fields, rfl, hfields⟩ := (hs.isDocument h).eq_object
  exact ⟨fields, rfl, hfields, fun child t _ _ hlists => hlists fields h⟩

/-! ## Merging -/

section Merging

variable {scope : Scope} {doc fields : Document} {parent child temp : String}

/-- Only a reference that is no list can be refused. -/
theorem okUnless_isReferredTo (scope : Scope) (fields : Document) (hchild : Undotted child)
    (identity : String) (candidate : Value) :
    OkUnless notList (¬ WellShaped .many (fields.get? child)) (fun _ => True)
      (eval ((scope.bind itemName (.object fields)).bind candidateName candidate)
        (call "$in" (.array [variableFieldRef candidateName identity,
          call "$ifNull" (.array [variableFieldRef itemName child, .array []])]))) := by
  have hreference : eval ((scope.bind itemName (.object fields)).bind candidateName candidate)
      (variableFieldRef itemName child) = .ok (fields.get? child) := eval_reference candidate hchild
  by_cases hshape : WellShaped .many (fields.get? child)
  · rw [call, Expression.eval_among (eval_identity _ _ _) (eval_listed hchild hshape candidate)]
    trivial
  · cases hget : fields.get? child with
    | none => exact absurd (.inl hget) hshape
    | some v =>
        rw [hget] at hshape hreference
        have hnull : v.isNull = false := by
          cases v with
          | null => exact absurd (.inr (.inl rfl)) hshape
          | _ => rfl
        have hlist : ∀ items, some v ≠ some (.array items) :=
          fun items h => hshape (.inr (.inr ⟨items, h⟩))
        rw [call, call, Expression.eval_among_not_array (eval_identity _ _ _)
          (Expression.eval_ifNull_some hreference hnull) hlist]
        exact ⟨rfl, hshape⟩

/-- What an item refers to is found unless its references are no list, and many are a list. -/
theorem okUnless_matchesOfItem (scope : Scope) (fields : Document) (hchild : Undotted child)
    (cardinality : Cardinality) (identity : String) {found : List Value}
    (htemp : eval (scope.bind itemName (.object fields)) (fieldRef temp)
      = .ok (some (.array found))) :
    OkUnless notList (cardinality = .many ∧ ¬ WellShaped .many (fields.get? child))
      (fun v => cardinality = .many → ∃ items, v = some (.array items))
      (eval (scope.bind itemName (.object fields))
        (matchesOfItem child cardinality temp identity)) := by
  cases cardinality with
  | one =>
      have hcandidates := Expression.eval_filter htemp fun candidate _ =>
        Expression.eval_equal (eval_identity (.object fields) candidate identity)
          (eval_reference candidate hchild)
      rw [matchesOfItem, candidates, call, call, call, Expression.eval_first hcandidates]
      intro hmany
      cases hmany
  | many =>
      rw [matchesOfItem, candidates, call, Expression.eval_filter_items htemp]
      refine (OkUnless.filterItems fun candidate _ => ?_).map fun kept _ _ => ⟨kept, rfl⟩
      have htest := okUnless_isReferredTo scope fields hchild identity candidate
      exact (htest.imp (fun hshape => ⟨rfl, hshape⟩) fun _ _ => trivial).map fun _ _ => trivial

/-- Merging what was found keeps the lists. -/
theorem LikeStored.merge_patch {r t : Relationship}
    (hresolve : schema.resolve r.target child = .relationship t)
    (hfields : LikeStored schema s r.target fields) {v : Option Value}
    (hv : t.cardinality = .many → ∃ items, v = some (.array items)) :
    LikeStored schema s r.target
      ((FieldMap.collect fields).merge (v.map fun found => (child, found)).toList) := by
  rw [FieldMap.collect, FieldMap.merge_nil_left hfields.distinct]
  cases v with
  | none => exact hfields
  | some found =>
      refine ⟨hfields.distinct.insert child found, fun other u hother hmany hlists => ?_⟩
      show WellShaped .many ((fields.insert child found).get? other)
      by_cases hne : child = other
      · subst hne
        obtain rfl := Resolution.relationship.inj (hresolve.symm.trans hother)
        obtain ⟨items, hitems⟩ := hv hmany
        rw [FieldMap.get?_insert_self]
        exact .inr (.inr ⟨items, hitems⟩)
      · rw [FieldMap.get?_insert_of_ne fields hne]
        exact hfields.lists other u hother hmany hlists

variable (hparent : Undotted parent) (hchild : Undotted child)
  (hparent' : startsWithDollar parent = false) (hchild' : startsWithDollar child = false)

include hparent hchild hparent' hchild'

/-- Merging into a single parent never fails. -/
theorem eval_mergeIntoObject_ok (cardinality : Cardinality) {found : List Value}
    (htemp : doc.get? (tempField parent child) = some (.array found)) :
    ∃ v, eval { root := .object doc }
      (mergeIntoObject parent child cardinality (tempField parent child)) = .ok v := by
  by_cases hobject : ∃ fields, doc.get? parent = some (.object fields)
  · obtain ⟨fields, hget⟩ := hobject
    exact ⟨_, eval_mergeIntoObject_object hparent hchild hparent' hchild' cardinality hget htemp⟩
  · have hother (fields : Document) (hget : doc.get? parent = some (.object fields)) : False :=
      hobject ⟨fields, hget⟩
    exact ⟨_, eval_mergeIntoObject_other hparent hparent' hother child cardinality _⟩

/-- Merging into a list of parents fails only where the references of a parent are no list. -/
theorem okUnless_mergeIntoItems {r t : Relationship}
    (hresolve : schema.resolve r.target child = .relationship t)
    (hheld : HoldsList schema s r (doc.get? parent)) (identity : String) {found : List Value}
    (htemp : doc.get? (tempField parent child) = some (.array found)) :
    OkUnless notList (t.cardinality = .many ∧ ¬ StoredLists schema s r.target child)
      (HoldsList schema s r)
      (eval { root := .object doc }
        (mergeIntoItems parent child t.cardinality (tempField parent child) identity)) := by
  have hinput : eval { root := .object doc } (fieldRef parent) = .ok (doc.get? parent) :=
    eval_fieldRef rfl hparent hparent'
  rcases hheld with hget | hget | ⟨items, hget, hitems⟩
  · rw [mergeIntoItems, call, Expression.eval_map_nothing hinput (.inl hget)]
    exact .inr (.inl rfl)
  · rw [mergeIntoItems, call, Expression.eval_map_nothing hinput (.inr hget)]
    exact .inr (.inl rfl)
  · rw [hget] at hinput
    let scope : Scope := { root := .object doc }
    rw [mergeIntoItems, call, Expression.eval_map_items hinput]
    have hmerged : ∀ item ∈ items, OkUnless notList
        (t.cardinality = .many ∧ ¬ StoredLists schema s r.target child)
        (fun out => ∃ fields, out = .object fields ∧ LikeStored schema s r.target fields)
        ((·.getD .null) <$> eval (scope.bind itemName item)
          (call "$mergeObjects" (.array [variableRef itemName, .object [(child,
            matchesOfItem child t.cardinality (tempField parent child) identity)]]))) := by
      intro item hmem
      obtain ⟨fields, rfl, hfields⟩ := hitems item hmem
      have hitem : eval (scope.bind itemName (.object fields)) (variableRef itemName)
          = .ok (some (.object fields)) := Expression.eval_variable (by decide)
      have hfound : eval (scope.bind itemName (.object fields)) (fieldRef (tempField parent child))
          = .ok (some (.array found)) :=
        htemp ▸ eval_fieldRef rfl (undotted_tempField hparent hchild)
          (startsWithDollar_tempField child hparent')
      have hmatches := okUnless_matchesOfItem scope fields hchild t.cardinality identity hfound
      rw [eval_merge_patch hchild' hitem, Functor.map_map]
      refine (hmatches.imp ?_ fun v hv => hv).map fun v hv =>
        ⟨_, rfl, hfields.merge_patch hresolve hv⟩
      rintro ⟨hmany, hshape⟩
      exact ⟨hmany, fun hlists => hshape (hfields.lists child t hresolve hmany hlists)⟩
    exact (OkUnless.mapM hmerged).map fun mapped hmapped => .inr (.inr ⟨mapped, rfl, hmapped⟩)

end Merging

/-! ## Between two joins -/

/-- What is known of a row when the given paths are joined. -/
structure Between (schema : Schema) (s : Store) (entity : String) (joined : List String)
    (row : Document) : Prop where
  distinct : row.DistinctKeys
  lists : ∀ parent r, Undotted parent → parent ∈ joined →
    schema.resolve entity parent = .relationship r → r.cardinality = .many →
    HoldsList schema s r (row.get? parent)

variable {entity path : String} {joined : List String}

theorem Between.mono {joined' : List String} {row : Document}
    (h : Between schema s entity joined row)
    (hsub : ∀ parent, Undotted parent → parent ∈ joined' → parent ∈ joined) :
    Between schema s entity joined' row :=
  ⟨h.distinct, fun parent r hparent hmem => h.lists parent r hparent (hsub parent hparent hmem)⟩

theorem Between.parentRows (hs : s.WellFormed) {route : Route}
    (hroute : Route.Of schema entity path route) {doc row : Document}
    (hdoc : Between schema s entity joined doc)
    (h : row ∈ route.parentRows schema s (joined.contains route.parent) doc) :
    Between schema s entity (route.parent :: joined) row := by
  refine ⟨Route.distinctKeys_parentRows hdoc.distinct h, fun parent u hparent hmem hu hmany => ?_⟩
  by_cases hne : route.parent = parent
  · subst hne
    cases hknown : joined.contains route.parent with
    | true =>
        rw [hknown] at h
        obtain rfl := List.mem_singleton.mp h
        exact hdoc.lists _ u hparent (List.contains_iff_mem.mp hknown) hu hmany
    | false =>
        rw [hknown] at h
        obtain rfl := Resolution.relationship.inj (hroute.resolve_parent.symm.trans hu)
        have hrow : row ∈ directRows schema s route.parent route.first doc := h
        rw [directRows, hmany, placeFound, List.mem_singleton] at hrow
        rw [hrow, FieldMap.get?_insert_self]
        exact .inr (.inr ⟨_, rfl,
          fun item hitem => likeStored_of_mem hs (List.mem_of_mem_filter hitem)⟩)
  · have hold : parent ∈ joined := (List.mem_cons.mp hmem).resolve_left (Ne.symm hne)
    have hget : row.get? parent = doc.get? parent := by
      rcases Route.mem_parentRows h with rfl | ⟨v, rfl⟩
      · rfl
      · exact FieldMap.get?_put_of_ne doc hne v
    rw [hget]
    exact hdoc.lists parent u hparent hold hu hmany

section Nested

variable {r t : Relationship} {parent child : String} {row : Document}

/-- Putting the merged value into its place and dropping the temporary field. -/
theorem Between.put_merged (hrow : Between schema s entity joined row)
    (hr : schema.resolve entity parent = .relationship r) {v : Option Value}
    (hv : r.cardinality = .many → HoldsList schema s r v) :
    Between schema s entity joined
      (((withChildren schema s parent child t row).put parent v).erase
        (tempField parent child)) := by
  have hfilled : (withChildren schema s parent child t row).DistinctKeys := hrow.distinct.insert _ _
  have hmerged := hfilled.put parent v
  refine ⟨hmerged.erase _, fun other u hother hmem hu hmany => ?_⟩
  by_cases htemp : tempField parent child = other
  · subst htemp
    exact .inl (FieldMap.get?_erase_self hmerged _)
  · rw [FieldMap.get?_erase_of_ne _ htemp]
    by_cases hne : parent = other
    · subst hne
      obtain rfl := Resolution.relationship.inj (hr.symm.trans hu)
      rw [FieldMap.get?_put_self hfilled]
      exact hv hmany
    · rw [FieldMap.get?_put_of_ne _ hne, withChildren, FieldMap.get?_insert_of_ne _ htemp]
      exact hrow.lists other u hother hmem hu hmany

theorem okUnless_nestedRow (hparent : Undotted parent) (hchild : Undotted child)
    (hparent' : startsWithDollar parent = false) (hchild' : startsWithDollar child = false)
    (hr : schema.resolve entity parent = .relationship r)
    (ht : schema.resolve r.target child = .relationship t) (hmem : parent ∈ joined)
    (hrow : Between schema s entity joined row) :
    OkUnless notList
      (r.cardinality = .many ∧ t.cardinality = .many ∧ ¬ StoredLists schema s r.target child)
      (Between schema s entity joined) (nestedRow schema s parent r child t row) := by
  have htemp : (withChildren schema s parent child t row).get? (tempField parent child) = some _ :=
    get?_withChildren_temp
  have heval : OkUnless notList
      (r.cardinality = .many ∧ t.cardinality = .many ∧ ¬ StoredLists schema s r.target child)
      (fun v => r.cardinality = .many → HoldsList schema s r v)
      (eval { root := .object (withChildren schema s parent child t row) }
        (mergeExpression schema parent r child t)) := by
    unfold mergeExpression
    cases hcard : r.cardinality with
    | one =>
        obtain ⟨v, hv⟩ :=
          eval_mergeIntoObject_ok hparent hchild hparent' hchild' t.cardinality htemp
        dsimp only
        rw [hv]
        intro hmany
        cases hmany
    | many =>
        have hheld := hrow.lists parent r hparent hmem hr hcard
        rw [← get?_withChildren_parent schema s parent child t row] at hheld
        exact (okUnless_mergeIntoItems hparent hchild hparent' hchild' ht hheld
          (schema.identityOf t.target) htemp).imp (fun h => ⟨rfl, h⟩) fun v hv _ => hv
  refine heval.map fun v hv => ?_
  rw [setField_eq_put hparent]
  exact hrow.put_merged hr hv

end Nested

/-! ## Sequences of joins -/

/-- The path goes from a list to a list, and a stored document of the target holds neither a list
nor null nor nothing under its child. -/
def MeetsLooseList (schema : Schema) (s : Store) (entity path : String) : Prop :=
  ∃ parent child r t, parse path = [parent, child] ∧
    schema.resolve entity parent = .relationship r ∧ r.cardinality = .many ∧
    schema.resolve r.target child = .relationship t ∧ t.cardinality = .many ∧
    ¬ StoredLists schema s r.target child

/-- No reference is named like an operator. -/
def PlainNames (schema : Schema) : Prop :=
  ∀ entity field r, schema.resolve entity field = .relationship r → startsWithDollar field = false

theorem okUnless_rows (hs : s.WellFormed) (hnames : PlainNames schema) {route : Route}
    (hroute : Route.Of schema entity path route) {doc : Document}
    (hdoc : Between schema s entity joined doc) :
    OkUnless notList (MeetsLooseList schema s entity path)
      (fun rows => ∀ row ∈ rows, Between schema s entity (route.parent :: joined) row)
      (route.rows schema s (joined.contains route.parent) doc) := by
  have hparents :=
    fun row => @Between.parentRows schema s entity path joined hs route hroute doc row hdoc
  cases hroute with
  | one hpath hr => exact hparents
  | @two parent child r t hpath hr ht =>
      refine OkUnless.mapM fun row hrow => ?_
      have hnested := okUnless_nestedRow (undotted_first hpath) (undotted_second hpath)
        (hnames _ _ _ hr) (hnames _ _ _ ht) hr ht (List.mem_cons_self ..) (hparents row hrow)
      refine hnested.imp ?_ fun _ h => h
      rintro ⟨hmany, hmany', hloose⟩
      exact ⟨parent, child, r, t, hpath, hr, hmany, ht, hmany', hloose⟩

/-- What the stages of a sequence of joins give. -/
abbrev RunsUnless [Filter.Engine] (schema : Schema) (s : Store) (entity : String) (reason : Prop)
    (stages : Pipeline) (joined : List String) : Prop :=
  OkUnless notList reason
    (fun out => ∃ rows : List Document, out = rows.map Value.object ∧
      ∀ row ∈ rows, Between schema s entity joined row)
    (s.apply stages (s.documents (schema.collectionOf entity)))

section Runs

variable [Filter.Engine] {reason : Prop} {stages : Pipeline}

theorem RunsUnless.route (hs : s.WellFormed) (hnames : PlainNames schema)
    (h : RunsUnless schema s entity reason stages joined) {route : Route}
    (hroute : Route.Of schema entity path route)
    (hreason : MeetsLooseList schema s entity path → reason) :
    RunsUnless schema s entity reason
      (stages ++ route.stages schema (joined.contains route.parent)) (route.parent :: joined) := by
  unfold RunsUnless
  rw [Store.apply_append]
  refine OkUnless.bind h ?_
  rintro _ ⟨docs, rfl, hdocs⟩
  rw [Route.apply_stages hroute]
  have hrows := OkUnless.mapM fun doc hdoc => okUnless_rows hs hnames hroute (hdocs doc hdoc)
  refine (hrows.imp hreason fun _ h => h).map fun blocks hblocks => ⟨blocks.flatten, rfl, ?_⟩
  intro row hrow
  obtain ⟨block, hblock, hrow⟩ := List.mem_flatten.mp hrow
  exact hblocks block hblock row hrow

theorem okUnless_joins (hs : s.WellFormed) (hnames : PlainNames schema) {paths : List String}
    (hreason : ∀ path ∈ paths, MeetsLooseList schema s entity path → reason) {options : Options}
    {q : Query}
    (h : paths.foldlM Query.join { entity, schema, options, stages, joined } = .ok q)
    (hrun : RunsUnless schema s entity reason stages joined) :
    OkUnless notList reason (fun _ => True) (q.rows s.run) := by
  induction paths generalizing stages joined with
  | nil =>
      obtain rfl := Except.ok.inj h
      rw [Query.rows, Query.collection, pipeline_of_joins, Store.run]
      exact OkUnless.bind hrun fun _ _ => trivial
  | cons path rest ih =>
      rw [List.foldlM_cons] at h
      obtain ⟨q', hjoin, h⟩ := bind_eq_ok.mp h
      have hrest := fun path hpath => hreason path (List.mem_cons_of_mem _ hpath)
      rcases join_eq_ok hjoin with rfl | ⟨route, hroute, rfl⟩
      · exact ih hrest h hrun
      rw [along] at h
      split at h
      · exact ih hrest h hrun
      · have hnext := hrun.route hs hnames hroute (hreason path (List.mem_cons_self ..))
        refine ih hrest h (hnext.imp id ?_)
        rintro out ⟨rows, rfl, hrows⟩
        refine ⟨rows, rfl, fun row hrow => (hrows row hrow).mono fun name hname hmem => ?_⟩
        rcases List.mem_append.mp hmem with hold | hfresh
        · exact List.mem_cons_of_mem _ hold
        · rw [hroute.eq_parent hname (List.mem_of_mem_filter hfresh)]
          exact List.mem_cons_self ..

theorem runsUnless_fresh (hs : s.WellFormed) (reason : Prop) :
    RunsUnless schema s entity reason [] [] := by
  refine ⟨(s.documents (schema.collectionOf entity)).filterMap Value.fields?, ?_, ?_⟩
  · exact Value.eq_map_object fun doc hdoc => hs.holdsObjects.isObject hdoc
  · intro row hrow
    obtain ⟨doc, hdoc, hfields⟩ := List.mem_filterMap.mp hrow
    obtain ⟨fields, rfl, hdistinct⟩ := (hs.isDocument hdoc).eq_object
    obtain rfl := Option.some.inj hfields
    refine ⟨hdistinct, fun parent r _ hmem => ?_⟩
    cases hmem

end Runs

/-- **Joins fail only on references that are no list.** Let no reference be named like an operator,
and let a fresh query accept a sequence of paths. Its rows are found, whatever the store holds,
unless one of the paths goes from a list to a list and meets a stored document that holds neither a
list nor null nor nothing there; and then there is one refusal that the store may give. -/
theorem joins_fail_only_on_loose_lists [Filter.Engine] (hs : s.WellFormed)
    (hnames : PlainNames schema) {paths : List String} {options : Options} {q : Query}
    (h : paths.foldlM Query.join { entity, schema, options } = .ok q) :
    (∃ rows, q.rows s.run = .ok rows) ∨
      q.rows s.run = .error notList ∧ ∃ path ∈ paths, MeetsLooseList schema s entity path := by
  have hrun := okUnless_joins hs hnames (fun path hpath hloose => ⟨path, hpath, hloose⟩) h
    (runsUnless_fresh hs (∃ path ∈ paths, MeetsLooseList schema s entity path))
  cases hrows : q.rows s.run with
  | ok rows => exact .inl ⟨rows, rfl⟩
  | error e =>
      rw [hrows] at hrun
      obtain ⟨rfl, hloose⟩ := hrun
      exact .inr ⟨rfl, hloose⟩

/-! ## Users, posts and tags -/

/-- No declared name has a dot or looks like an operator. -/
def HasPlainNames (registry : Registry) : Prop :=
  ∀ entry ∈ registry.entities,
    (Undotted entry.2.identity ∧ startsWithDollar entry.2.identity = false) ∧
    ∀ field ∈ entry.2.fields, Undotted field.1 ∧ startsWithDollar field.1 = false

instance (registry : Registry) : Decidable (HasPlainNames registry) := by
  unfold HasPlainNames
  infer_instance

theorem HasPlainNames.toSchema {registry : Registry} (h : HasPlainNames registry) :
    PlainNames registry.toSchema := by
  intro entity field r hresolve
  have hdeclared : registry.resolve entity field = .relationship r := hresolve
  rw [Registry.resolve] at hdeclared
  cases hentity : registry.entities.get? entity with
  | none =>
      rw [hentity] at hdeclared
      cases hdeclared
  | some e =>
      cases hfield : FieldMap.get? e.fields field with
      | none =>
          rw [hentity, Option.bind_some, hfield] at hdeclared
          cases hdeclared
      | some kind =>
          have hmem := FieldMap.mem_of_get? hfield
          exact ((h _ (FieldMap.mem_of_get? hentity)).2 _ hmem).2

/-- Users have posts, and posts have tags. -/
def tagged : Registry where
  entities := [
    ("User", ({ name := "User", collection := some "users" } : Entity).many "posts" "Post"),
    ("Post", ({ name := "Post", collection := some "posts" } : Entity).many "tags" "Tag"),
    ("Tag", { name := "Tag", collection := some "tags" })]

/-- Two posts of one user, the first of them with the given tags. -/
def taggedStore (tags : Value) : Store :=
  ⟨[("users", [.object [("posts", .array [.string "p", .string "q"])]]),
    ("posts", [.object [("_id", .string "p"), ("tags", tags)], .object [("_id", .string "q")]]),
    ("tags", [.object [("_id", .string "t")]])]⟩

/-- The query for users with their posts and their tags. -/
def taggedUsers : Except BuildError Query :=
  ["posts.tags", "posts"].foldlM Query.join { entity := "User", schema := tagged.toSchema }

theorem storedLists_tagged :
    StoredLists tagged.toSchema (taggedStore (.array [.string "t"])) "Post" "tags" := by
  intro fields hmem
  rcases List.mem_pair.mp hmem with hpost | hpost
  · obtain rfl := Value.object.inj hpost
    exact .inr (.inr ⟨_, rfl⟩)
  · obtain rfl := Value.object.inj hpost
    exact .inl rfl

attribute [local instance] Filter.regexEngine

theorem joins_fail_only_on_loose_lists_tagged :
    (taggedStore (.array [.string "t"])).WellFormed ∧ HasPlainNames tagged ∧
    ∃ q, taggedUsers = .ok q ∧
      ∃ rows, q.rows (taggedStore (.array [.string "t"])).run = .ok rows := by
  have hs : (taggedStore (.array [.string "t"])).WellFormed := by decide
  have hnames : HasPlainNames tagged := by decide
  obtain ⟨q, hq⟩ : ∃ q, taggedUsers = .ok q := ⟨_, rfl⟩
  refine ⟨hs, hnames, q, hq, ?_⟩
  rcases joins_fail_only_on_loose_lists hs hnames.toSchema hq with hrows | ⟨-, path, hpath, hloose⟩
  · exact hrows
  · obtain ⟨parent, child, r, t, hparse, hr, -, -, -, hlist⟩ := hloose
    rcases List.mem_pair.mp hpath with rfl | rfl
    · obtain ⟨rfl, rfl⟩ : "posts" = parent ∧ "tags" = child := by
        have hnames : ["posts", "tags"] = [parent, child] := hparse
        simpa using hnames
      have htarget : Resolution.relationship ⟨"Post", .many⟩ = .relationship r := hr
      obtain rfl := Resolution.relationship.inj htarget
      exact absurd storedLists_tagged hlist
    · have hnames : ["posts"] = [parent, child] := hparse
      cases hnames

/-- One tag that is not in a list makes the whole query fail. -/
theorem join_fails_on_single_tag :
    (taggedStore (.string "t")).WellFormed ∧ HasPlainNames tagged ∧
    ∃ q, taggedUsers = .ok q ∧ q.rows (taggedStore (.string "t")).run = .error notList := by
  have hs : (taggedStore (.string "t")).WellFormed := by decide
  have hnames : HasPlainNames tagged := by decide
  obtain ⟨q, hq, hfails⟩ : ∃ q, taggedUsers = .ok q ∧
      (q.rows (taggedStore (.string "t")).run).isOk = false := ⟨_, rfl, by decide +kernel⟩
  have hrun :=
    okUnless_joins hs hnames.toSchema (fun _ _ _ => trivial) hq (runsUnless_fresh hs True)
  exact ⟨hs, hnames, q, hq, hrun.eq_error hfails⟩

end DocQuery.Join
