import DocQuery.Filter.RegexEngine
import DocQuery.Proofs.Join.Changes

/-!
# Joins in either order

A parent is joined once, by the call that comes first, so the stages of two calls are those of one
route, or of two routes with different parents, or of two children of one parent (`stages_of_pair`).
In each of the three cases both orders succeed and change every document in the same way, up to the
order of keys (`apply_two`).
-/

namespace DocQuery.Join

open DocQuery.Path

variable {schema : Schema} {s : Store}

/-! ## Two calls -/

/-- The stages of a route, and those of another one behind it. -/
def stagesOfTwo (schema : Schema) (route : Route) (path : String) (other : Route) (path' : String) :
    Pipeline :=
  route.stages schema false ++
    if (route.marks path).contains path' then []
    else other.stages schema ((route.marks path).contains other.parent)

theorem pipeline_of_two (schema : Schema) (entity : String) (options : Options)
    (route other : Route) (path path' : String) :
    (along (along { entity, schema, options } path route) path' other).pipeline
      = stagesOfTwo schema route path other path' := by
  have hfirst : along { entity, schema, options } path route
      = { entity, schema, options, stages := route.stages schema false,
          joined := route.marks path } := by
    simp [along]
  rw [hfirst, along, stagesOfTwo]
  split
  · rw [List.append_nil, pipeline_of_joins]
  · exact pipeline_of_joins ..

section Two

variable {entity path path' : String} {route other : Route}

theorem contains_marks_of_ne (hroute : Route.Of schema entity path route)
    (hother : Route.Of schema entity path' other) (hne : route.parent ≠ other.parent) :
    (route.marks path).contains path' = false ∧
      (route.marks path).contains other.parent = false := by
  have hparents : other.parent ∉ route.marks path := fun hmem =>
    hne (hroute.eq_parent hother.undotted_parent hmem).symm
  have hpaths : path' ∉ route.marks path := fun hmem =>
    hne ((hroute.head_of_mem_marks hmem).symm.trans hother.head_eq)
  exact ⟨by simpa using hpaths, by simpa using hparents⟩

/-- The parent comes once, whether it is joined before its child or with it. -/
theorem stagesOfTwo_child (schema : Schema) (r t : Relationship) {parent child : String}
    (hpath : parse path = [parent]) (hpath' : parse path' = [parent, child]) :
    stagesOfTwo schema ⟨parent, r, none⟩ path ⟨parent, r, some (child, t)⟩ path'
        = Route.stages schema ⟨parent, r, some (child, t)⟩ false ∧
      stagesOfTwo schema ⟨parent, r, some (child, t)⟩ path' ⟨parent, r, none⟩ path
        = Route.stages schema ⟨parent, r, some (child, t)⟩ false := by
  have hne := ne_of_parse_pair hpath'
  obtain rfl := eq_of_parse_singleton hpath
  constructor
  · simp [stagesOfTwo, Route.marks, Route.stages, hne]
  · simp [stagesOfTwo, Route.marks]

/-- Two children of one parent are joined one after the other. -/
theorem stagesOfTwo_children {parent child child' : String} {r t u : Relationship}
    (hpath : parse path = [parent, child]) (hpath' : parse path' = [parent, child'])
    (hne : child ≠ child') :
    stagesOfTwo schema ⟨parent, r, some (child, t)⟩ path ⟨parent, r, some (child', u)⟩ path'
      = Route.stages schema ⟨parent, r, some (child, t)⟩ false
          ++ nestedStages schema parent r child' u := by
  have hparent := ne_of_parse_pair hpath'
  have hpaths : path' ≠ path := by
    rintro rfl
    exact hne (by simpa using hpath.symm.trans hpath')
  simp [stagesOfTwo, Route.marks, Route.stages, hparent, hpaths]

theorem stagesOfTwo_self (hroute : Route.Of schema entity path route) :
    stagesOfTwo schema route path route path = route.stages schema false := by
  simp [stagesOfTwo, hroute.mem_marks]

/-- Two calls give the stages of one route, whatever their order, or those of two routes with
different parents, or those of two children of one parent. -/
theorem stages_of_pair (hroute : Route.Of schema entity path route)
    (hother : Route.Of schema entity path' other) :
    (stagesOfTwo schema route path other path' = stagesOfTwo schema other path' route path ∧
      (stagesOfTwo schema route path other path' = route.stages schema false ∨
        stagesOfTwo schema route path other path' = other.stages schema false)) ∨
    (route.parent ≠ other.parent ∧
      stagesOfTwo schema route path other path'
        = route.stages schema false ++ other.stages schema false ∧
      stagesOfTwo schema other path' route path
        = other.stages schema false ++ route.stages schema false) ∨
    ∃ parent r child t child' u, route = ⟨parent, r, some (child, t)⟩ ∧
      other = ⟨parent, r, some (child', u)⟩ ∧ child ≠ child' ∧
      stagesOfTwo schema route path other path'
        = route.stages schema false ++ nestedStages schema parent r child' u ∧
      stagesOfTwo schema other path' route path
        = other.stages schema false ++ nestedStages schema parent r child t := by
  by_cases hne : route.parent = other.parent
  · -- both routes have the parent, and so its reference, in common
    cases hroute with
    | @one parent r hpath hr =>
        cases hother with
        | @one parent' r' hpath' hr' =>
            obtain rfl : parent = parent' := hne
            obtain rfl := Resolution.relationship.inj (hr.symm.trans hr')
            obtain rfl := parse_injective (hpath.trans hpath'.symm)
            exact .inl ⟨rfl, .inl (stagesOfTwo_self (.one hpath hr))⟩
        | @two parent' child r' t hpath' hr' ht =>
            obtain rfl : parent = parent' := hne
            obtain rfl := Resolution.relationship.inj (hr.symm.trans hr')
            obtain ⟨hboth, hboth'⟩ := stagesOfTwo_child schema r t hpath hpath'
            exact .inl ⟨hboth.trans hboth'.symm, .inr hboth⟩
    | @two parent child r t hpath hr ht =>
        cases hother with
        | @one parent' r' hpath' hr' =>
            obtain rfl : parent = parent' := hne
            obtain rfl := Resolution.relationship.inj (hr.symm.trans hr')
            obtain ⟨hboth, hboth'⟩ := stagesOfTwo_child schema r t hpath' hpath
            exact .inl ⟨hboth'.trans hboth.symm, .inl hboth'⟩
        | @two parent' child' r' u hpath' hr' hu =>
            obtain rfl : parent = parent' := hne
            obtain rfl := Resolution.relationship.inj (hr.symm.trans hr')
            by_cases hchild : child = child'
            · subst hchild
              obtain rfl := Resolution.relationship.inj (ht.symm.trans hu)
              obtain rfl := parse_injective (hpath.trans hpath'.symm)
              exact .inl ⟨rfl, .inl (stagesOfTwo_self (.two hpath hr ht))⟩
            · exact .inr (.inr ⟨parent, r, child, t, child', u, rfl, rfl, hchild,
                stagesOfTwo_children hpath hpath' hchild,
                stagesOfTwo_children hpath' hpath (Ne.symm hchild)⟩)
  · obtain ⟨hpath, hparent⟩ := contains_marks_of_ne hroute hother hne
    obtain ⟨hpath', hparent'⟩ := contains_marks_of_ne hother hroute (Ne.symm hne)
    refine .inr (.inl ⟨hne, ?_, ?_⟩)
    · rw [stagesOfTwo, hpath, hparent]
      rfl
    · rw [stagesOfTwo, hpath', hparent']
      rfl

end Two

/-! ## Either order -/

section Order

variable {entity path path' : String} {route other : Route} {docs : List Document}
  (hs : s.WellFormed) (hc : Conforms schema s) (hids : DistinctIdentities schema s)

include hs hc hids

/-- Behind the stages of one child those of another one may follow. -/
theorem apply_secondChild [Filter.Engine] {parent child child' : String} {r t u : Relationship}
    (hpath : parse path' = [parent, child']) (hplain : PlainPath path')
    (hr : schema.resolve entity parent = .relationship r)
    (hu : schema.resolve r.target child' = .relationship u) (hne : child ≠ child')
    (hdocs : ∀ doc ∈ docs, Route.Fits ⟨parent, r, some (child', u)⟩ doc) :
    s.apply (nestedStages schema parent r child' u)
        ((docs.map (Route.row schema s ⟨parent, r, some (child, t)⟩)).map Value.object)
      = .ok ((docs.map (joinUnder schema s u parent child'
          ∘ Route.row schema s ⟨parent, r, some (child, t)⟩)).map Value.object) := by
  obtain ⟨hparent', hchild'⟩ := hplain parent child' hpath
  have hrows : ∀ row ∈ docs.map (Route.row schema s ⟨parent, r, some (child, t)⟩),
      Joinable r u child' (row.get? parent) ∧ row.get? (tempField parent child') = none := by
    intro row hrow
    obtain ⟨doc, hdoc, rfl⟩ := List.mem_map.mp hrow
    constructor
    · have hdistinct := (hdocs doc hdoc).distinct
      rw [Route.row, get?_joinUnder_self (distinctKeys_parentRow hdistinct r parent)]
      exact joinable_joinHeld hne (joinable_parentRow hs hc hids hr hu hdistinct)
    · rw [Route.get?_row_of_ne (tempField_ne parent child').symm]
      exact (hdocs doc hdoc).no_temp child' u rfl
  rw [← List.map_map]
  exact apply_nestedStages_joinable (undotted_first hpath) hparent' (undotted_second hpath) hchild'
    (hc.identities r.target child' u hu) hrows

theorem sortKeys_children {parent child child' : String} {r t u : Relationship}
    (hr : schema.resolve entity parent = .relationship r)
    (hu : schema.resolve r.target child' = .relationship u) (hne : child ≠ child') {doc : Document}
    (hdoc : doc.DistinctKeys) :
    (Value.object (joinUnder schema s u parent child'
        (Route.row schema s ⟨parent, r, some (child, t)⟩ doc))).sortKeys
      = (Value.object (joinUnder schema s t parent child
          (Route.row schema s ⟨parent, r, some (child', u)⟩ doc))).sortKeys := by
  refine Value.sortKeys_object (distinctKeys_joinUnder (Route.distinctKeys_row hdoc))
    (distinctKeys_joinUnder (Route.distinctKeys_row hdoc)) fun key => ?_
  by_cases hkey : parent = key
  · subst hkey
    have hparents : (parentRow schema s r parent doc).DistinctKeys :=
      distinctKeys_parentRow hdoc r parent
    rw [get?_joinUnder_self (Route.distinctKeys_row hdoc),
      get?_joinUnder_self (Route.distinctKeys_row hdoc), Route.row, Route.row,
      get?_joinUnder_self hparents, get?_joinUnder_self hparents]
    exact sortKeys_joinHeld hne (joinable_parentRow hs hc hids hr hu hdoc)
  · rw [get?_joinUnder_of_ne hkey, get?_joinUnder_of_ne hkey, Route.get?_row_of_ne hkey,
      Route.get?_row_of_ne hkey]

/-- Two routes make one row of every document, which is the same in either order up to the order of
keys. -/
theorem apply_two [Filter.Engine] (hroute : Route.Of schema entity path route)
    (hother : Route.Of schema entity path' other) (hplain : PlainPath path)
    (hplain' : PlainPath path')
    (htemp : ∀ child t, route.next = some (child, t) → other.parent ≠ tempField route.parent child)
    (htemp' : ∀ child t, other.next = some (child, t) → route.parent ≠ tempField other.parent child)
    (hdocs : ∀ doc ∈ docs, route.Fits doc) (hdocs' : ∀ doc ∈ docs, other.Fits doc) :
    ∃ f g : Document → Document,
      s.apply (stagesOfTwo schema route path other path') (docs.map Value.object)
        = .ok ((docs.map f).map Value.object) ∧
      s.apply (stagesOfTwo schema other path' route path) (docs.map Value.object)
        = .ok ((docs.map g).map Value.object) ∧
      ∀ doc ∈ docs, (Value.object (f doc)).sortKeys = (Value.object (g doc)).sortKeys := by
  have hfresh := Route.apply_fresh hs hc hids hroute hplain hdocs
  have hfresh' := Route.apply_fresh hs hc hids hother hplain' hdocs'
  rcases stages_of_pair hroute hother with ⟨hswap, hone⟩ | ⟨hne, hboth, hboth'⟩ | hchildren
  · rw [← hswap]
    rcases hone with hone | hone
    · rw [hone]
      exact ⟨_, _, hfresh, hfresh, fun _ _ => rfl⟩
    · rw [hone]
      exact ⟨_, _, hfresh', hfresh', fun _ _ => rfl⟩
  · have hrows : ∀ row ∈ docs.map (route.row schema s), other.Fits row := by
      intro row hrow
      obtain ⟨doc, hdoc, rfl⟩ := List.mem_map.mp hrow
      exact (hdocs' doc hdoc).row hne htemp'
    have hrows' : ∀ row ∈ docs.map (other.row schema s), route.Fits row := by
      intro row hrow
      obtain ⟨doc, hdoc, rfl⟩ := List.mem_map.mp hrow
      exact (hdocs doc hdoc).row (Ne.symm hne) htemp
    refine ⟨other.row schema s ∘ route.row schema s, route.row schema s ∘ other.row schema s,
      ?_, ?_, fun doc hdoc => sortKeys_rows hne (hdocs doc hdoc).distinct⟩
    · rw [hboth, Store.apply_append, hfresh, ok_bind,
        Route.apply_fresh hs hc hids hother hplain' hrows, ← List.map_map]
    · rw [hboth', Store.apply_append, hfresh', ok_bind,
        Route.apply_fresh hs hc hids hroute hplain hrows', ← List.map_map]
  · obtain ⟨parent, r, child, t, child', u, rfl, rfl, hne, hboth, hboth'⟩ := hchildren
    have hr := hroute.resolve_parent
    cases hroute with
    | two hpath _ ht =>
        cases hother with
        | two hpath' _ hu =>
            refine ⟨joinUnder schema s u parent child'
                ∘ Route.row schema s ⟨parent, r, some (child, t)⟩,
              joinUnder schema s t parent child ∘ Route.row schema s ⟨parent, r, some (child', u)⟩,
              ?_, ?_, fun doc hdoc =>
                sortKeys_children hs hc hids hr hu hne (hdocs doc hdoc).distinct⟩
            · rw [hboth, Store.apply_append, hfresh, ok_bind,
                apply_secondChild hs hc hids hpath' hplain' hr hu hne hdocs']
            · rw [hboth', Store.apply_append, hfresh', ok_bind,
                apply_secondChild hs hc hids hpath hplain hr ht (Ne.symm hne) hdocs]

end Order

/-- The names of a nested path are read as names, and its temporary field is none of the given names
and no field of a base document. -/
structure ClearPath (schema : Schema) (s : Store) (entity : String) (parents : List String)
    (path : String) : Prop where
  plain : PlainPath path
  not_parent : ∀ parent child, parse path = [parent, child] → tempField parent child ∉ parents
  not_field : ∀ parent child, parse path = [parent, child] → ∀ doc : Document,
    .object doc ∈ s.documents (schema.collectionOf entity) →
      doc.get? (tempField parent child) = none

theorem Route.Of.fits_of_clear {entity path : String} {route : Route} {parents : List String}
    (hroute : Route.Of schema entity path route) (hs : s.WellFormed) (hc : Conforms schema s)
    (hclear : ClearPath schema s entity parents path) {doc : Document}
    (hmem : .object doc ∈ s.documents (schema.collectionOf entity)) : route.Fits doc := by
  refine ⟨hs.isDocument hmem, ?_, fun child t hnext => ?_⟩
  · exact hc.references entity _ hmem doc rfl route.parent route.first hroute.resolve_parent
  · cases hroute with
    | one hpath _ => cases hnext
    | two hpath _ _ =>
        cases hnext
        exact hclear.not_field _ _ hpath doc hmem

theorem Route.Of.temp_ne_of_clear {entity path name : String} {route : Route}
    {parents : List String} (hroute : Route.Of schema entity path route)
    (hclear : ClearPath schema s entity parents path) (hname : name ∈ parents) :
    ∀ child t, route.next = some (child, t) → name ≠ tempField route.parent child := by
  intro child t hnext heq
  cases hroute with
  | one hpath _ => cases hnext
  | two hpath _ _ =>
      cases hnext
      exact hclear.not_parent _ _ hpath (heq ▸ hname)

/-- **Joins commute.** Let the store conform to the schema and tell the documents that may be
referred to apart by their identities, and let a fresh query accept two paths whose temporary fields
are in nobody's way. Then the two may be joined in either order, both queries succeed, and they have
the same rows in the same order, up to the order of keys. -/
theorem joins_commute [Filter.Engine] (hs : s.WellFormed) (hc : Conforms schema s)
    (hids : DistinctIdentities schema s) {entity first second : String} {options : Options}
    {q₁ q₂ : Query} (h₁ : ({ entity, schema, options } : Query).join first = .ok q₁)
    (h₂ : ({ entity, schema, options } : Query).join second = .ok q₂)
    (hfirst : ClearPath schema s entity [head first, head second] first)
    (hsecond : ClearPath schema s entity [head first, head second] second) :
    ∃ q q' rows rows', q₁.join second = .ok q ∧ q₂.join first = .ok q' ∧
      q.rows s.run = .ok rows ∧ q'.rows s.run = .ok rows' ∧
      rows.map (fun row => (Value.object row).sortKeys)
        = rows'.map fun row => (Value.object row).sortKeys := by
  obtain ⟨route, hroute, hjoin⟩ := join_of_fresh h₁
  obtain ⟨other, hother, hjoin'⟩ := join_of_fresh h₂
  obtain rfl := Except.ok.inj (h₁.symm.trans (hjoin _ rfl rfl rfl))
  obtain rfl := Except.ok.inj (h₂.symm.trans (hjoin' _ rfl rfl rfl))
  obtain ⟨docs, hdocs⟩ : ∃ docs : List Document,
      s.documents (schema.collectionOf entity) = docs.map Value.object :=
    ⟨_, Value.eq_map_object fun doc hdoc => hs.holdsObjects.isObject hdoc⟩
  have hmem (doc : Document) (hdoc : doc ∈ docs) :
      .object doc ∈ s.documents (schema.collectionOf entity) := hdocs ▸ List.mem_map_of_mem hdoc
  have hhead : other.parent ∈ [head first, head second] := by simp [hother.head_eq]
  have hhead' : route.parent ∈ [head first, head second] := by simp [hroute.head_eq]
  obtain ⟨f, g, hf, hg, hsame⟩ := apply_two hs hc hids hroute hother hfirst.plain hsecond.plain
    (hroute.temp_ne_of_clear hfirst hhead) (hother.temp_ne_of_clear hsecond hhead')
    (fun doc hdoc => hroute.fits_of_clear hs hc hfirst (hmem doc hdoc))
    (fun doc hdoc => hother.fits_of_clear hs hc hsecond (hmem doc hdoc))
  rw [← hdocs] at hf hg
  refine ⟨_, _, docs.map f, docs.map g, hjoin' _ rfl rfl rfl, hjoin _ rfl rfl rfl, ?_, ?_, ?_⟩
  · rw [Query.rows, pipeline_of_two, collection_along, collection_along]
    exact (Store.run_of_apply hf).trans (congrArg _ (Value.filterMap_fields?_map_object _))
  · rw [Query.rows, pipeline_of_two, collection_along, collection_along]
    exact (Store.run_of_apply hg).trans (congrArg _ (Value.filterMap_fields?_map_object _))
  · rw [List.map_map, List.map_map]
    exact List.map_congr_left hsame

/-! ## Authors and editors -/

attribute [local instance] Filter.regexEngine

/-- Posts have an author and an editor, and both are of a team. -/
def staffSchema : Schema where
  resolve entity field :=
    if entity = "Post" ∧ (field = "author" ∨ field = "editor") then .relationship ⟨"User", .one⟩
    else if entity = "User" ∧ field = "team" then .relationship ⟨"Team", .one⟩
    else .plain
  collectionOf entity := entity

/-- Posts and users, and one team. -/
def staffStore (posts users : List Value) : Store :=
  ⟨[("Post", posts), ("User", users), ("Team", [.object [("_id", .string "t")]])]⟩

theorem resolve_staffSchema {entity field : String} {r : Relationship}
    (h : staffSchema.resolve entity field = .relationship r) :
    (entity = "Post" ∧ (field = "author" ∨ field = "editor") ∧ r = ⟨"User", .one⟩)
      ∨ (entity = "User" ∧ field = "team" ∧ r = ⟨"Team", .one⟩) := by
  simpa only [and_assoc] using relationship_of_ite h

/-- What a field holds is no array. -/
def HoldsNoArray (field : String) (doc : Value) : Prop :=
  ∀ fields : Document, doc = .object fields → WellShaped .one (fields.get? field)

theorem conforms_staff {posts users : List Value}
    (hposts : ∀ doc ∈ posts, HoldsNoArray "author" doc ∧ HoldsNoArray "editor" doc)
    (husers : ∀ doc ∈ users, HasIdentity "_id" doc ∧ HoldsNoArray "team" doc) :
    Conforms staffSchema (staffStore posts users) := by
  constructor
  · intro entity field r hresolve doc hdoc
    rcases resolve_staffSchema hresolve with ⟨-, -, rfl⟩ | ⟨-, -, rfl⟩
    · exact (husers doc hdoc).1
    · obtain rfl := List.mem_singleton.mp hdoc
      exact hasIdentity_of_first "t" []
  · intro entity doc hdoc fields hfields field r hresolve
    rcases resolve_staffSchema hresolve with ⟨rfl, rfl | rfl, rfl⟩ | ⟨rfl, rfl, rfl⟩
    · exact (hposts doc hdoc).1 fields hfields
    · exact (hposts doc hdoc).2 fields hfields
    · exact (husers doc hdoc).2 fields hfields

theorem holdsNoArray_of_ne {field : String} {fields : Document}
    (h : (fields.get? field).bind Value.items? = none) : HoldsNoArray field (.object fields) := by
  intro other hother items hitems
  obtain rfl := Value.object.inj hother
  rw [hitems] at h
  cases h

/-- A path of one name has no temporary field. -/
theorem clearPath_of_single {entity path name : String} (hpath : parse path = [name])
    (parents : List String) : ClearPath schema s entity parents path := by
  constructor
  all_goals
    intro parent child h
    rw [hpath] at h
    cases h

theorem clearPath_of_nested {entity path parent child : String}
    (hpath : parse path = [parent, child]) {parents : List String}
    (hparent : startsWithDollar parent = false) (hchild : startsWithDollar child = false)
    (hnot : tempField parent child ∉ parents)
    (hfields : ∀ doc : Document, .object doc ∈ s.documents (schema.collectionOf entity) →
      doc.get? (tempField parent child) = none) : ClearPath schema s entity parents path := by
  have hnames (parent' child' : String) (h : parse path = [parent', child']) :
      parent' = parent ∧ child' = child := by simpa using h.symm.trans hpath
  constructor
  · intro parent' child' h
    obtain ⟨rfl, rfl⟩ := hnames parent' child' h
    exact ⟨hparent, hchild⟩
  · intro parent' child' h
    obtain ⟨rfl, rfl⟩ := hnames parent' child' h
    exact hnot
  · intro parent' child' h
    obtain ⟨rfl, rfl⟩ := hnames parent' child' h
    exact hfields

theorem distinctIdentities_staff {posts : List Value} {first second : Value}
    (h : ∀ id other, resolve ["_id"] first = some id → resolve ["_id"] second = some other →
      id.same other = false) :
    DistinctIdentities staffSchema (staffStore posts [first, second]) := by
  intro entity field r hresolve
  rcases resolve_staffSchema hresolve with ⟨-, -, rfl⟩ | ⟨-, -, rfl⟩
  · exact List.pairwise_pair.mpr h
  · exact List.pairwise_singleton _ _

/-- The query for posts. -/
def staffQuery : Query := { entity := "Post", schema := staffSchema }

/-- A post without an editor, and one with an editor before its author, who is not there; and two
users, the first of them of the team. -/
def staff : Store :=
  staffStore
    [.object [("author", .string "u")], .object [("editor", .string "u"), ("author", .string "w")]]
    [.object [("_id", .string "u"), ("team", .string "t")], .object [("_id", .string "v")]]

theorem joins_commute_staff :
    staff.WellFormed ∧ Conforms staffSchema staff ∧ DistinctIdentities staffSchema staff ∧
    ∃ q₁ q₂ q q' rows rows', staffQuery.join "author.team" = .ok q₁ ∧
      staffQuery.join "editor" = .ok q₂ ∧ q₁.join "editor" = .ok q ∧
      q₂.join "author.team" = .ok q' ∧
      q.rows staff.run = .ok rows ∧ q'.rows staff.run = .ok rows' ∧
      rows.map (fun row => (Value.object row).sortKeys)
        = rows'.map fun row => (Value.object row).sortKeys := by
  have hs : staff.WellFormed := by decide
  have hc : Conforms staffSchema staff := by
    refine conforms_staff (fun doc hdoc => ?_) fun doc hdoc => ?_
    · rcases List.mem_pair.mp hdoc with rfl | rfl
      · exact ⟨holdsNoArray_of_ne rfl, holdsNoArray_of_ne rfl⟩
      · exact ⟨holdsNoArray_of_ne rfl, holdsNoArray_of_ne rfl⟩
    · rcases List.mem_pair.mp hdoc with rfl | rfl
      · exact ⟨hasIdentity_of_first "u" _, holdsNoArray_of_ne rfl⟩
      · exact ⟨hasIdentity_of_first "v" _, holdsNoArray_of_ne rfl⟩
  have hids : DistinctIdentities staffSchema staff := by
    refine distinctIdentities_staff fun id other hid hother => ?_
    obtain rfl : Value.string "u" = id := Option.some.inj hid
    obtain rfl : Value.string "v" = other := Option.some.inj hother
    decide
  have hauthor :
      ClearPath staffSchema staff "Post" [head "author.team", head "editor"] "author.team" := by
    have hpath : parse "author.team" = ["author", "team"] := rfl
    refine clearPath_of_nested hpath (by decide) (by decide) (by decide +kernel) fun doc hdoc => ?_
    refine FieldMap.get?_eq_none_iff.mpr ?_
    rcases List.mem_pair.mp hdoc with hpost | hpost
    · obtain rfl := Value.object.inj hpost
      decide +kernel
    · obtain rfl := Value.object.inj hpost
      decide +kernel
  have hpath : parse "editor" = ["editor"] := rfl
  have heditor : ClearPath staffSchema staff "Post" [head "author.team", head "editor"] "editor" :=
    clearPath_of_single hpath _
  obtain ⟨q₁, h₁⟩ : ∃ q₁, staffQuery.join "author.team" = .ok q₁ := ⟨_, rfl⟩
  obtain ⟨q₂, h₂⟩ : ∃ q₂, staffQuery.join "editor" = .ok q₂ := ⟨_, rfl⟩
  obtain ⟨q, q', rows, rows', hq, hq', hrows⟩ := joins_commute hs hc hids h₁ h₂ hauthor heditor
  exact ⟨hs, hc, hids, q₁, q₂, q, q', rows, rows', h₁, h₂, hq, hq', hrows⟩

/-! ## Identities that round to one double -/

/-- Two users whose identities are different integers with one nearest double, and a post that names
the first of them as author and editor. -/
def twins : Store :=
  staffStore
    [.object [("author", .ofInt 9007199254740992), ("editor", .ofInt 9007199254740992)]]
    [.object [("_id", .ofInt 9007199254740992)], .object [("_id", .ofInt 9007199254740993)]]

/-- The authors of the rows, by their identities. -/
def authors (rows : List Document) : List (Option Int) :=
  rows.map fun row =>
    (((Value.object row).sortKeys.fields?.bind (FieldMap.get? · "author")).bind Value.fields?).bind
      fun author => (author.get? "_id").bind Value.signed?

theorem authors_of_sortKeys {rows rows' : List Document}
    (h : rows.map (fun row => (Value.object row).sortKeys)
      = rows'.map fun row => (Value.object row).sortKeys) : authors rows = authors rows' := by
  have hmap := congrArg (List.map fun row : Value =>
    ((row.fields?.bind (FieldMap.get? · "author")).bind Value.fields?).bind
      fun author => (author.get? "_id").bind Value.signed?) h
  rw [List.map_map, List.map_map] at hmap
  exact hmap

/-- It is not enough that identities are different values: the author and the editor of a post are
both found twice, and the first join decides the order of the rows. -/
theorem joins_of_twins_differ :
    twins.WellFormed ∧ Conforms staffSchema twins ∧
    (∀ entity field r, staffSchema.resolve entity field = .relationship r →
      (twins.documents (staffSchema.collectionOf r.target)).Pairwise fun first second =>
        resolve (parse (staffSchema.identityOf r.target)) first
          ≠ resolve (parse (staffSchema.identityOf r.target)) second) ∧
    ClearPath staffSchema twins "Post" [head "author", head "editor"] "author" ∧
    ClearPath staffSchema twins "Post" [head "author", head "editor"] "editor" ∧
    ∃ q₁ q₂ q q' rows rows', staffQuery.join "author" = .ok q₁ ∧ staffQuery.join "editor" = .ok q₂ ∧
      q₁.join "editor" = .ok q ∧ q₂.join "author" = .ok q' ∧
      q.rows twins.run = .ok rows ∧ q'.rows twins.run = .ok rows' ∧
      rows.map (fun row => (Value.object row).sortKeys)
        ≠ rows'.map fun row => (Value.object row).sortKeys := by
  have hs : twins.WellFormed := by decide
  have hc : Conforms staffSchema twins := by
    refine conforms_staff (fun doc hdoc => ?_) fun doc hdoc => ?_
    · obtain rfl := List.mem_singleton.mp hdoc
      exact ⟨holdsNoArray_of_ne rfl, holdsNoArray_of_ne rfl⟩
    · rcases List.mem_pair.mp hdoc with rfl | rfl
      · exact ⟨⟨_, rfl, rfl, rfl⟩, holdsNoArray_of_ne rfl⟩
      · exact ⟨⟨_, rfl, rfl, rfl⟩, holdsNoArray_of_ne rfl⟩
  have hdifferent : ∀ entity field r, staffSchema.resolve entity field = .relationship r →
      (twins.documents (staffSchema.collectionOf r.target)).Pairwise fun first second =>
        resolve (parse (staffSchema.identityOf r.target)) first
          ≠ resolve (parse (staffSchema.identityOf r.target)) second := by
    intro entity field r hresolve
    rcases resolve_staffSchema hresolve with ⟨-, -, rfl⟩ | ⟨-, -, rfl⟩
    · refine List.pairwise_pair.mpr fun heq => ?_
      have hnumbers :
          some (Value.ofInt 9007199254740992) = some (Value.ofInt 9007199254740993) := heq
      simp [Value.ofInt] at hnumbers
    · exact List.pairwise_singleton _ _
  have hauthor : parse "author" = ["author"] := rfl
  have heditor : parse "editor" = ["editor"] := rfl
  obtain ⟨q₁, q, h₁, hq, hok⟩ : ∃ q₁ q, staffQuery.join "author" = .ok q₁ ∧
      q₁.join "editor" = .ok q ∧ (q.rows twins.run).toOption.map authors
        = some [some 9007199254740992, some 9007199254740992, some 9007199254740993,
            some 9007199254740993] := ⟨_, _, rfl, rfl, by decide +kernel⟩
  obtain ⟨q₂, q', h₂, hq', hok'⟩ : ∃ q₂ q', staffQuery.join "editor" = .ok q₂ ∧
      q₂.join "author" = .ok q' ∧ (q'.rows twins.run).toOption.map authors
        = some [some 9007199254740992, some 9007199254740993, some 9007199254740992,
            some 9007199254740993] := ⟨_, _, rfl, rfl, by decide +kernel⟩
  cases hrows : q.rows twins.run with
  | error e =>
      rw [hrows] at hok
      cases hok
  | ok rows =>
      cases hrows' : q'.rows twins.run with
      | error e =>
          rw [hrows'] at hok'
          cases hok'
      | ok rows' =>
          rw [hrows] at hok
          rw [hrows'] at hok'
          refine ⟨hs, hc, hdifferent, clearPath_of_single hauthor _, clearPath_of_single heditor _,
            q₁, q₂, q, q', rows, rows', h₁, h₂, hq, hq', hrows, hrows', fun hsame => ?_⟩
          have hauthors := (Option.some.inj hok).symm.trans
            ((authors_of_sortKeys hsame).trans (Option.some.inj hok'))
          simp at hauthors

end DocQuery.Join
