import DocQuery.Query.Basic
import DocQuery.Proofs.Outcome
import DocQuery.Proofs.Path.Segments

/-!
# Routes of join paths

An accepted path takes a route of one or two references through the schema. Its plan has the stages
of the route, without those of the parent if the parent was joined before, and no plan at all if the
path was. The history decides nothing else, so what a fresh query accepts every query for the entity
accepts (`join_of_fresh`).
-/

namespace DocQuery.Join

open DocQuery.Path

/-! ## Routes -/

/-- The references that a join path names: one of the entity, and one of its target, if the path
goes on. -/
structure Route where
  parent : String
  first : Relationship
  next : Option (String × Relationship) := none

/-- The route that a path takes from an entity. -/
inductive Route.Of (schema : Schema) (entity path : String) : Route → Prop where
  | one {parent : String} {r : Relationship} (hpath : parse path = [parent])
      (hr : schema.resolve entity parent = .relationship r) :
      Of schema entity path ⟨parent, r, none⟩
  | two {parent child : String} {r t : Relationship} (hpath : parse path = [parent, child])
      (hr : schema.resolve entity parent = .relationship r)
      (ht : schema.resolve r.target child = .relationship t) :
      Of schema entity path ⟨parent, r, some (child, t)⟩

/-- The stages of a route; those of a known parent are left out. -/
def Route.stages (schema : Schema) (route : Route) (known : Bool) : Pipeline :=
  (if known then [] else directStages schema route.parent route.first) ++
    match route.next with
    | none => []
    | some (child, t) => nestedStages schema route.parent route.first child t

/-- The paths that are joined with a route. -/
def Route.marks (route : Route) (path : String) : List String :=
  match route.next with
  | none => [route.parent]
  | some _ => [route.parent, path]

variable {schema : Schema} {entity path : String}

theorem Route.Of.undotted_parent {route : Route} (h : Route.Of schema entity path route) :
    Undotted route.parent := by
  cases h with
  | one hpath _ => exact undotted_first hpath
  | two hpath _ _ => exact undotted_first hpath

theorem Route.Of.head_eq {route : Route} (h : Route.Of schema entity path route) :
    head path = route.parent := by
  cases h with
  | one hpath _ => rw [head, hpath, List.headD_cons]
  | two hpath _ _ => rw [head, hpath, List.headD_cons]

theorem Route.Of.resolve_parent {route : Route} (h : Route.Of schema entity path route) :
    schema.resolve entity route.parent = .relationship route.first := by
  cases h with
  | one _ hr => exact hr
  | two _ hr _ => exact hr

theorem Route.Of.mem_marks {route : Route} (h : Route.Of schema entity path route) :
    path ∈ route.marks path := by
  cases h with
  | one hpath _ => exact List.mem_singleton.mpr (eq_of_parse_singleton hpath)
  | two hpath _ _ => exact List.mem_pair.mpr (.inr rfl)

/-- With a path its parent is joined, and nothing else. -/
theorem Route.Of.mem_marks_iff {route : Route} (h : Route.Of schema entity path route)
    {name : String} :
    name ∈ route.marks path ↔ name = path ∨ ∃ child, path = name ++ "." ++ child := by
  cases h with
  | @one parent r hpath hr =>
      obtain rfl := eq_of_parse_singleton hpath
      have hdotted : ¬ ∃ child, path = name ++ "." ++ child := by
        rintro ⟨child, rfl⟩
        exact parse_dotted_ne_singleton _ _ _ hpath
      rw [or_iff_left hdotted]
      exact List.mem_singleton
  | @two parent child r t hpath hr ht =>
      rw [Route.marks, List.mem_pair, or_comm]
      refine or_congr_right ⟨?_, ?_⟩
      · rintro rfl
        exact ⟨child, eq_of_parse_pair hpath⟩
      · rintro ⟨child', rfl⟩
        exact (names_of_parse_dotted hpath).1

/-- A dotted path takes two references, named before and behind its dot. -/
theorem Route.Of.eq_two {parent child : String} {route : Route}
    (h : Route.Of schema entity (parent ++ "." ++ child) route) :
    ∃ r t, route = ⟨parent, r, some (child, t)⟩ ∧
      schema.resolve entity parent = .relationship r ∧
      parse (parent ++ "." ++ child) = [parent, child] := by
  cases h with
  | one hpath _ => exact absurd hpath (parse_dotted_ne_singleton _ _ _)
  | two hpath hr _ =>
      obtain ⟨rfl, rfl⟩ := names_of_parse_dotted hpath
      exact ⟨_, _, rfl, hr, hpath⟩

/-- Of the paths that are joined with a route, only the path itself may be two names. -/
theorem Route.Of.eq_of_dotted {route : Route} (h : Route.Of schema entity path route)
    {parent child : String} (hmem : parent ++ "." ++ child ∈ route.marks path) :
    parent ++ "." ++ child = path := by
  cases h with
  | @one name r hpath hr =>
      rw [List.mem_singleton.mp hmem, eq_of_parse_singleton hpath]
  | @two name child' r t hpath hr ht =>
      rcases List.mem_pair.mp hmem with rfl | hpath'
      · exact absurd (parse_first hpath) (parse_dotted_ne_singleton _ _ _)
      · exact hpath'

theorem Route.Of.nodup_marks {route : Route} (h : Route.Of schema entity path route) :
    (route.marks path).Nodup := by
  cases h with
  | one hpath _ => simp [Route.marks]
  | two hpath _ _ => simp [Route.marks, (ne_of_parse_pair hpath).symm]

/-- What is joined with a route begins with its parent. -/
theorem Route.Of.head_of_mem_marks {route : Route} (h : Route.Of schema entity path route)
    {name : String} (hmem : name ∈ route.marks path) : head name = route.parent := by
  rcases h.mem_marks_iff.mp hmem with rfl | ⟨child, rfl⟩
  · exact h.head_eq
  · obtain ⟨r, t, rfl, -, hpath⟩ := h.eq_two
    rw [head, parse_first hpath, List.headD_cons]

/-- Of the paths that are joined with a route, only the parent is one name. -/
theorem Route.Of.eq_parent {route : Route} (h : Route.Of schema entity path route) {name : String}
    (hname : Undotted name) (hmem : name ∈ route.marks path) : name = route.parent := by
  rw [← h.head_of_mem_marks hmem, head, parse_of_undotted hname, List.headD_cons]

/-! ## Following a path -/

/-- The route of a path that names at most so many references. -/
def follow (schema : Schema) (entity path : String) (most : Nat) : Except BuildError Route := do
  let (parent, child?) ← names path most
  let r ← reference schema entity parent
  match child? with
  | none => return ⟨parent, r, none⟩
  | some child =>
    let t ← reference schema r.target child
    return ⟨parent, r, some (child, t)⟩

theorem names_eq_ok {most : Nat} {parent : String} {child? : Option String} :
    names path most = .ok (parent, child?) ↔ parse path = parent :: child?.toList ∧
      (∀ name ∈ parse path, name ≠ "") ∧ (parse path).length ≤ most := by
  have hempty : (parse path).any (· = "") = true ↔ ¬ ∀ name ∈ parse path, name ≠ "" := by simp
  unfold names
  simp only
  split
  · rename_i h
    simp [hempty.mp h]
  · rename_i h
    have hnames := not_not.mp (mt hempty.mpr h)
    split
    · rename_i hdeep
      simp [Nat.not_le.mpr hdeep]
    · rename_i hdeep
      rw [and_iff_left ⟨hnames, Nat.not_lt.mp hdeep⟩]
      split
      · rename_i hpath
        cases child? <;> simp [hpath]
      · rename_i hpath
        cases child? <;> simp [hpath]
      · rename_i hone htwo
        have hdeeper : parse path ≠ parent :: child?.toList := by
          cases child? with
          | none => exact hone parent
          | some child => exact htwo parent child
        simp [hdeeper]

theorem reference_eq_ok {entity field : String} {r : Relationship} :
    reference schema entity field = .ok r ↔ schema.resolve entity field = .relationship r := by
  unfold reference
  split
  · rename_i hresolve
    rw [hresolve, Except.ok.injEq, Resolution.relationship.injEq]
  · rename_i hresolve
    simp [hresolve]
  · rename_i hresolve
    simp [hresolve]

/-- A path is followed along its route if none of its names is empty and they are not too many. -/
theorem follow_eq_ok {most : Nat} {route : Route} :
    follow schema entity path most = .ok route ↔ Route.Of schema entity path route ∧
      (∀ name ∈ parse path, name ≠ "") ∧ (parse path).length ≤ most := by
  constructor
  · intro h
    obtain ⟨⟨parent, child?⟩, hnames, h⟩ := bind_eq_ok.mp h
    obtain ⟨hpath, hallowed⟩ := names_eq_ok.mp hnames
    obtain ⟨r, hr, h⟩ := bind_eq_ok.mp h
    cases child? with
    | none =>
        obtain rfl := Except.ok.inj h
        exact ⟨.one hpath (reference_eq_ok.mp hr), hallowed⟩
    | some child =>
        obtain ⟨t, ht, h⟩ := bind_eq_ok.mp h
        obtain rfl := Except.ok.inj h
        exact ⟨.two hpath (reference_eq_ok.mp hr) (reference_eq_ok.mp ht), hallowed⟩
  · rintro ⟨hroute, hallowed⟩
    cases hroute with
    | @one parent r hpath hr =>
        have hnames : names path most = .ok (parent, none) := names_eq_ok.mpr ⟨hpath, hallowed⟩
        rw [follow, hnames, ok_bind]
        simp only [reference_eq_ok.mpr hr, ok_bind, pure_eq_ok]
    | @two parent child r t hpath hr ht =>
        have hnames : names path most = .ok (parent, some child) :=
          names_eq_ok.mpr ⟨hpath, hallowed⟩
        rw [follow, hnames, ok_bind]
        simp only [reference_eq_ok.mpr hr, reference_eq_ok.mpr ht, ok_bind, pure_eq_ok]

theorem names_of_follow {most : Nat} {route : Route}
    (h : follow schema entity path most = .ok route) :
    ∃ found, names path most = .ok found := by
  obtain ⟨found, hnames, -⟩ := bind_eq_ok.mp h
  exact ⟨found, hnames⟩

/-! ## Plans -/

/-- A path that is not joined already has the plan of its route. -/
theorem plan_of_new (most : Nat) {joined : List String} (hnew : joined.contains path = false) :
    plan schema entity path most joined
      = (fun route => some ⟨route.stages schema (joined.contains route.parent), route.marks path⟩)
          <$> follow schema entity path most := by
  rw [plan, follow]
  cases names path most with
  | error e => rfl
  | ok found =>
      obtain ⟨parent, child?⟩ := found
      simp only [ok_bind, hnew, Bool.false_eq_true, if_false]
      cases reference schema entity parent with
      | error e => rfl
      | ok r =>
          cases child? with
          | none => simp [Route.stages, Route.marks]
          | some child =>
              simp only [ok_bind]
              cases reference schema r.target child with
              | error e => rfl
              | ok t => rfl

theorem plan_of_known (schema : Schema) (entity : String) (most : Nat) {joined : List String}
    (hknown : joined.contains path = true) :
    plan schema entity path most joined = (fun _ => none) <$> names path most := by
  rw [plan]
  cases names path most with
  | error e => rfl
  | ok found =>
      simp only [ok_bind, hknown, if_true]
      rfl

theorem plan_eq_some {most : Nat} {joined : List String} {p : Plan}
    (h : plan schema entity path most joined = .ok (some p)) :
    ∃ route, Route.Of schema entity path route ∧
      p = ⟨route.stages schema (joined.contains route.parent), route.marks path⟩ := by
  cases hknown : joined.contains path with
  | true =>
      rw [plan_of_known schema entity most hknown] at h
      obtain ⟨found, -, h⟩ := map_eq_ok.mp h
      cases h
  | false =>
      rw [plan_of_new most hknown] at h
      obtain ⟨route, hfollow, h⟩ := map_eq_ok.mp h
      exact ⟨route, (follow_eq_ok.mp hfollow).1, (Option.some.inj h).symm⟩

/-! ## Calls -/

/-- The query behind a call that joins a path along a route. -/
def along (q : Query) (path : String) (route : Route) : Query :=
  if q.joined.contains path then q
  else { q with
    stages := q.stages ++ route.stages q.schema (q.joined.contains route.parent)
    joined := q.joined ++ (route.marks path).filter fun name => !q.joined.contains name }

theorem along_of_known {q : Query} (hknown : q.joined.contains path = true) (route : Route) :
    along q path route = q := by
  rw [along, if_pos hknown]

theorem along_of_new {q : Query} (hnew : q.joined.contains path = false) (route : Route) :
    along q path route = { q with
      stages := q.stages ++ route.stages q.schema (q.joined.contains route.parent)
      joined := q.joined ++ (route.marks path).filter fun name => !q.joined.contains name } := by
  rw [along, if_neg (by simp only [hnew, Bool.false_eq_true, not_false_eq_true])]

@[simp] theorem entity_along (q : Query) (path : String) (route : Route) :
    (along q path route).entity = q.entity := by
  unfold along
  split <;> rfl

@[simp] theorem schema_along (q : Query) (path : String) (route : Route) :
    (along q path route).schema = q.schema := by
  unfold along
  split <;> rfl

@[simp] theorem options_along (q : Query) (path : String) (route : Route) :
    (along q path route).options = q.options := by
  unfold along
  split <;> rfl

theorem collection_along (q : Query) (path : String) (route : Route) :
    (along q path route).collection = q.collection := by
  simp only [Query.collection, schema_along, entity_along]

theorem join_of_new {q : Query} (hnew : q.joined.contains path = false) :
    q.join path = along q path <$> follow q.schema q.entity path q.options.maxJoinDepth := by
  rw [Query.join, plan_of_new _ hnew]
  cases follow q.schema q.entity path q.options.maxJoinDepth with
  | error e => rfl
  | ok route =>
      rw [map_ok, map_ok, ok_bind, along, hnew]
      rfl

theorem join_of_known {q : Query} (hknown : q.joined.contains path = true) :
    q.join path = (fun _ => q) <$> names path q.options.maxJoinDepth := by
  rw [Query.join, plan_of_known _ _ _ hknown]
  cases names path q.options.maxJoinDepth <;> rfl

/-- A call that joins a path follows it, unless a path is joined that could not be followed. -/
theorem join_eq_follow {q : Query} (h : q.joined.contains path = true →
      ∃ route, follow q.schema q.entity path q.options.maxJoinDepth = .ok route) :
    q.join path = along q path <$> follow q.schema q.entity path q.options.maxJoinDepth := by
  cases hknown : q.joined.contains path with
  | false => exact join_of_new hknown
  | true =>
      obtain ⟨route, hroute⟩ := h hknown
      obtain ⟨found, hnames⟩ := names_of_follow hroute
      rw [join_of_known hknown, hnames, hroute, map_ok, map_ok, along_of_known hknown]

/-- A call that joins a path adds the stages of its route, unless it is joined already. -/
theorem join_eq_ok {q q' : Query} (h : q.join path = .ok q') :
    q' = q ∨ ∃ route, Route.Of q.schema q.entity path route ∧ q' = along q path route := by
  cases hknown : q.joined.contains path with
  | true =>
      rw [join_of_known hknown] at h
      obtain ⟨found, -, rfl⟩ := map_eq_ok.mp h
      exact .inl rfl
  | false =>
      rw [join_of_new hknown] at h
      obtain ⟨route, hroute, rfl⟩ := map_eq_ok.mp h
      exact .inr ⟨route, (follow_eq_ok.mp hroute).1, rfl⟩

/-- What a fresh query joins may be joined by every query for the entity. -/
theorem join_of_fresh {options : Options} {q : Query}
    (h : ({ entity, schema, options } : Query).join path = .ok q) :
    ∃ route, Route.Of schema entity path route ∧ ∀ q : Query, q.schema = schema →
      q.entity = entity → q.options = options → q.join path = .ok (along q path route) := by
  rw [join_of_new rfl] at h
  obtain ⟨route, hroute, -⟩ := map_eq_ok.mp h
  refine ⟨route, (follow_eq_ok.mp hroute).1, ?_⟩
  rintro q rfl rfl rfl
  rw [join_eq_follow (q := q) fun _ => ⟨route, hroute⟩, hroute, map_ok]

/-- Nothing comes behind the stages of a query that only joins. -/
theorem pipeline_of_joins (schema : Schema) (entity : String) (options : Options)
    (stages : Pipeline) (joined : List String) :
    Query.pipeline { entity, schema, options, stages, joined } = stages := by
  simp only [Query.pipeline, Query.finalize, Query.window, Option.map_none, Option.toList_none,
    List.append_nil]

end DocQuery.Join
