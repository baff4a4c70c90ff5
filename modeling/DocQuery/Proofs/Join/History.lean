import DocQuery.Proofs.Join.Routes
import DocQuery.Proofs.Query.Calls
import DocQuery.Schema.Registry

/-!
# Joins behind other calls

Whatever calls led to a query, what it has joined are paths that can be followed through the schema,
each of them with its parent (`Consistent`). So the shortcut for a joined path never lets a path
through that would be refused otherwise: a join follows its path, whether that is joined already or
not (`Consistent.join_eq`). Acceptance then does not depend on the calls before
(`join_as_on_fresh`), and what is joined once needs no joining again (`joins_absorbed`).
-/

namespace DocQuery.Join

open DocQuery.Path
open DocQuery.Query (calls_nil calls_cons)

variable {schema : Schema} {entity path : String} {most : Nat} {route : Route} {q q' : Query}

/-- With a path its parent can be followed, which is joined with it. -/
theorem follow_of_mem_marks (h : follow schema entity path most = .ok route) {name : String}
    (hname : name ∈ route.marks path) :
    ∃ other, follow schema entity name most = .ok other ∧ other.marks name ⊆ route.marks path := by
  have hself : ∃ other, follow schema entity path most = .ok other ∧
      other.marks path ⊆ route.marks path := ⟨route, h, List.Subset.refl _⟩
  obtain ⟨hroute, hnames, hmost⟩ := follow_eq_ok.mp h
  cases hroute with
  | @one parent r hpath hr =>
      obtain rfl : name = parent := List.mem_singleton.mp hname
      obtain rfl := eq_of_parse_singleton hpath
      exact hself
  | @two parent child r t hpath hr ht =>
      rcases List.mem_pair.mp hname with rfl | rfl
      · have hparent := parse_first hpath
        refine ⟨⟨name, r, none⟩, follow_eq_ok.mpr ⟨.one hparent hr, fun other hother => ?_, ?_⟩, ?_⟩
        · rw [hparent, List.mem_singleton] at hother
          exact hnames other (by simp [hpath, hother])
        · rw [hpath] at hmost
          rw [hparent]
          exact Nat.le_of_succ_le hmost
        · exact fun other hother => List.mem_cons.mpr (.inl (List.mem_singleton.mp hother))
      · exact hself

/-! ## Joined paths -/

/-- What is joined can be followed, and its parent is joined as well. -/
def Consistent (q : Query) : Prop :=
  ∀ path ∈ q.joined, ∃ route, follow q.schema q.entity path q.options.maxJoinDepth = .ok route ∧
    route.marks path ⊆ q.joined

theorem consistent_fresh (entity : String) (schema : Schema) (options : Options) :
    Consistent { entity, schema, options } := by
  intro path hpath
  cases hpath

/-- A join follows its path, be it joined already or not. -/
theorem Consistent.join_eq (hq : Consistent q) (path : String) :
    q.join path = along q path <$> follow q.schema q.entity path q.options.maxJoinDepth := by
  refine join_eq_follow fun hknown => ?_
  obtain ⟨route, hroute, -⟩ := hq path (List.contains_iff_mem.mp hknown)
  exact ⟨route, hroute⟩

theorem Consistent.join_of_follow (hq : Consistent q)
    (h : follow q.schema q.entity path q.options.maxJoinDepth = .ok route) :
    q.join path = .ok (along q path route) := by
  rw [hq.join_eq, h, map_ok]

/-- Joining a joined path changes nothing. -/
theorem Consistent.join_of_mem (hq : Consistent q) (hpath : path ∈ q.joined) :
    q.join path = .ok q := by
  obtain ⟨route, hroute, -⟩ := hq path hpath
  rw [hq.join_of_follow hroute, along_of_known (List.contains_iff_mem.mpr hpath)]

theorem Consistent.mem_joined_along (hq : Consistent q)
    (h : follow q.schema q.entity path q.options.maxJoinDepth = .ok route) {name : String} :
    name ∈ (along q path route).joined ↔ name ∈ q.joined ∨ name ∈ route.marks path := by
  unfold along
  split
  · rename_i hknown
    obtain ⟨other, hother, hmarks⟩ := hq path (List.contains_iff_mem.mp hknown)
    obtain rfl := Except.ok.inj (h.symm.trans hother)
    exact (or_iff_left_of_imp fun hname => hmarks hname).symm
  · by_cases hname : name ∈ q.joined <;> simp [hname]

theorem Consistent.along (hq : Consistent q)
    (h : follow q.schema q.entity path q.options.maxJoinDepth = .ok route) :
    Consistent (along q path route) := by
  intro name hname
  simp only [entity_along, schema_along, options_along]
  rcases (hq.mem_joined_along h).mp hname with hold | hnew
  · obtain ⟨other, hother, hmarks⟩ := hq name hold
    exact ⟨other, hother, fun mark hmark => (hq.mem_joined_along h).mpr (.inl (hmarks hmark))⟩
  · obtain ⟨other, hother, hmarks⟩ := follow_of_mem_marks h hnew
    exact ⟨other, hother, fun mark hmark => (hq.mem_joined_along h).mpr (.inr (hmarks hmark))⟩

/-- An accepted join goes along the route of its path. -/
theorem Consistent.join_eq_ok (hq : Consistent q) (h : q.join path = .ok q') :
    ∃ route, follow q.schema q.entity path q.options.maxJoinDepth = .ok route ∧
      q' = Join.along q path route := by
  rw [hq.join_eq] at h
  obtain ⟨route, hroute, rfl⟩ := map_eq_ok.mp h
  exact ⟨route, hroute, rfl⟩

theorem Consistent.call (hq : Consistent q) {c : Call} (h : q.call c = .ok q') : Consistent q' := by
  cases hc : c.path? with
  | none =>
      have hsame := Query.sameBinding_of_call h
      unfold Consistent
      rw [hsame.entity, hsame.schema, hsame.options, Query.joined_of_call hc h]
      exact hq
  | some path =>
      obtain rfl := Call.eq_join hc
      obtain ⟨route, hroute, rfl⟩ := hq.join_eq_ok h
      exact hq.along hroute

theorem Consistent.calls (hq : Consistent q) {history : List Call} (h : q.calls history = .ok q') :
    Consistent q' :=
  Query.calls_induct (fun _ _ _ hmid hcall => hmid.call hcall) h hq

/-- The path was joined by one of the calls, or as the parent of a path that was. -/
def JoinedBy (history : List Call) (path : String) : Prop :=
  .join path ∈ history ∨ ∃ child, .join (path ++ "." ++ child) ∈ history

theorem joinedBy_cons (c : Call) (rest : List Call) (path : String) :
    JoinedBy (c :: rest) path ↔ JoinedBy [c] path ∨ JoinedBy rest path := by
  simp only [JoinedBy, List.mem_cons, List.not_mem_nil, or_false, exists_or]
  exact or_or_or_comm

theorem joinedBy_join {name : String} :
    JoinedBy [.join path] name ↔ name = path ∨ ∃ child, path = name ++ "." ++ child := by
  simp [JoinedBy, eq_comm]

theorem Consistent.mem_joined_of_call (hq : Consistent q) {c : Call} (h : q.call c = .ok q')
    {name : String} : name ∈ q'.joined ↔ name ∈ q.joined ∨ JoinedBy [c] name := by
  cases hc : c.path? with
  | none =>
      have hnot : ¬ JoinedBy [c] name := by
        rintro (hmem | ⟨child, hmem⟩)
        all_goals
          obtain rfl := List.mem_singleton.mp hmem
          cases hc
      rw [Query.joined_of_call hc h, or_iff_left hnot]
  | some path =>
      obtain rfl := Call.eq_join hc
      obtain ⟨route, hroute, rfl⟩ := hq.join_eq_ok h
      rw [hq.mem_joined_along hroute, (follow_eq_ok.mp hroute).1.mem_marks_iff, joinedBy_join]

/-- What is joined are the paths of the joins and their parents. -/
theorem Consistent.mem_joined_of_calls (hq : Consistent q) {history : List Call}
    (h : q.calls history = .ok q') {name : String} :
    name ∈ q'.joined ↔ name ∈ q.joined ∨ JoinedBy history name := by
  induction history generalizing q with
  | nil =>
      obtain rfl := Except.ok.inj h
      simp [JoinedBy]
  | cons c rest ih =>
      rw [calls_cons] at h
      obtain ⟨mid, hcall, hrest⟩ := bind_eq_ok.mp h
      rw [ih (hq.call hcall) hrest, hq.mem_joined_of_call hcall, joinedBy_cons c rest, or_assoc]

/-! ## Acceptance -/

/-- **Acceptance does not depend on history.** Behind any accepted calls a path is joined or
refused, and refused with the same error, as on a fresh query for the entity. It is joined if it
takes a route through the schema, none of its names is empty and they are no more than the options
allow. -/
theorem join_as_on_fresh {entity : String} {schema : Schema} {options : Options}
    {history : List Call} {q : Query}
    (h : ({ entity, schema, options } : Query).calls history = .ok q) (path : String) :
    ((∃ q', q.join path = .ok q') ↔
      ∃ q', ({ entity, schema, options } : Query).join path = .ok q') ∧
    (∀ e, q.join path = .error e ↔ ({ entity, schema, options } : Query).join path = .error e) ∧
    ((∃ q', q.join path = .ok q') ↔ (∃ route, Route.Of schema entity path route) ∧
      (∀ name ∈ parse path, name ≠ "") ∧ (parse path).length ≤ options.maxJoinDepth) := by
  have hfresh := consistent_fresh entity schema options
  have hjoin := (hfresh.calls h).join_eq path
  obtain ⟨hentity, hschema, hoptions⟩ := Query.sameBinding_of_calls h
  rw [hentity, hschema, hoptions] at hjoin
  rw [hjoin, hfresh.join_eq path]
  simp only [← exists_and_right, ← follow_eq_ok]
  cases follow schema entity path options.maxJoinDepth with
  | error e => simp
  | ok route => simp

/-- Users have a role and posts, and posts have a title and a category. -/
def blogSchema : Schema :=
  let user : Entity := ({ name := "User" } : Entity).one "role" "Role" |>.many "posts" "Post"
  let post : Entity := ({ name := "Post" } : Entity).field "title" |>.one "category" "Category"
  (({} : Registry).declare user |>.declare post).toSchema

/-- The query for users. -/
def blogQuery : Query := { entity := "User", schema := blogSchema }

/-- Three joins, the last of them the parent of the first, with other calls in between. -/
def blogCalls : List Call :=
  [.join "posts.category", .filterEquals "active" (.bool true), .join "role",
    .orderByField "name" .ascending, .limit 10, .orderByField "age" .descending, .join "posts"]

theorem join_as_on_fresh_blog :
    ∃ q, blogQuery.calls blogCalls = .ok q ∧
      (∃ q', q.join "posts.category" = .ok q') ∧ (∃ q', q.join "posts" = .ok q') ∧
      q.join "posts.title" = .error (.fieldNotRelationship "title" "Post") := by
  obtain ⟨q, hq⟩ : ∃ q, blogQuery.calls blogCalls = .ok q := ⟨_, rfl⟩
  obtain ⟨hcategory, -⟩ := join_as_on_fresh hq "posts.category"
  obtain ⟨hposts, -⟩ := join_as_on_fresh hq "posts"
  obtain ⟨-, htitle, -⟩ := join_as_on_fresh hq "posts.title"
  exact ⟨q, hq, hcategory.mpr ⟨_, rfl⟩, hposts.mpr ⟨_, rfl⟩, (htitle _).mpr rfl⟩

/-! ## Absorption -/

/-- The parent of a nested path may be joined before it, with the same stages. -/
theorem along_parent {parent child : String} {route other : Route}
    (hroute : Route.Of q.schema q.entity (parent ++ "." ++ child) route)
    (hother : Route.Of q.schema q.entity parent other)
    (hjoined : parent ++ "." ++ child ∈ q.joined → parent ∈ q.joined) :
    along (along q parent other) (parent ++ "." ++ child) route
      = along q (parent ++ "." ++ child) route := by
  by_cases hknown : parent ∈ q.joined
  · rw [along_of_known (List.contains_iff_mem.mpr hknown)]
  · have hnew : parent ++ "." ++ child ∉ q.joined := fun hmem => hknown (hjoined hmem)
    obtain ⟨r, t, rfl, hr, hpath⟩ := hroute.eq_two
    have hparent := parse_first hpath
    have hne := ne_of_parse_pair hpath
    cases hother with
    | two hpath' _ _ => cases hparent.symm.trans hpath'
    | @one first r' hpath' hr' =>
        obtain rfl := eq_of_parse_singleton hpath'
        obtain rfl := Resolution.relationship.inj (hr.symm.trans hr')
        simp [along, Route.stages, Route.marks, hknown, hnew, hne]

/-- A path that was joined once is joined again without effect. -/
theorem Consistent.join_later (hq : Consistent q) (hjoin : q.join path = .ok q') {later : List Call}
    {last : Query} (hlater : q'.calls later = .ok last) : last.join path = .ok last := by
  obtain ⟨route, hroute, rfl⟩ := hq.join_eq_ok hjoin
  have hmem : path ∈ (Join.along q path route).joined :=
    (hq.mem_joined_along hroute).mpr (.inr (follow_eq_ok.mp hroute).1.mem_marks)
  exact ((hq.along hroute).calls hlater).join_of_mem (Query.joined_subset_of_calls hlater hmem)

/-- The parent of a joined path need not be joined any more, and might have been joined before. -/
theorem Consistent.join_parent (hq : Consistent q) {parent child : String}
    (hjoin : q.join (parent ++ "." ++ child) = .ok q') :
    q'.join parent = .ok q' ∧
      ∃ mid, q.join parent = .ok mid ∧ mid.join (parent ++ "." ++ child) = .ok q' := by
  obtain ⟨route, hroute, rfl⟩ := hq.join_eq_ok hjoin
  have hmarks := (follow_eq_ok.mp hroute).1
  have hparent : parent ∈ route.marks (parent ++ "." ++ child) :=
    hmarks.mem_marks_iff.mpr (.inr ⟨child, rfl⟩)
  obtain ⟨other, hother, -⟩ := follow_of_mem_marks hroute hparent
  refine ⟨?_, Join.along q parent other, hq.join_of_follow hother, ?_⟩
  · exact (hq.along hroute).join_of_mem ((hq.mem_joined_along hroute).mpr (.inr hparent))
  · have hjoined : parent ++ "." ++ child ∈ q.joined → parent ∈ q.joined := by
      intro hmem
      obtain ⟨known, hknown, hsubset⟩ := hq _ hmem
      obtain rfl := Except.ok.inj (hroute.symm.trans hknown)
      exact hsubset hparent
    rw [← along_parent hmarks (follow_eq_ok.mp hother).1 hjoined]
    exact (hq.along hother).join_of_follow (by simpa using hroute)

/-- **Joins are absorbed.** Behind any accepted calls a nested path may be joined alone or together
with its parent, in any order and more than once: the query is the same. And of two joins of one
path the later one may be left out, whatever calls are made before, between and behind them. -/
theorem joins_absorbed {entity : String} {schema : Schema} {options : Options} {history : List Call}
    {q : Query} (h : ({ entity, schema, options } : Query).calls history = .ok q) :
    (∀ parent child q', q.join (parent ++ "." ++ child) = .ok q' →
      ∀ joins ∈ [[parent ++ "." ++ child], [parent, parent ++ "." ++ child],
          [parent ++ "." ++ child, parent], [parent ++ "." ++ child, parent ++ "." ++ child],
          [parent, parent ++ "." ++ child, parent]],
        q.calls (joins.map .join) = .ok q') ∧
    ∀ path between rest, q.calls (.join path :: between ++ .join path :: rest)
      = q.calls (.join path :: between ++ rest) := by
  have hq : Consistent q := (consistent_fresh entity schema options).calls h
  constructor
  · intro parent child q' hjoin joins hjoins
    obtain ⟨hparent, mid, hfirst, hthen⟩ := hq.join_parent hjoin
    have hagain : q'.join (parent ++ "." ++ child) = .ok q' := hq.join_later hjoin (calls_nil q')
    simp only [List.mem_cons, List.not_mem_nil, or_false] at hjoins
    rcases hjoins with rfl | rfl | rfl | rfl | rfl
    all_goals simp only [List.map_cons, List.map_nil, calls_cons, calls_nil, Query.call, ok_bind,
      hjoin, hagain, hparent, hfirst, hthen]
  · intro path between rest
    rw [Query.calls_append, Query.calls_append]
    cases hrun : q.calls (.join path :: between) with
    | error e => rfl
    | ok last =>
        rw [calls_cons] at hrun
        obtain ⟨mid, hjoin, hbetween⟩ := bind_eq_ok.mp hrun
        rw [ok_bind, ok_bind, calls_cons, Query.call, hq.join_later hjoin hbetween, ok_bind]

theorem joins_absorbed_blog :
    ∃ q q', blogQuery.calls [.join "role", .skip 5] = .ok q ∧ q.join "posts.category" = .ok q' ∧
      q.calls [.join "posts", .join "posts.category", .join "posts"] = .ok q' ∧
      q.calls [.join "posts", .orderByField "name" .ascending, .join "posts", .limit 1]
        = q.calls [.join "posts", .orderByField "name" .ascending, .limit 1] := by
  obtain ⟨q, hq⟩ : ∃ q, blogQuery.calls [.join "role", .skip 5] = .ok q := ⟨_, rfl⟩
  obtain ⟨hnested, hlater⟩ := joins_absorbed hq
  obtain ⟨q', hjoin⟩ : ∃ q', q.join "posts.category" = .ok q' := by
    obtain rfl := Except.ok.inj hq
    exact ⟨_, rfl⟩
  refine ⟨q, q', hq, hjoin, ?_, hlater "posts" [.orderByField "name" .ascending] [.limit 1]⟩
  exact hnested "posts" "category" q' hjoin ["posts", "posts.category", "posts"] (by simp)

end DocQuery.Join
