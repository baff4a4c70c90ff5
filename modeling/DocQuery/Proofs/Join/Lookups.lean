import DocQuery.Proofs.Join.History
import Mathlib.Data.List.Nodup

/-!
# Every reference is looked up once

The joined paths of a query are the local fields of its lookups, in this order, and none of them
comes twice (`InStep`). A call that is no join adds no lookup. A join adds those of its route that
are new, which are just the paths that it marks as joined (`localFields_route`). A child is looked
up behind its parent, and the two stages behind that lookup merge and drop what it found
(`LooksUpNested`); no later call can change that, as none of these stages is a sort.
-/

namespace DocQuery.Join

open DocQuery.Path

variable {schema : Schema} {entity path : String} {route : Route} {q q' : Query}

/-! ## Lookups of a pipeline -/

/-- The field whose values a stage looks up. -/
def localField? : Stage → Option String
  | .lookup join => some join.localField
  | _ => none

/-- The fields whose values are looked up, in order. -/
def localFields (stages : Pipeline) : List String := stages.filterMap localField?

@[simp] theorem localFields_append (stages added : Pipeline) :
    localFields (stages ++ added) = localFields stages ++ localFields added :=
  List.filterMap_append

theorem localFields_pushSort (stages : Pipeline) (keys : FieldMap Direction) :
    localFields (Query.pushSort stages keys) = localFields stages := by
  induction stages with
  | nil => rfl
  | cons first rest ih =>
      cases rest with
      | nil => cases first <;> rfl
      | cons second rest =>
          have hcons (stages : Pipeline) :
              localFields (first :: stages) = localFields [first] ++ localFields stages :=
            localFields_append [first] stages
          rw [Query.pushSort_cons keys first (List.cons_ne_nil second rest), hcons, ih, ← hcons]

theorem localFields_directStages (schema : Schema) (field : String) (r : Relationship) :
    localFields (directStages schema field r) = [field] := by
  rw [directStages]
  cases r.cardinality <;> rfl

theorem localFields_nestedStages (schema : Schema) (parent child : String) (r t : Relationship) :
    localFields (nestedStages schema parent r child t) = [parent ++ "." ++ child] := rfl

/-- A new route looks up what it joins. -/
theorem localFields_route (hroute : Route.Of schema entity path route) {joined : List String}
    (hnew : path ∉ joined) :
    localFields (route.stages schema (joined.contains route.parent))
      = (route.marks path).filter fun name => !joined.contains name := by
  cases hroute with
  | @one parent r hpath hr =>
      obtain rfl := eq_of_parse_singleton hpath
      simp [Route.stages, Route.marks, hnew, localFields_directStages]
  | @two parent child r t hpath hr ht =>
      rw [Route.stages, localFields_append, localFields_nestedStages, ← eq_of_parse_pair hpath]
      by_cases hknown : parent ∈ joined
      · simp [Route.marks, hnew, hknown, localFields]
      · simp [Route.marks, hnew, hknown, localFields_directStages]

/-! ## Lookups of children -/

/-- A child is looked up behind its parent, and what is found is then merged into the parent and
dropped. -/
def LooksUpNested (stages : Pipeline) (parent child : String) : Prop :=
  ∃ before between after first second merged,
    stages = before ++ .lookup first :: (between ++ .lookup second :: .set [(parent, merged)]
      :: .unset second.into :: after) ∧
    first.localField = parent ∧ second.localField = parent ++ "." ++ child

theorem nestedStages_shape (schema : Schema) (parent child : String) (r t : Relationship) :
    ∃ second merged, nestedStages schema parent r child t
        = [.lookup second, .set [(parent, merged)], .unset second.into] ∧
      second.localField = parent ++ "." ++ child :=
  ⟨_, _, rfl, rfl⟩

theorem looksUpNested_nestedStages {stages : Pipeline} {parent : String}
    (hparent : parent ∈ localFields stages) (schema : Schema) (child : String)
    (r t : Relationship) :
    LooksUpNested (stages ++ nestedStages schema parent r child t) parent child := by
  obtain ⟨second, merged, hnested, hchild⟩ := nestedStages_shape schema parent child r t
  obtain ⟨stage, hstage, hfield⟩ := List.mem_filterMap.mp hparent
  cases stage with
  | lookup first =>
      obtain ⟨before, between, rfl⟩ := List.append_of_mem hstage
      refine ⟨before, between, [], first, second, merged, ?_, Option.some.inj hfield, hchild⟩
      rw [hnested, List.append_assoc, List.cons_append]
  | _ => cases hfield

/-- The stages of a new route look its parent up, if that has not been done before. -/
theorem looksUpNested_route {parent child : String}
    (hroute : Route.Of schema entity (parent ++ "." ++ child) route) (stages : Pipeline) :
    LooksUpNested (stages ++ route.stages schema ((localFields stages).contains route.parent))
      parent child := by
  obtain ⟨r, t, rfl, -, -⟩ := hroute.eq_two
  rw [Route.stages, ← List.append_assoc]
  refine looksUpNested_nestedStages ?_ schema child r t
  by_cases hknown : parent ∈ localFields stages
  · exact localFields_append .. ▸ List.mem_append_left _ hknown
  · simp [hknown, localFields_directStages]

/-- What is looked up for a child stays as it is. -/
theorem LooksUpNested.call {parent child : String} (h : LooksUpNested q.stages parent child)
    {c : Call} (hcall : q.call c = .ok q') : LooksUpNested q'.stages parent child := by
  obtain ⟨before, between, after, first, second, merged, hstages, hfields⟩ := h
  have hsplit : q.stages = (before ++ .lookup first :: (between ++ [.lookup second,
      .set [(parent, merged)]])) ++ .unset second.into :: after := by
    rw [hstages]
    simp
  obtain ⟨after', hstages'⟩ := Query.stages_of_call hcall (by simp) hsplit
  refine ⟨before, between, after', first, second, merged, ?_, hfields⟩
  rw [hstages']
  simp

/-! ## Calls -/

/-- The lookups of a query are in step with what it has joined. -/
structure InStep (q : Query) : Prop where
  consistent : Consistent q
  distinct : q.joined.Nodup
  lookups : localFields q.stages = q.joined
  nested : ∀ parent child, parent ++ "." ++ child ∈ q.joined → LooksUpNested q.stages parent child

theorem inStep_fresh (entity : String) (schema : Schema) (options : Options) :
    InStep { entity, schema, options } := by
  refine ⟨consistent_fresh entity schema options, List.nodup_nil, rfl, fun parent child hmem => ?_⟩
  cases hmem

theorem localFields_of_call {c : Call} (hc : c.path? = none) (h : q.call c = .ok q') :
    localFields q'.stages = localFields q.stages := by
  cases Query.step_of_call h with
  | join => cases hc
  | filter => simp [Query.push, localFields, localField?]
  | addFields => simp [Query.push, localFields, localField?]
  | sort _ keys => exact localFields_pushSort q.stages keys
  | aside => rfl

theorem InStep.along (hq : InStep q)
    (hroute : follow q.schema q.entity path q.options.maxJoinDepth = .ok route) :
    InStep (along q path route) := by
  have hmarks := (follow_eq_ok.mp hroute).1
  by_cases hknown : path ∈ q.joined
  · rw [along_of_known (List.contains_iff_mem.mpr hknown)]
    exact hq
  · have hnew : q.joined.contains path = false := by simpa using hknown
    refine ⟨hq.consistent.along hroute, ?_, ?_, fun parent child hmem => ?_⟩
    · rw [along_of_new hnew]
      refine List.nodup_append.mpr ⟨hq.distinct, hmarks.nodup_marks.filter _, ?_⟩
      rintro name hold _ hfresh rfl
      simp [hold] at hfresh
    · rw [along_of_new hnew, localFields_append, hq.lookups, localFields_route hmarks hknown]
    · rcases (hq.consistent.mem_joined_along hroute).mp hmem with hold | hmark
      · have hjoin : q.call (.join path) = .ok (Join.along q path route) :=
          hq.consistent.join_of_follow hroute
        exact (hq.nested parent child hold).call hjoin
      · obtain rfl := hmarks.eq_of_dotted hmark
        rw [along_of_new hnew, ← hq.lookups]
        exact looksUpNested_route hmarks q.stages

theorem InStep.call (hq : InStep q) {c : Call} (h : q.call c = .ok q') : InStep q' := by
  cases hc : c.path? with
  | none =>
      have hjoined := Query.joined_of_call hc h
      refine ⟨hq.consistent.call h, hjoined ▸ hq.distinct, ?_, fun parent child hmem => ?_⟩
      · rw [localFields_of_call hc h, hq.lookups, hjoined]
      · exact (hq.nested parent child (hjoined ▸ hmem)).call h
  | some path =>
      obtain rfl := Call.eq_join hc
      obtain ⟨route, hroute, rfl⟩ := hq.consistent.join_eq_ok h
      exact hq.along hroute

/-- **Every reference is looked up once.** Behind any accepted calls there is one lookup for each
path that was joined, by itself or as a parent, and no other one. With a nested path its parent was
joined, and is looked up before it; the lookup of the nested path is followed by the stage that sets
the parent and the one that drops what was looked up. -/
theorem looked_up_once {entity : String} {schema : Schema} {options : Options} {history : List Call}
    {q : Query} (h : ({ entity, schema, options } : Query).calls history = .ok q) :
    (∀ path, (JoinedBy history path → (localFields q.stages).count path = 1) ∧
      (¬ JoinedBy history path → (localFields q.stages).count path = 0)) ∧
    ∀ parent child, JoinedBy history (parent ++ "." ++ child) →
      JoinedBy history parent ∧ LooksUpNested q.stages parent child := by
  have hq : InStep q := Query.calls_induct (fun _ _ _ hmid hcall => hmid.call hcall) h
    (inStep_fresh entity schema options)
  have hjoined (path : String) : path ∈ q.joined ↔ JoinedBy history path := by
    simpa using (consistent_fresh entity schema options).mem_joined_of_calls h
  refine ⟨fun path => ⟨fun hpath => ?_, fun hpath => ?_⟩, fun parent child hchild => ⟨?_, ?_⟩⟩
  · rw [hq.lookups]
    exact List.count_eq_one_of_mem hq.distinct ((hjoined path).mpr hpath)
  · rw [hq.lookups]
    exact List.count_eq_zero_of_not_mem (mt (hjoined path).mp hpath)
  · obtain ⟨route, hroute, hmarks⟩ := hq.consistent _ ((hjoined _).mpr hchild)
    refine (hjoined parent).mp (hmarks ?_)
    exact (follow_eq_ok.mp hroute).1.mem_marks_iff.mpr (.inr ⟨child, rfl⟩)
  · exact hq.nested parent child ((hjoined _).mpr hchild)

theorem looked_up_once_blog :
    ∃ q, blogQuery.calls blogCalls = .ok q ∧ (localFields q.stages).count "posts" = 1 ∧
      (localFields q.stages).count "posts.category" = 1 ∧ (localFields q.stages).count "role" = 1 ∧
      LooksUpNested q.stages "posts" "category" := by
  obtain ⟨q, hq⟩ : ∃ q, blogQuery.calls blogCalls = .ok q := ⟨_, rfl⟩
  obtain ⟨honce, hnested⟩ := looked_up_once hq
  have hcategory : JoinedBy blogCalls ("posts" ++ "." ++ "category") := .inl (by simp [blogCalls])
  exact ⟨q, hq, (honce "posts").1 (.inl (by simp [blogCalls])),
    (honce "posts.category").1 hcategory, (honce "role").1 (.inl (by simp [blogCalls])),
    (hnested "posts" "category" hcategory).2⟩

end DocQuery.Join
