import DocQuery.Proofs.Join.Rows
import DocQuery.Proofs.Value.KeyOrder

/-!
# What a join changes in a document

Where identities tell documents apart, a reference to one document finds at most one, so a join
makes one row of every document (`joinParent_eq_singleton`) and changes one field of it. What it
makes of the field depends on that field alone (`Route.get?_row_self`). Routes with different
parents therefore change a document in the same way in either order (`sortKeys_rows`), and so do two
children in the documents under their parent (`sortKeys_joinHeld`). All that the order decides is
where a key comes to stand that was not there before.
-/

namespace DocQuery.Join

open DocQuery.Path

variable {schema : Schema} {s : Store}

/-! ## One row for each document -/

/-- No two documents that may be referred to have identities that the store takes for the same. -/
def DistinctIdentities (schema : Schema) (s : Store) : Prop :=
  ∀ entity field r, schema.resolve entity field = .relationship r →
    (s.documents (schema.collectionOf r.target)).Pairwise fun first second =>
      ∀ id other, resolve (parse (schema.identityOf r.target)) first = some id →
        resolve (parse (schema.identityOf r.target)) second = some other → id.same other = false

/-- What stands for the documents that a reference names. -/
def resolved (schema : Schema) (s : Store) (r : Relationship) (reference : Option Value) :
    Option Value :=
  foundValue r.cardinality
    ((s.documents (schema.collectionOf r.target)).filter (pointsTo schema r reference))

/-- The document with a reference resolved. -/
def parentRow (schema : Schema) (s : Store) (r : Relationship) (field : String) (doc : Document) :
    Document :=
  doc.put field (resolved schema s r (doc.get? field))

theorem same_of_pointsTo {r : Relationship} (hone : r.cardinality = .one) {reference : Option Value}
    {first second : Value} (hfirst : pointsTo schema r reference first = true)
    (hsecond : pointsTo schema r reference second = true) :
    ∃ id other, resolve (parse (schema.identityOf r.target)) first = some id ∧
      resolve (parse (schema.identityOf r.target)) second = some other ∧ id.same other = true := by
  simp only [pointsTo, hone, Option.any_eq_true] at hfirst hsecond
  obtain ⟨id, hid, hnames⟩ := hfirst
  obtain ⟨other, hother, hnames'⟩ := hsecond
  cases reference with
  | none => cases hnames
  | some reference => exact ⟨id, other, hid, hother, Value.same_of_same hnames hnames'⟩

theorem joinParent_eq_singleton (hids : DistinctIdentities schema s) {entity field : String}
    {r : Relationship} (hr : schema.resolve entity field = .relationship r) (doc : Document) :
    joinParent schema s r field doc = [parentRow schema s r field doc] := by
  unfold joinParent parentRow resolved
  cases hcard : r.cardinality with
  | many => rfl
  | one =>
      have hpairs := (hids entity field r hr).filter (pointsTo schema r (doc.get? field))
      rw [← referred] at hpairs ⊢
      cases hfound : referred schema s r field doc with
      | nil => rfl
      | cons first rest =>
          cases rest with
          | nil => rfl
          | cons second rest =>
              have hnames (found : Value) (hmem : found ∈ referred schema s r field doc) :
                  pointsTo schema r (doc.get? field) found = true := (List.mem_filter.mp hmem).2
              obtain ⟨id, other, hid, hother, hsame⟩ := same_of_pointsTo hcard
                (hnames first (by simp [hfound])) (hnames second (by simp [hfound]))
              rw [hfound] at hpairs
              have hne :=
                List.rel_of_pairwise_cons hpairs (List.mem_cons_self ..) id other hid hother
              rw [hsame] at hne
              cases hne

theorem get?_parentRow_self {doc : Document} (hdoc : doc.DistinctKeys) (r : Relationship)
    (field : String) :
    (parentRow schema s r field doc).get? field = resolved schema s r (doc.get? field) :=
  FieldMap.get?_put_self hdoc field _

theorem get?_parentRow_of_ne (r : Relationship) {field other : String} (hne : field ≠ other)
    (doc : Document) : (parentRow schema s r field doc).get? other = doc.get? other :=
  FieldMap.get?_put_of_ne doc hne _

theorem distinctKeys_parentRow {doc : Document} (hdoc : doc.DistinctKeys) (r : Relationship)
    (field : String) : (parentRow schema s r field doc).DistinctKeys :=
  hdoc.put field _

/-! ## Changes under the parent -/

section Under

variable {t : Relationship} {parent child : String}

theorem get?_joinUnder_self {row : Document} (hrow : row.DistinctKeys) :
    (joinUnder schema s t parent child row).get? parent
      = (row.get? parent).map (joinHeld schema s t child) := by
  rw [joinUnder_eq_put, FieldMap.get?_put_self hrow]

theorem get?_joinUnder_of_ne {other : String} (hne : parent ≠ other) (row : Document) :
    (joinUnder schema s t parent child row).get? other = row.get? other := by
  rw [joinUnder_eq_put, FieldMap.get?_put_of_ne row hne]

theorem distinctKeys_joinUnder {row : Document} (hrow : row.DistinctKeys) :
    (joinUnder schema s t parent child row).DistinctKeys := by
  rw [joinUnder_eq_put]
  exact hrow.put parent _

theorem get?_joinChild_self (fields : Document) :
    (joinChild schema s t child fields).get? child
      = (resolved schema s t (fields.get? child)).or (fields.get? child) := by
  rw [joinChild, putFound, resolved, ← referred]
  cases foundValue t.cardinality (referred schema s t child fields) with
  | none => rfl
  | some v => exact FieldMap.get?_insert_self fields child v

theorem get?_joinChild_of_ne {other : String} (hne : child ≠ other) (fields : Document) :
    (joinChild schema s t child fields).get? other = fields.get? other := by
  rw [joinChild, putFound]
  split
  · exact FieldMap.get?_insert_of_ne fields hne _
  · rfl

theorem distinctKeys_joinChild {fields : Document} (hfields : fields.DistinctKeys) :
    (joinChild schema s t child fields).DistinctKeys := by
  rw [joinChild, putFound]
  split
  · exact hfields.insert _ _
  · exact hfields

end Under

/-! ## Two children -/

section Children

variable {r t u : Relationship} {child other : String}

theorem refers_joinChild (hne : child ≠ other) {item : Value} (h : Refers u other item) :
    Refers u other (item.mapFields (joinChild schema s t child)) := by
  obtain ⟨fields, rfl, hfields, hshape⟩ := h
  refine ⟨_, rfl, distinctKeys_joinChild hfields, ?_⟩
  rw [get?_joinChild_of_ne hne]
  exact hshape

theorem joinHeld_of_refers {item : Value} (h : Refers u other item) :
    joinHeld schema s t child item = item.mapFields (joinChild schema s t child) := by
  obtain ⟨fields, rfl, -⟩ := h
  rfl

/-- What may be joined under one child may still be when another child is joined. -/
theorem joinable_joinHeld (hne : child ≠ other) {held : Option Value}
    (h : Joinable r u other held) :
    Joinable r u other (held.map (joinHeld schema s t child)) := by
  unfold Joinable at h ⊢
  cases hcard : r.cardinality with
  | one =>
      simp only [hcard] at h ⊢
      rcases h with rfl | ⟨item, rfl, hitem⟩
      · exact .inl rfl
      · refine .inr ⟨_, rfl, ?_⟩
        rw [joinHeld_of_refers hitem]
        exact refers_joinChild hne hitem
  | many =>
      simp only [hcard] at h ⊢
      obtain ⟨items, rfl, hitems⟩ := h
      refine ⟨_, rfl, fun item hmem => ?_⟩
      obtain ⟨before, hbefore, rfl⟩ := List.mem_map.mp hmem
      exact refers_joinChild hne (hitems before hbefore)

theorem sortKeys_joinChild (schema : Schema) (s : Store) (t : Relationship) (hne : child ≠ other)
    {item : Value} (h : Refers u other item) :
    ((item.mapFields (joinChild schema s t child)).mapFields (joinChild schema s u other)).sortKeys
      = ((item.mapFields (joinChild schema s u other)).mapFields
          (joinChild schema s t child)).sortKeys := by
  obtain ⟨fields, rfl, hfields, -⟩ := h
  refine Value.sortKeys_object (distinctKeys_joinChild (distinctKeys_joinChild hfields))
    (distinctKeys_joinChild (distinctKeys_joinChild hfields)) fun key => congrArg _ ?_
  by_cases hchild : child = key
  · subst hchild
    rw [get?_joinChild_of_ne hne.symm, get?_joinChild_self, get?_joinChild_self,
      get?_joinChild_of_ne hne.symm]
  · by_cases hother : other = key
    · subst hother
      rw [get?_joinChild_self, get?_joinChild_of_ne hne, get?_joinChild_of_ne hne,
        get?_joinChild_self]
    · rw [get?_joinChild_of_ne hother, get?_joinChild_of_ne hchild, get?_joinChild_of_ne hchild,
        get?_joinChild_of_ne hother]

/-- Two children are joined under their parent in either order. -/
theorem sortKeys_joinHeld (hne : child ≠ other) {held : Option Value}
    (h : Joinable r u other held) :
    ((held.map (joinHeld schema s t child)).map (joinHeld schema s u other)).map Value.sortKeys
      = ((held.map (joinHeld schema s u other)).map (joinHeld schema s t child)).map
          Value.sortKeys := by
  unfold Joinable at h
  cases hcard : r.cardinality with
  | one =>
      simp only [hcard] at h
      rcases h with rfl | ⟨item, rfl, hitem⟩
      · rfl
      · have hswap := sortKeys_joinChild schema s t hne hitem
        obtain ⟨fields, rfl, -⟩ := hitem
        exact congrArg some hswap
  | many =>
      simp only [hcard] at h
      obtain ⟨items, rfl, hitems⟩ := h
      refine congrArg some (Value.sortKeys_array ?_)
      rw [List.map_map, List.map_map, List.map_map, List.map_map]
      exact List.map_congr_left fun item hmem =>
        sortKeys_joinChild schema s t hne (hitems item hmem)

end Children

/-! ## The row of a document -/

/-- The row of a document behind the stages of a route. -/
def Route.row (schema : Schema) (s : Store) (route : Route) (doc : Document) : Document :=
  let parents := parentRow schema s route.first route.parent doc
  match route.next with
  | none => parents
  | some (child, t) => joinUnder schema s t route.parent child parents

/-- What a route makes of the reference under its parent. -/
def Route.held (schema : Schema) (s : Store) (route : Route) (reference : Option Value) :
    Option Value :=
  let found := resolved schema s route.first reference
  match route.next with
  | none => found
  | some (child, t) => found.map (joinHeld schema s t child)

/-- What the stages of a route ask of a document. -/
structure Route.Fits (route : Route) (doc : Document) : Prop where
  distinct : doc.DistinctKeys
  shaped : WellShaped route.first.cardinality (doc.get? route.parent)
  no_temp : ∀ child t, route.next = some (child, t) →
    doc.get? (tempField route.parent child) = none

section Row

variable {route : Route} {doc : Document}

theorem Route.get?_row_self (hdoc : doc.DistinctKeys) :
    (route.row schema s doc).get? route.parent = route.held schema s (doc.get? route.parent) := by
  obtain ⟨parent, r, next⟩ := route
  cases next with
  | none => exact get?_parentRow_self hdoc r parent
  | some next =>
      show (joinUnder schema s next.2 parent next.1
        (parentRow schema s r parent doc)).get? parent = _
      rw [get?_joinUnder_self (distinctKeys_parentRow hdoc r parent), get?_parentRow_self hdoc]
      rfl

theorem Route.get?_row_of_ne {key : String} (hne : route.parent ≠ key) :
    (route.row schema s doc).get? key = doc.get? key := by
  obtain ⟨parent, r, next⟩ := route
  cases next with
  | none => exact get?_parentRow_of_ne r hne doc
  | some next =>
      show (joinUnder schema s next.2 parent next.1 (parentRow schema s r parent doc)).get? key = _
      rw [get?_joinUnder_of_ne hne, get?_parentRow_of_ne r hne]

theorem Route.distinctKeys_row (hdoc : doc.DistinctKeys) :
    (route.row schema s doc).DistinctKeys := by
  obtain ⟨parent, r, next⟩ := route
  have hparents : (parentRow schema s r parent doc).DistinctKeys :=
    distinctKeys_parentRow hdoc r parent
  cases next with
  | none => exact hparents
  | some next => exact distinctKeys_joinUnder hparents

theorem Route.Fits.row {other : Route} (h : other.Fits doc) (hne : route.parent ≠ other.parent)
    (htemp : ∀ child t, other.next = some (child, t) →
      route.parent ≠ tempField other.parent child) :
    other.Fits (route.row schema s doc) := by
  refine ⟨Route.distinctKeys_row h.distinct, ?_, fun child t hnext => ?_⟩
  · rw [Route.get?_row_of_ne hne]
    exact h.shaped
  · rw [Route.get?_row_of_ne (htemp child t hnext)]
    exact h.no_temp child t hnext

/-- Routes with different parents change different fields. -/
theorem sortKeys_rows {other : Route} (hne : route.parent ≠ other.parent)
    (hdoc : doc.DistinctKeys) :
    (Value.object (other.row schema s (route.row schema s doc))).sortKeys
      = (Value.object (route.row schema s (other.row schema s doc))).sortKeys := by
  refine Value.sortKeys_object (Route.distinctKeys_row (Route.distinctKeys_row hdoc))
    (Route.distinctKeys_row (Route.distinctKeys_row hdoc)) fun key => congrArg _ ?_
  by_cases hroute : route.parent = key
  · subst hroute
    rw [Route.get?_row_of_ne hne.symm, Route.get?_row_self hdoc,
      Route.get?_row_self (Route.distinctKeys_row hdoc), Route.get?_row_of_ne hne.symm]
  · by_cases hother : other.parent = key
    · subst hother
      rw [Route.get?_row_self (Route.distinctKeys_row hdoc), Route.get?_row_of_ne hne,
        Route.get?_row_of_ne hne, Route.get?_row_self hdoc]
    · rw [Route.get?_row_of_ne hother, Route.get?_row_of_ne hroute, Route.get?_row_of_ne hroute,
        Route.get?_row_of_ne hother]

end Row

/-! ## Stages of a route -/

/-- The names of a nested path are read as names. -/
def PlainPath (path : String) : Prop :=
  ∀ parent child, parse path = [parent, child] →
    startsWithDollar parent = false ∧ startsWithDollar child = false

section Stages

variable {entity path : String} {route : Route} {docs : List Document}
  (hs : s.WellFormed) (hc : Conforms schema s) (hids : DistinctIdentities schema s)

include hs hc hids

theorem joinable_parentRow {parent child : String} {r t : Relationship}
    (hr : schema.resolve entity parent = .relationship r)
    (ht : schema.resolve r.target child = .relationship t) {doc : Document}
    (hdoc : doc.DistinctKeys) :
    Joinable r t child ((parentRow schema s r parent doc).get? parent) := by
  have hmem : parentRow schema s r parent doc ∈ joinParent schema s r parent doc := by
    rw [joinParent_eq_singleton hids hr]
    exact List.mem_singleton_self _
  exact (holdsParents_joinParent hdoc hmem).joinable hs hc ht

theorem Route.apply_fresh [Filter.Engine] (hroute : Route.Of schema entity path route)
    (hplain : PlainPath path) (hdocs : ∀ doc ∈ docs, route.Fits doc) :
    s.apply (route.stages schema false) (docs.map Value.object)
      = .ok ((docs.map (route.row schema s)).map Value.object) := by
  have hparent := hroute.undotted_parent
  have hr := hroute.resolve_parent
  have hdirect : s.apply (directStages schema route.parent route.first) (docs.map Value.object)
      = .ok ((docs.map (parentRow schema s route.first route.parent)).map Value.object) := by
    rw [apply_directStages hparent (hc.identities entity _ _ hr)
        fun doc hdoc => (hdocs doc hdoc).shaped,
      List.map_eq_flatMap (f := parentRow schema s route.first route.parent)]
    refine congrArg (fun rows => Except.ok (List.map Value.object rows)) ?_
    exact List.flatMap_congr fun doc _ => joinParent_eq_singleton hids hr doc
  cases hroute with
  | one hpath _ =>
      rw [Route.stages, List.append_nil]
      exact hdirect
  | @two parent child r t hpath _ ht =>
      obtain ⟨hparent', hchild'⟩ := hplain parent child hpath
      have hrows : ∀ row ∈ docs.map (parentRow schema s r parent),
          Joinable r t child (row.get? parent) ∧ row.get? (tempField parent child) = none := by
        intro row hrow
        obtain ⟨doc, hdoc, rfl⟩ := List.mem_map.mp hrow
        refine ⟨joinable_parentRow hs hc hids hr ht (hdocs doc hdoc).distinct, ?_⟩
        rw [get?_parentRow_of_ne r (tempField_ne parent child).symm]
        exact (hdocs doc hdoc).no_temp child t rfl
      have hnested := apply_nestedStages_joinable hparent hparent' (undotted_second hpath) hchild'
        (hc.identities r.target child t ht) hrows
      have hrow : (docs.map (parentRow schema s r parent)).map (joinUnder schema s t parent child)
          = docs.map (Route.row schema s ⟨parent, r, some (child, t)⟩) := List.map_map ..
      rw [hrow] at hnested
      rw [Route.stages, Store.apply_append]
      exact (congrArg (· >>= _) hdirect).trans hnested

end Stages

end DocQuery.Join
