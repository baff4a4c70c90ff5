import DocQuery.Filter.RegexEngine
import DocQuery.Query.Run
import DocQuery.Proofs.Join.Merge
import DocQuery.Proofs.Join.Routes

/-!
# Joins give the rows of nested loops

The stages of a join, run on documents that conform to the schema, give the rows of `joinRows`. What
has to be known between the stages is small: once a parent is joined, its field holds documents of
the target or nothing at all (`HoldsParents`), and then a child may be joined under it (`Joinable`).
The merging expression has the value that `joinUnder` puts there (`eval_mergeExpression`), and
dropping the temporary field commutes with putting it (`erase_joinUnder`), as long as the field was
not there before.
-/

namespace DocQuery.Join

open DocQuery.Path

variable {schema : Schema} {s : Store}

/-! ## Between the stages -/

/-- What a joined field holds: a document of the target or nothing, or a list of them. -/
def HoldsParents (schema : Schema) (s : Store) (r : Relationship) (held : Option Value) : Prop :=
  match r.cardinality with
  | .one => held = none ∨ ∃ doc ∈ s.documents (schema.collectionOf r.target), held = some doc
  | .many => ∃ items, held = some (.array items) ∧
      ∀ item ∈ items, item ∈ s.documents (schema.collectionOf r.target)

/-- What a nested join asks of the field of the parent. -/
def Joinable (r t : Relationship) (child : String) (held : Option Value) : Prop :=
  match r.cardinality with
  | .one => held = none ∨ ∃ item, held = some item ∧ Refers t child item
  | .many => ∃ items, held = some (.array items) ∧ ∀ item ∈ items, Refers t child item

theorem refers_of_mem (hs : s.WellFormed) (hc : Conforms schema s) {r t : Relationship}
    {child : String} (hresolve : schema.resolve r.target child = .relationship t) {item : Value}
    (hmem : item ∈ s.documents (schema.collectionOf r.target)) : Refers t child item := by
  obtain ⟨fields, rfl, hfields⟩ := (hs.isDocument hmem).eq_object
  exact ⟨fields, rfl, hfields, hc.references r.target _ hmem fields rfl child t hresolve⟩

theorem HoldsParents.joinable (hs : s.WellFormed) (hc : Conforms schema s) {r t : Relationship}
    {child : String} (hresolve : schema.resolve r.target child = .relationship t)
    {held : Option Value} (h : HoldsParents schema s r held) : Joinable r t child held := by
  unfold HoldsParents at h
  unfold Joinable
  cases hcard : r.cardinality with
  | one =>
      simp only [hcard] at h ⊢
      rcases h with hmissing | ⟨item, hmem, hheld⟩
      · exact .inl hmissing
      · exact .inr ⟨item, hheld, refers_of_mem hs hc hresolve hmem⟩
  | many =>
      simp only [hcard] at h ⊢
      obtain ⟨items, hheld, hitems⟩ := h
      exact ⟨items, hheld, fun item hitem => refers_of_mem hs hc hresolve (hitems item hitem)⟩

theorem mem_of_mem_referred {r : Relationship} {field : String} {doc : Document} {found : Value}
    (h : found ∈ referred schema s r field doc) :
    found ∈ s.documents (schema.collectionOf r.target) :=
  List.mem_of_mem_filter h

theorem holdsParents_joinParent {r : Relationship} {field : String} {doc row : Document}
    (hdoc : doc.DistinctKeys) (h : row ∈ joinParent schema s r field doc) :
    HoldsParents schema s r (row.get? field) := by
  unfold joinParent at h
  unfold HoldsParents
  cases hcard : r.cardinality with
  | one =>
      simp only [hcard] at h ⊢
      split at h
      · obtain rfl := List.mem_singleton.mp h
        exact .inl (FieldMap.get?_erase_self hdoc field)
      · obtain ⟨found, hfound, rfl⟩ := List.mem_map.mp h
        exact .inr ⟨found, mem_of_mem_referred hfound, FieldMap.get?_insert_self ..⟩
  | many =>
      simp only [hcard] at h ⊢
      obtain rfl := List.mem_singleton.mp h
      exact ⟨_, FieldMap.get?_insert_self .., fun item hitem => mem_of_mem_referred hitem⟩

/-- Joining the parent leaves the other fields alone. -/
theorem get?_joinParent_of_ne {r : Relationship} {field other : String} (hne : field ≠ other)
    {doc row : Document} (h : row ∈ joinParent schema s r field doc) :
    row.get? other = doc.get? other := by
  unfold joinParent at h
  split at h
  · split at h
    · obtain rfl := List.mem_singleton.mp h
      exact FieldMap.get?_erase_of_ne doc hne
    · obtain ⟨found, -, rfl⟩ := List.mem_map.mp h
      exact FieldMap.get?_insert_of_ne doc hne found
  · obtain rfl := List.mem_singleton.mp h
    exact FieldMap.get?_insert_of_ne doc hne _

/-- Dropping a new field commutes with joining under another one. -/
theorem erase_joinUnder (schema : Schema) (s : Store) (t : Relationship) (child : String)
    {parent temp : String} (hne : parent ≠ temp) {row : Document} (htemp : row.get? temp = none)
    (x : Value) :
    (joinUnder schema s t parent child (row.insert temp x)).erase temp
      = joinUnder schema s t parent child row := by
  have hback : (row.insert temp x).erase temp = row := by
    rw [FieldMap.erase_insert, FieldMap.erase_of_get?_eq_none htemp]
  unfold joinUnder
  rw [FieldMap.get?_insert_of_ne row hne.symm]
  split
  · rw [FieldMap.erase_insert_of_ne _ hne, hback]
  · rw [FieldMap.erase_insert_of_ne _ hne, hback]
  · exact hback

/-! ## The stages of the child -/

section Child

variable {r t : Relationship} {parent child : String} {row : Document}

/-- The expression that merges the children into the parent or the parents. -/
def mergeExpression (schema : Schema) (parent : String) (r : Relationship) (child : String)
    (t : Relationship) : Value :=
  match r.cardinality with
  | .many =>
    mergeIntoItems parent child t.cardinality (tempField parent child) (schema.identityOf t.target)
  | .one => mergeIntoObject parent child t.cardinality (tempField parent child)

/-- The lookup of the children. -/
def childLookup (schema : Schema) (parent child : String) (t : Relationship) : Lookup :=
  ⟨schema.collectionOf t.target, parent ++ "." ++ child, schema.identityOf t.target,
    tempField parent child⟩

theorem nestedStages_eq : nestedStages schema parent r child t
    = [.lookup (childLookup schema parent child t),
        .set [(parent, mergeExpression schema parent r child t)],
        .unset (tempField parent child)] := rfl

/-- A row with its children in the temporary field. -/
def withChildren (schema : Schema) (s : Store) (parent child : String) (t : Relationship)
    (row : Document) : Document :=
  row.insert (tempField parent child)
    (.array (s.joined (childLookup schema parent child t) (.object row)))

theorem get?_withChildren_temp :
    (withChildren schema s parent child t row).get? (tempField parent child)
    = some (.array (s.joined (childLookup schema parent child t) (.object row))) :=
  FieldMap.get?_insert_self ..

theorem get?_withChildren_parent (schema : Schema) (s : Store) (parent child : String)
    (t : Relationship) (row : Document) :
    (withChildren schema s parent child t row).get? parent = row.get? parent :=
  FieldMap.get?_insert_of_ne row (tempField_ne parent child) _

/-- What the stages of a nested reference make of one row. -/
def nestedRow (schema : Schema) (s : Store) (parent : String) (r : Relationship) (child : String)
    (t : Relationship) (row : Document) : Except StoreError Document :=
  let filled := withChildren schema s parent child t row
  (fun merged => (Store.setField filled (parent, merged)).erase (tempField parent child)) <$>
    Expression.eval { root := .object filled } (mergeExpression schema parent r child t)

theorem setFields_eq (doc : Document) (field : String) (e : Value) :
    Store.setFields [(field, e)] (.object doc)
      = (fun v => .object (Store.setField doc (field, v)))
          <$> Expression.eval { root := .object doc } e := by
  rw [Store.setFields, Store.computed]
  cases Expression.eval { root := .object doc } e with
  | error err => rfl
  | ok v => rfl

theorem apply_nestedStages_rows [Filter.Engine] (hparent : Undotted parent)
    (hchild : Undotted child) (rows : List Document) :
    s.apply (nestedStages schema parent r child t) (rows.map Value.object)
      = List.map Value.object <$> rows.mapM (nestedRow schema s parent r child t) := by
  have htemp := parse_of_undotted (undotted_tempField hparent hchild)
  have hlookup : (rows.map Value.object).map (s.lookup (childLookup schema parent child t))
      = rows.map fun row => .object (withChildren schema s parent child t row) := by
    rw [List.map_map]
    refine List.map_congr_left fun row _ => ?_
    simp only [Function.comp_apply, Store.lookup, Value.mapFields, childLookup, htemp, Path.set,
      withChildren]
  rw [nestedStages_eq, Store.apply_cons, Store.applyStage, hlookup, ok_bind, Store.apply_cons,
    Store.applyStage, List.mapM_map, ← mapM_map_result]
  have hunset : (fun docs => s.apply [.unset (tempField parent child)] docs)
      = fun docs => .ok (docs.map (Value.mapFields (remove [tempField parent child]))) := by
    funext docs
    rw [Store.apply_singleton, Store.applyStage, htemp]
  show (_ >>= fun docs => s.apply [.unset (tempField parent child)] docs) = _
  rw [hunset, bind_ok_eq_map, ← mapM_map_result]
  refine congrArg (fun f => List.mapM f rows) (funext fun row => ?_)
  rw [Function.comp_apply, setFields_eq, nestedRow, Functor.map_map, Functor.map_map]
  rfl

theorem setField_eq_put {field : String} (hfield : Undotted field) (doc : Document)
    (v : Option Value) : Store.setField doc (field, v) = doc.put field v := by
  simp only [Store.setField, parse_of_undotted hfield]
  cases v <;> rfl

/-- Joins the document or the documents of a value further. -/
def joinHeld (schema : Schema) (s : Store) (t : Relationship) (child : String) : Value → Value
  | .object fields => .object (joinChild schema s t child fields)
  | .array items => .array (items.map (Value.mapFields (joinChild schema s t child)))
  | v => v

/-- Joining under a field changes what the field holds. -/
theorem joinUnder_eq_put (row : Document) :
    joinUnder schema s t parent child row
      = row.put parent ((row.get? parent).map (joinHeld schema s t child)) := by
  unfold joinUnder
  split
  · rename_i hget
    rw [hget]
    rfl
  · rename_i hget
    rw [hget]
    rfl
  · rename_i hobject harray
    cases hget : row.get? parent with
    | none => exact (FieldMap.erase_of_get?_eq_none hget).symm
    | some v =>
        have hsame : joinHeld schema s t child v = v := by
          cases v with
          | object fields => exact absurd hget (hobject fields)
          | array items => exact absurd hget (harray items)
          | _ => rfl
        rw [Option.map_some, hsame]
        exact (FieldMap.insert_of_get? hget).symm

variable (hparent : Undotted parent) (hparent' : startsWithDollar parent = false)
  (hchild : Undotted child) (hchild' : startsWithDollar child = false)
  (hids : ∀ foreign ∈ s.documents (schema.collectionOf t.target),
    HasIdentity (schema.identityOf t.target) foreign)

include hparent hparent' hchild hchild' hids

theorem eval_merge_object {fields : Document} (hfields : fields.DistinctKeys)
    (hshape : WellShaped t.cardinality (fields.get? child))
    (hget : row.get? parent = some (.object fields)) :
    Expression.eval { root := .object (withChildren schema s parent child t row) }
        (mergeIntoObject parent child t.cardinality (tempField parent child))
      = .ok (some (.object (joinChild schema s t child fields))) := by
  have hheld := (get?_withChildren_parent schema s parent child t row).trans hget
  have hfound : s.joined (childLookup schema parent child t) (.object row)
      = referred schema s t child fields := joined_object hparent hchild hids hget hshape
  rw [eval_mergeIntoObject_object hparent hchild hparent' hchild' t.cardinality hheld
    get?_withChildren_temp, FieldMap.collect, FieldMap.merge_nil_left hfields, merge_foundValue,
    hfound, joinChild]

theorem eval_merge_items {items : List Value} (hitems : ∀ item ∈ items, Refers t child item)
    (hget : row.get? parent = some (.array items)) :
    Expression.eval { root := .object (withChildren schema s parent child t row) }
        (mergeIntoItems parent child t.cardinality (tempField parent child)
          (schema.identityOf t.target))
      = .ok (some (.array (items.map (Value.mapFields (joinChild schema s t child))))) := by
  have hheld := (get?_withChildren_parent schema s parent child t row).trans hget
  have hfound : ∀ candidate ∈ s.joined (childLookup schema parent child t) (.object row),
      HasIdentity (schema.identityOf t.target) candidate :=
    fun candidate hmem => hids candidate (List.mem_of_mem_filter hmem)
  have heval := eval_mergeIntoItems hparent hchild hparent' hchild' hheld get?_withChildren_temp
    hfound hitems
  -- each parent finds in the temporary field what it refers to
  have hmapped : items.map (Value.mapFields fun fields => putFound t.cardinality child
        ((s.joined (childLookup schema parent child t) (.object row)).filter
          (pointsTo schema t (FieldMap.get? fields child))) fields)
      = items.map (Value.mapFields (joinChild schema s t child)) := by
    refine List.map_congr_left fun item hmem => ?_
    obtain ⟨fields, rfl, -, hshape⟩ := hitems item hmem
    have hfilter : (s.joined (childLookup schema parent child t) (.object row)).filter
          (pointsTo schema t (FieldMap.get? fields child)) = referred schema s t child fields :=
      filter_joined_items hparent hchild hids hget hmem hshape
    rw [Value.mapFields, Value.mapFields, hfilter, joinChild]
  rw [heval, hmapped]

/-- The merging expression joins what the field of the parent holds. -/
theorem eval_mergeExpression (hrow : Joinable r t child (row.get? parent)) :
    Expression.eval { root := .object (withChildren schema s parent child t row) }
        (mergeExpression schema parent r child t)
      = .ok ((row.get? parent).map (joinHeld schema s t child)) := by
  unfold Joinable at hrow
  unfold mergeExpression
  cases hcard : r.cardinality with
  | one =>
      simp only [hcard] at hrow ⊢
      rcases hrow with hmissing | ⟨_, hheld, fields, rfl, hfields, hshape⟩
      · have hnothing := (get?_withChildren_parent schema s parent child t row).trans hmissing
        have hother (fields : Document) : (withChildren schema s parent child t row).get? parent
            ≠ some (.object fields) := by simp [hnothing]
        rw [eval_mergeIntoObject_other hparent hparent' hother, hnothing, hmissing]
        rfl
      · rw [hheld, eval_merge_object hparent hparent' hchild hchild' hids hfields hshape hheld]
        rfl
  | many =>
      simp only [hcard] at hrow ⊢
      obtain ⟨items, hheld, hitems⟩ := hrow
      rw [hheld, eval_merge_items hparent hparent' hchild hchild' hids hitems hheld]
      rfl

theorem nestedRow_eq_joinUnder (hrow : Joinable r t child (row.get? parent))
    (htemp : row.get? (tempField parent child) = none) :
    nestedRow schema s parent r child t row = .ok (joinUnder schema s t parent child row) := by
  have hheld := get?_withChildren_parent schema s parent child t row
  have herase := erase_joinUnder schema s t child (tempField_ne parent child).symm htemp
  simp only [nestedRow]
  rw [eval_mergeExpression hparent hparent' hchild hchild' hids hrow, map_ok,
    setField_eq_put hparent, ← hheld, ← joinUnder_eq_put, withChildren, herase]

/-- The stages of the child join every row under its parent. -/
theorem apply_nestedStages_joinable [Filter.Engine] {rows : List Document}
    (hrows : ∀ row ∈ rows, Joinable r t child (row.get? parent)
      ∧ row.get? (tempField parent child) = none) :
    s.apply (nestedStages schema parent r child t) (rows.map Value.object)
      = .ok ((rows.map (joinUnder schema s t parent child)).map Value.object) := by
  rw [apply_nestedStages_rows hparent hchild, mapM_of_ok fun row hrow =>
      nestedRow_eq_joinUnder hparent hparent' hchild hchild' hids (hrows row hrow).1
        (hrows row hrow).2,
    map_ok]

omit hids in
/-- Behind the stages of the parent the stages of the child may follow. -/
theorem apply_nestedStages [Filter.Engine] (hs : s.WellFormed) (hc : Conforms schema s)
    (hresolve : schema.resolve r.target child = .relationship t) {rows : List Document}
    (hrows : ∀ row ∈ rows, HoldsParents schema s r (row.get? parent)
      ∧ row.get? (tempField parent child) = none) :
    s.apply (nestedStages schema parent r child t) (rows.map Value.object)
      = .ok ((rows.map (joinUnder schema s t parent child)).map Value.object) :=
  apply_nestedStages_joinable hparent hparent' hchild hchild'
    (hc.identities r.target child t hresolve)
    fun row hrow => ⟨(hrows row hrow).1.joinable hs hc hresolve, (hrows row hrow).2⟩

end Child

/-! ## Accepted paths -/

/-- The stages of a fresh query that has accepted a path. -/
theorem stages_of_join {entity path : String} {options : Options} {q : Query}
    (h : ({ entity, schema, options } : Query).join path = .ok q) :
    ∃ parent r, schema.resolve entity parent = .relationship r ∧
      (parse path = [parent] ∧ q.stages = directStages schema parent r ∨
        ∃ child t, parse path = [parent, child] ∧
          schema.resolve r.target child = .relationship t ∧
          q.stages = directStages schema parent r ++ nestedStages schema parent r child t) := by
  obtain ⟨route, hroute, hjoin⟩ := join_of_fresh h
  obtain rfl := Except.ok.inj (h.symm.trans (hjoin _ rfl rfl rfl))
  cases hroute with
  | @one parent r hpath hr => exact ⟨parent, r, hr, .inl ⟨hpath, List.append_nil _⟩⟩
  | @two parent child r t hpath hr ht =>
      exact ⟨parent, r, hr, .inr ⟨child, t, hpath, ht, rfl⟩⟩

/-! ## The rows of a join -/

/-- **A join gives the rows of nested loops.** Let the store conform to the schema, let a fresh
query accept the path, and let base documents refer as the entity does. If the path has two names,
let neither of them start with a dollar sign, and let no base document have the temporary field.
Then the stages of the join succeed, and their rows are the rows of `joinRows`, document by
document, key order included. -/
theorem join_gives_joinRows [Filter.Engine] (hs : s.WellFormed) (hc : Conforms schema s)
    {entity path : String} {options : Options} {q : Query}
    (h : ({ entity, schema, options } : Query).join path = .ok q) {docs : List Document}
    (hdocs : ∀ doc ∈ docs, doc.DistinctKeys ∧ WellReferring schema entity doc)
    (hnames : ∀ parent child, parse path = [parent, child] →
      startsWithDollar parent = false ∧ startsWithDollar child = false ∧
      ∀ doc ∈ docs, doc.get? (tempField parent child) = none) :
    s.apply q.stages (docs.map Value.object)
      = .ok ((docs.flatMap (joinRows schema s entity (parse path))).map Value.object) := by
  obtain ⟨parent, r, hr, hpath⟩ := stages_of_join h
  have hparent : Undotted parent := by
    have hmem : parent ∈ parse path := by
      rcases hpath with ⟨hpath, -⟩ | ⟨child, t, hpath, -⟩ <;> simp [hpath]
    exact undotted_of_mem_parse hmem
  have hdirect := apply_directStages hparent (hc.identities entity parent r hr)
    fun doc hdoc => (hdocs doc hdoc).2 parent r hr
  rcases hpath with ⟨hpath, hplanned⟩ | ⟨child, t, hpath, ht, hplanned⟩
  · have hrows : joinRows schema s entity [parent] = joinParent schema s r parent := by
      funext doc
      simp only [joinRows, hr]
    rw [hplanned, hdirect, hpath, hrows]
  · have hrows : joinRows schema s entity [parent, child]
        = fun doc =>
          (joinParent schema s r parent doc).map (joinUnder schema s t parent child) := by
      funext doc
      simp only [joinRows, hr, ht]
    have hmem : child ∈ parse path := by simp [hpath]
    have hchild : Undotted child := undotted_of_mem_parse hmem
    obtain ⟨hparent', hchild', htemp⟩ := hnames parent child hpath
    have hbetween : ∀ row ∈ docs.flatMap (joinParent schema s r parent),
        HoldsParents schema s r (row.get? parent) ∧ row.get? (tempField parent child) = none := by
      intro row hrow
      obtain ⟨doc, hdoc, hrow⟩ := List.mem_flatMap.mp hrow
      refine ⟨holdsParents_joinParent (hdocs doc hdoc).1 hrow, ?_⟩
      rw [get?_joinParent_of_ne (tempField_ne parent child).symm hrow]
      exact htemp doc hdoc
    have hnested := apply_nestedStages hparent hparent' hchild hchild' hs hc ht hbetween
    rw [hplanned, Store.apply_append, hdirect, ok_bind, hnested, hpath, hrows, List.map_flatMap]

/-! ## One author of one team -/

/-- Posts have an author, and authors have a team, under the given names. -/
def sampleSchema (parent child : String) : Schema where
  resolve entity field :=
    if entity = "Post" ∧ field = parent then .relationship ⟨"User", .one⟩
    else if entity = "User" ∧ field = child then .relationship ⟨"Team", .one⟩
    else .plain
  collectionOf entity := entity

/-- The author, and the team that the author refers to. -/
def sampleStore (child : String) : Store :=
  ⟨[("User", [.object [("_id", .string "u"), (child, .string "t")]]),
    ("Team", [.object [("_id", .string "t")]])]⟩

/-- Where two references are told apart, the one that is found is one of them. -/
theorem relationship_of_ite {first second : Prop} [Decidable first] [Decidable second]
    {r r' found : Relationship}
    (h : (if first then .relationship r else if second then .relationship r' else .plain)
      = Resolution.relationship found) :
    (first ∧ found = r) ∨ (second ∧ found = r') := by
  split at h
  · rename_i hfirst
    exact .inl ⟨hfirst, (Resolution.relationship.inj h).symm⟩
  · split at h
    · rename_i hsecond
      exact .inr ⟨hsecond, (Resolution.relationship.inj h).symm⟩
    · cases h

theorem resolve_sampleSchema {parent child entity field : String} {r : Relationship}
    (h : (sampleSchema parent child).resolve entity field = .relationship r) :
    (entity = "Post" ∧ field = parent ∧ r = ⟨"User", .one⟩)
      ∨ (entity = "User" ∧ field = child ∧ r = ⟨"Team", .one⟩) := by
  simpa only [and_assoc] using relationship_of_ite h

theorem hasIdentity_of_first (id : String) (fields : Document) :
    HasIdentity "_id" (.object (("_id", .string id) :: fields)) :=
  ⟨.string id, rfl, rfl, rfl⟩

theorem conforms_sample (parent child : String) :
    Conforms (sampleSchema parent child) (sampleStore child) := by
  constructor
  · intro entity field r hresolve doc hdoc
    rcases resolve_sampleSchema hresolve with ⟨-, -, rfl⟩ | ⟨-, -, rfl⟩
    · obtain rfl := List.mem_singleton.mp hdoc
      exact hasIdentity_of_first "u" [(child, .string "t")]
    · obtain rfl := List.mem_singleton.mp hdoc
      exact hasIdentity_of_first "t" []
  · intro entity doc hdoc fields hfields field r hresolve
    rcases resolve_sampleSchema hresolve with ⟨rfl, -, -⟩ | ⟨rfl, rfl, rfl⟩
    · cases hdoc
    · obtain rfl := List.mem_singleton.mp hdoc
      obtain rfl := Value.object.inj hfields
      intro items h
      simp only [FieldMap.get?, if_true] at h
      split at h <;> cases h

/-- A post refers to its author by an identity. -/
theorem wellReferring_sample (parent child id : String) {doc : Document}
    (h : doc.get? parent = some (.string id)) :
    WellReferring (sampleSchema parent child) "Post" doc := by
  intro field r hresolve
  rcases resolve_sampleSchema hresolve with ⟨-, rfl, rfl⟩ | ⟨hentity, -, -⟩
  · rw [h]
    intro items hitems
    cases hitems
  · simp at hentity

/-- The query for posts with their authors and their teams. -/
def samplePosts (parent child : String) : Query :=
  { entity := "Post", schema := sampleSchema parent child }

/-- A post of the author, and one of nobody. -/
def sampleDocuments : List Document := [[("author", .string "u")], [("author", .string "v")]]

section Sample

attribute [local instance] Filter.regexEngine

theorem join_gives_joinRows_sample :
    (sampleStore "team").WellFormed ∧ Conforms (sampleSchema "author" "team") (sampleStore "team") ∧
    ∃ q, (samplePosts "author" "team").join "author.team" = .ok q ∧
      (sampleStore "team").apply q.stages (sampleDocuments.map Value.object)
        = .ok [.object [("author", .object [("_id", .string "u"),
            ("team", .object [("_id", .string "t")])])], .object []] := by
  have hs : (sampleStore "team").WellFormed := by decide
  have hc := conforms_sample "author" "team"
  have hdocs : ∀ doc ∈ sampleDocuments,
      doc.DistinctKeys ∧ WellReferring (sampleSchema "author" "team") "Post" doc := by
    intro doc hdoc
    rcases List.mem_pair.mp hdoc with rfl | rfl
    · exact ⟨by decide, wellReferring_sample "author" "team" "u" rfl⟩
    · exact ⟨by decide, wellReferring_sample "author" "team" "v" rfl⟩
  have hnames : ∀ parent child, parse "author.team" = [parent, child] →
      startsWithDollar parent = false ∧ startsWithDollar child = false ∧
      ∀ doc ∈ sampleDocuments, doc.get? (tempField parent child) = none := by
    intro parent child hpath
    have hnames : ["author", "team"] = [parent, child] := hpath
    obtain ⟨rfl, rfl⟩ : "author" = parent ∧ "team" = child := by simpa using hnames
    refine ⟨by decide, by decide, fun doc hdoc => ?_⟩
    rcases List.mem_pair.mp hdoc with rfl | rfl <;> rfl
  obtain ⟨q, hq⟩ : ∃ q, (samplePosts "author" "team").join "author.team" = .ok q := ⟨_, rfl⟩
  exact ⟨hs, hc, q, hq, join_gives_joinRows hs hc hq hdocs hnames⟩

end Sample

/-! ## Names that are read otherwise -/

/-- The stages of the sample. -/
def sampleStages (parent child : String) : Pipeline :=
  directStages (sampleSchema parent child) parent ⟨"User", .one⟩
    ++ nestedStages (sampleSchema parent child) parent ⟨"User", .one⟩ child ⟨"Team", .one⟩

/-- The sample conforms and the path is accepted, but the document does not get the rows of nested
loops. -/
def DiffersFromLoops [Filter.Engine] (parent child path : String) (doc : Document) : Prop :=
  (sampleStore child).WellFormed ∧ Conforms (sampleSchema parent child) (sampleStore child) ∧
  doc.DistinctKeys ∧ WellReferring (sampleSchema parent child) "Post" doc ∧
  ∃ q, (samplePosts parent child).join path = .ok q ∧
    (sampleStore child).apply q.stages [.object doc] ≠
      .ok ((joinRows (sampleSchema parent child) (sampleStore child) "Post" (parse path) doc).map
        Value.object)

/-- How many fields each row of a result has. -/
def widths (result : Except StoreError (List Value)) : Option (List Nat) :=
  result.toOption.map fun rows => rows.map fun row => (row.fields?.getD []).length

theorem differsFromLoops_of [Filter.Engine] {parent child path : String} {doc : Document}
    (hs : (sampleStore child).WellFormed) (hdoc : doc.DistinctKeys)
    (href : doc.get? parent = some (.string "u"))
    (hjoin : ∃ q, (samplePosts parent child).join path = .ok q ∧
      q.stages = sampleStages parent child)
    (hwidths : widths ((sampleStore child).apply (sampleStages parent child) [.object doc]) ≠
      widths (.ok ((joinRows (sampleSchema parent child) (sampleStore child) "Post" (parse path)
        doc).map Value.object))) :
    DiffersFromLoops parent child path doc := by
  obtain ⟨q, hq, hstages⟩ := hjoin
  refine ⟨hs, conforms_sample parent child, hdoc, wellReferring_sample parent child "u" href, q, hq,
    fun hsame => hwidths ?_⟩
  rw [← hstages, hsame]

attribute [local instance] Filter.regexEngine

/-- A dollar sign before the parent makes a variable of it, which has no value, so that the field is
lost. -/
theorem differs_of_dollar_parent :
    DiffersFromLoops "$author" "team" "$author.team" [("$author", .string "u")] :=
  differsFromLoops_of (by decide) (by decide) rfl ⟨_, rfl, rfl⟩ (by decide +kernel)

/-- A dollar sign before the child makes an operator of it, which there is not. -/
theorem differs_of_dollar_child :
    DiffersFromLoops "author" "$team" "author.$team" [("author", .string "u")] :=
  differsFromLoops_of (by decide) (by decide) rfl ⟨_, rfl, rfl⟩ (by decide +kernel)

/-- A field that is named like the temporary one is dropped with it. -/
theorem differs_of_temp_field :
    DiffersFromLoops "author" "team" "author.team"
      [("author", .string "u"), ("author_team__join", .string "kept")] :=
  differsFromLoops_of (by decide) (by decide) rfl ⟨_, rfl, rfl⟩ (by decide +kernel)

/-- The three conditions on names are needed. -/
theorem joins_need_plain_names :
    DiffersFromLoops "$author" "team" "$author.team" [("$author", .string "u")] ∧
    DiffersFromLoops "author" "$team" "author.$team" [("author", .string "u")] ∧
    DiffersFromLoops "author" "team" "author.team"
      [("author", .string "u"), ("author_team__join", .string "kept")] :=
  ⟨differs_of_dollar_parent, differs_of_dollar_child, differs_of_temp_field⟩

end DocQuery.Join
