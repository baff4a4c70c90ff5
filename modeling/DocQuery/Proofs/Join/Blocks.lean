import DocQuery.Filter.RegexEngine
import DocQuery.Proofs.Join.Rows

/-!
# A join keeps every document

The stages of a route treat documents one by one (`Route.apply_stages`). So whatever documents are
like, a join makes one block of rows of each of them, in order, and no block is empty. All that a
row differs in from its document is the parent of the path and the temporary field, because each
stage puts a value under one of these two keys (`mem_directRows`, `nestedRow_eq_ok`), and the last
stage of a nested join drops the temporary field.
-/

namespace DocQuery.Join

open DocQuery.Path

/-- The fields that a join writes to: the parent, and the temporary field if the path goes on. -/
def touched (path : String) : List String :=
  match parse path with
  | [parent, child] => [parent, tempField parent child]
  | names => names

/-- The rows that a join makes of a document. -/
structure Block (schema : Schema) (entity path : String) (joined : List String) (doc : Document)
    (rows : List Document) : Prop where
  nonempty : rows ≠ []
  single : (joined.contains (head path) ∨ ∃ r, schema.resolve entity (head path) = .relationship r ∧
    r.cardinality = .many) → rows.length = 1
  untouched : ∀ row ∈ rows, row.outside (touched path) = doc.outside (touched path)
  no_temp : doc.DistinctKeys → ∀ parent child, parse path = [parent, child] →
    ∀ row ∈ rows, tempField parent child ∉ row.keys

variable {schema : Schema} {s : Store} {entity path : String}

/-! ## The rows of a document -/

/-- The rows of a document behind the stages of the parent. -/
def Route.parentRows (schema : Schema) (s : Store) (route : Route) (known : Bool) (doc : Document) :
    List Document :=
  if known then [doc] else directRows schema s route.parent route.first doc

/-- The rows of a document behind the stages of a route. -/
def Route.rows (schema : Schema) (s : Store) (route : Route) (known : Bool) (doc : Document) :
    Except StoreError (List Document) :=
  match route.next with
  | none => .ok (route.parentRows schema s known doc)
  | some (child, t) =>
    (route.parentRows schema s known doc).mapM (nestedRow schema s route.parent route.first child t)

theorem Route.apply_parentStages [Filter.Engine] {parent : String} (hparent : Undotted parent)
    (r : Relationship) (next : Option (String × Relationship)) (known : Bool)
    (docs : List Document) :
    s.apply (if known then [] else directStages schema parent r) (docs.map Value.object)
      = .ok ((docs.flatMap
          (Route.parentRows schema s ⟨parent, r, next⟩ known)).map Value.object) := by
  cases known with
  | true =>
      have hrows : Route.parentRows schema s ⟨parent, r, next⟩ true = fun doc => [doc] := rfl
      rw [hrows, List.flatMap_singleton']
      rfl
  | false => exact apply_directStages_rows hparent docs

/-- The stages of a route treat documents one by one. -/
theorem Route.apply_stages [Filter.Engine] {route : Route} (h : Route.Of schema entity path route)
    (known : Bool) (docs : List Document) :
    s.apply (route.stages schema known) (docs.map Value.object)
      = (fun blocks => blocks.flatten.map Value.object)
          <$> docs.mapM (route.rows schema s known) := by
  have hparent := h.undotted_parent
  cases h with
  | @one parent r hpath hr =>
      have hrows : docs.mapM (Route.rows schema s ⟨parent, r, none⟩ known)
          = .ok (docs.map (Route.parentRows schema s ⟨parent, r, none⟩ known)) :=
        mapM_of_ok fun doc _ => rfl
      rw [hrows, map_ok, ← List.flatMap_def, ← Route.apply_parentStages hparent r none known docs,
        Route.stages, List.append_nil]
  | @two parent child r t hpath hr ht =>
      rw [Route.stages, Store.apply_append, Route.apply_parentStages hparent r (some (child, t)),
        ok_bind, apply_nestedStages_rows hparent (undotted_second hpath), mapM_flatMap,
        Functor.map_map]
      rfl

/-! ## Rows of the parent -/

theorem mem_directRows {r : Relationship} {field : String} {doc row : Document}
    (h : row ∈ directRows schema s field r doc) : ∃ v, row = doc.put field v := by
  unfold directRows at h
  cases hcard : r.cardinality with
  | one =>
      rw [hcard] at h
      cases hfound : s.joined (directLookup schema field r) (.object doc) with
      | nil =>
          rw [hfound] at h
          exact ⟨none, List.mem_singleton.mp h⟩
      | cons first rest =>
          rw [hfound] at h
          obtain ⟨v, -, hrow⟩ := List.mem_map.mp h
          exact ⟨some v, hrow.symm⟩
  | many =>
      rw [hcard] at h
      exact ⟨some _, List.mem_singleton.mp h⟩

theorem directRows_ne_nil (schema : Schema) (s : Store) (field : String) (r : Relationship)
    (doc : Document) : directRows schema s field r doc ≠ [] := by
  unfold directRows
  cases r.cardinality with
  | one => cases s.joined (directLookup schema field r) (.object doc) <;> simp [placeFound]
  | many => simp [placeFound]

theorem length_directRows {r : Relationship} (hmany : r.cardinality = .many) (field : String)
    (doc : Document) : (directRows schema s field r doc).length = 1 := by
  rw [directRows, hmany, placeFound]
  rfl

/-- A row of the parent differs from the document in the parent alone. -/
theorem Route.mem_parentRows {route : Route} {known : Bool} {doc row : Document}
    (h : row ∈ route.parentRows schema s known doc) :
    row = doc ∨ ∃ v, row = doc.put route.parent v := by
  cases known with
  | true => exact .inl (List.mem_singleton.mp h)
  | false => exact .inr (mem_directRows h)

theorem Route.parentRows_ne_nil (schema : Schema) (s : Store) (route : Route) (known : Bool)
    (doc : Document) : route.parentRows schema s known doc ≠ [] := by
  cases known with
  | true => exact List.cons_ne_nil doc []
  | false => exact directRows_ne_nil schema s route.parent route.first doc

theorem Route.length_parentRows {route : Route} {known : Bool}
    (h : known = true ∨ route.first.cardinality = .many) (doc : Document) :
    (route.parentRows schema s known doc).length = 1 := by
  cases known with
  | true => rfl
  | false => exact length_directRows (h.resolve_left Bool.false_ne_true) route.parent doc

theorem Route.outside_parentRows {route : Route} {known : Bool} {doc row : Document}
    {names : List String} (hmem : route.parent ∈ names)
    (h : row ∈ route.parentRows schema s known doc) : row.outside names = doc.outside names := by
  rcases Route.mem_parentRows h with rfl | ⟨v, rfl⟩
  · rfl
  · exact FieldMap.outside_put hmem doc v

theorem Route.distinctKeys_parentRows {route : Route} {known : Bool} {doc row : Document}
    (hdoc : doc.DistinctKeys) (h : row ∈ route.parentRows schema s known doc) :
    row.DistinctKeys := by
  rcases Route.mem_parentRows h with rfl | ⟨v, rfl⟩
  · exact hdoc
  · exact hdoc.put route.parent v

/-! ## Rows of the child -/

theorem nestedRow_eq_ok {r t : Relationship} {parent child : String} (hparent : Undotted parent)
    {row out : Document} (h : nestedRow schema s parent r child t row = .ok out) :
    ∃ v, Expression.eval { root := .object (withChildren schema s parent child t row) }
        (mergeExpression schema parent r child t) = .ok v ∧
      out
        = ((withChildren schema s parent child t row).put parent v).erase
            (tempField parent child) := by
  obtain ⟨v, heval, rfl⟩ := map_eq_ok.mp h
  exact ⟨v, heval, by simp only [setField_eq_put hparent]⟩

theorem outside_nestedRow {r t : Relationship} {parent child : String} (hparent : Undotted parent)
    {row out : Document} (h : nestedRow schema s parent r child t row = .ok out) :
    out.outside [parent, tempField parent child]
      = row.outside [parent, tempField parent child] := by
  obtain ⟨v, -, rfl⟩ := nestedRow_eq_ok hparent h
  rw [FieldMap.outside_erase (by simp), FieldMap.outside_put (by simp), withChildren,
    FieldMap.outside_insert (by simp)]

theorem tempField_not_mem_nestedRow {r t : Relationship} {parent child : String}
    (hparent : Undotted parent) {row out : Document} (hrow : row.DistinctKeys)
    (h : nestedRow schema s parent r child t row = .ok out) :
    tempField parent child ∉ out.keys := by
  obtain ⟨v, -, rfl⟩ := nestedRow_eq_ok hparent h
  have hfilled : (withChildren schema s parent child t row).DistinctKeys := hrow.insert _ _
  exact FieldMap.get?_eq_none_iff.mp (FieldMap.get?_erase_self (hfilled.put parent v) _)

/-! ## Blocks -/

/-- The parent of the route is the head of the path. -/
theorem Route.Of.joined_or_many {route : Route} (hroute : Route.Of schema entity path route)
    {joined : List String} (h : joined.contains (head path) ∨
      ∃ r, schema.resolve entity (head path) = .relationship r ∧ r.cardinality = .many) :
    joined.contains route.parent = true ∨ route.first.cardinality = .many := by
  rw [hroute.head_eq] at h
  rcases h with hjoined | ⟨r, hr, hmany⟩
  · exact .inl hjoined
  · obtain rfl := Resolution.relationship.inj (hroute.resolve_parent.symm.trans hr)
    exact .inr hmany

/-- What a document becomes along a route is a block. -/
theorem block_of_rows {route : Route} (hroute : Route.Of schema entity path route)
    {joined : List String} {doc : Document} {rows : List Document}
    (h : route.rows schema s (joined.contains route.parent) doc = .ok rows) :
    Block schema entity path joined doc rows := by
  have hparent := hroute.undotted_parent
  have hsingle := @Route.Of.joined_or_many schema entity path route hroute joined
  cases hroute with
  | @one parent r hpath hr =>
      have htouched : touched path = [parent] := by simp only [touched, hpath]
      obtain rfl := Except.ok.inj h
      refine ⟨Route.parentRows_ne_nil _ _ _ _ _, fun h => Route.length_parentRows (hsingle h) doc,
        fun row hrow => ?_, fun _ _ _ hpath' => ?_⟩
      · exact Route.outside_parentRows (by simp [htouched]) hrow
      · rw [hpath] at hpath'
        cases hpath'
  | @two parent child r t hpath hr ht =>
      have htouched : touched path = [parent, tempField parent child] := by
        simp only [touched, hpath]
      refine ⟨fun hnil => ?_, fun h' => ?_, fun row hrow => ?_, fun hdoc _ _ hpath' row hrow => ?_⟩
      · have hlength := (mapM_eq_ok h).length_eq
        rw [hnil] at hlength
        exact Route.parentRows_ne_nil _ _ _ _ _ (List.length_eq_zero_iff.mp hlength)
      · rw [← (mapM_eq_ok h).length_eq]
        exact Route.length_parentRows (hsingle h') doc
      · obtain ⟨before, hbefore, hnested⟩ := exists_of_mem_mapM h hrow
        rw [htouched, outside_nestedRow hparent hnested]
        exact Route.outside_parentRows (by simp) hbefore
      · rw [hpath] at hpath'
        obtain ⟨rfl, rfl⟩ : parent = _ ∧ child = _ := by simpa using hpath'
        obtain ⟨before, hbefore, hnested⟩ := exists_of_mem_mapM h hrow
        have hdistinct := Route.distinctKeys_parentRows hdoc hbefore
        exact tempField_not_mem_nestedRow hparent hdistinct hnested

/-- **A join drops no document and touches only its fields.** If the stages of a plan succeed on a
list of documents, their rows are one block for each document, in order. -/
theorem join_rows_in_blocks [Filter.Engine] {most : Nat} {joined : List String} {p : Plan}
    (hplan : plan schema entity path most joined = .ok (some p)) {docs : List Document}
    {out : List Value} (hrun : s.apply p.stages (docs.map Value.object) = .ok out) :
    ∃ blocks : List (List Document), out = blocks.flatten.map Value.object ∧
      List.Forall₂ (Block schema entity path joined) docs blocks := by
  obtain ⟨route, hroute, rfl⟩ := plan_eq_some hplan
  rw [Route.apply_stages hroute] at hrun
  obtain ⟨blocks, hrows, rfl⟩ := map_eq_ok.mp hrun
  exact ⟨blocks, rfl, (mapM_eq_ok hrows).imp fun doc rows h => block_of_rows hroute h⟩

/-- Posts with an author, without one, and with one that is not there. -/
def titledPosts : List Document :=
  [[("title", .string "a"), ("author", .string "u")], [("title", .string "b")],
    [("author", .string "v"), ("title", .string "c")]]

attribute [local instance] Filter.regexEngine

theorem join_rows_in_blocks_titledPosts :
    ∃ p out, plan (sampleSchema "author" "team") "Post" "author.team" 2 [] = .ok (some p) ∧
      (sampleStore "team").apply p.stages (titledPosts.map Value.object) = .ok out ∧
      ∃ blocks : List (List Document), out = blocks.flatten.map Value.object ∧
        List.Forall₂ (Block (sampleSchema "author" "team") "Post" "author.team" []) titledPosts
          blocks := by
  have hplan : plan (sampleSchema "author" "team") "Post" "author.team" 2 []
      = .ok (some ⟨sampleStages "author" "team", ["author", "author.team"]⟩) := rfl
  have hok : ((sampleStore "team").apply (sampleStages "author" "team")
      (titledPosts.map Value.object)).isOk = true := by decide +kernel
  cases hrun : (sampleStore "team").apply (sampleStages "author" "team")
      (titledPosts.map Value.object) with
  | error e =>
      rw [hrun] at hok
      cases hok
  | ok out => exact ⟨_, out, hplan, hrun, join_rows_in_blocks hplan hrun⟩

end DocQuery.Join
