import DocQuery.Filter.RegexEngine
import DocQuery.Proofs.Filter.Reads
import DocQuery.Proofs.Join.Blocks

/-!
# Filtering before a join

A filter that avoids the fields of a join cannot tell a row from the document it was made of, so it
decides on all rows of a block as it decides on the document. Every block has a row. Hence a filter
that succeeds behind the join succeeds before it, and keeps the documents whose blocks it kept.
-/

namespace DocQuery.Join

variable {schema : Schema} {s : Store} {entity path : String} {joined : List String}

theorem holds_of_block [Filter.Engine] {doc : Document} {rows : List Document}
    (hblock : Block schema entity path joined doc rows) {condition : Document}
    (havoids : Filter.avoids (touched path) condition = true) :
    ∀ row ∈ rows.map Value.object,
      Filter.holds row condition = Filter.holds (.object doc) condition := by
  intro row hrow
  obtain ⟨fields, hfields, rfl⟩ := List.mem_map.mp hrow
  exact Filter.holds_of_avoids (hblock.untouched fields hfields) condition havoids

/-- What a filter keeps behind a join are the blocks of the documents that it keeps. -/
theorem filter_blocks [Filter.Engine] {rowsOf : Document → Except StoreError (List Document)}
    {condition : Document} (havoids : Filter.avoids (touched path) condition = true)
    (hblocks : ∀ doc rows, rowsOf doc = .ok rows → Block schema entity path joined doc rows)
    {docs : List Document} {blocks : List (List Document)} (hrows : docs.mapM rowsOf = .ok blocks)
    {out : List Value} (hout : Store.filter condition (blocks.flatten.map Value.object) = .ok out) :
    ∃ (kept : List Document) (keptBlocks : List (List Document)),
      Store.filter condition (docs.map Value.object) = .ok (kept.map Value.object) ∧
      kept.mapM rowsOf = .ok keptBlocks ∧ out = keptBlocks.flatten.map Value.object := by
  induction docs generalizing blocks out with
  | nil =>
      obtain rfl := Except.ok.inj hrows
      obtain rfl := Except.ok.inj hout
      exact ⟨[], [], rfl, rfl, rfl⟩
  | cons doc docs ih =>
      rw [List.mapM_cons] at hrows
      obtain ⟨rows, hdoc, hrows⟩ := bind_eq_ok.mp hrows
      obtain ⟨rest, hrest, hrows⟩ := bind_eq_ok.mp hrows
      obtain rfl := Except.ok.inj hrows
      rw [List.flatten_cons, List.map_append, Store.filter, filterItems_append] at hout
      obtain ⟨keptRows, hkeptRows, hout⟩ := bind_eq_ok.mp hout
      obtain ⟨others, hothers, rfl⟩ := map_eq_ok.mp hout
      obtain ⟨kept, keptBlocks, hkept, hkeptBlocks, rfl⟩ := ih hrest hothers
      have hblock := hblocks doc rows hdoc
      have hne : rows.map Value.object ≠ [] := by simpa using hblock.nonempty
      obtain ⟨keep, hanswer, rfl⟩ :=
        filterItems_of_same hne (holds_of_block hblock havoids) hkeptRows
      have hfilter : Store.filter condition ((doc :: docs).map Value.object)
          = .ok (if keep then .object doc :: kept.map Value.object
              else kept.map Value.object) := by
        rw [Store.filter] at hkept ⊢
        rw [List.map_cons, Expression.filterItems, hanswer, ok_bind, hkept, ok_bind, pure_eq_ok]
      cases keep with
      | false => exact ⟨kept, keptBlocks, hfilter, hkeptBlocks, rfl⟩
      | true =>
          refine ⟨doc :: kept, rows :: keptBlocks, hfilter, ?_, ?_⟩
          · rw [List.mapM_cons, hdoc, ok_bind, hkeptBlocks, ok_bind, pure_eq_ok]
          · rw [List.flatten_cons, List.map_append, if_pos rfl]

/-- **A filter that avoids the fields of a join may come first.** If the stages of a plan and then
the filter succeed, then the filter and then the stages succeed as well, with the same rows. -/
theorem filter_before_join [Filter.Engine] {most : Nat} {p : Plan}
    (hplan : plan schema entity path most joined = .ok (some p)) {condition : Document}
    (havoids : Filter.avoids (touched path) condition = true) {docs : List Document}
    {out : List Value}
    (hrun : s.apply (p.stages ++ [.filter condition]) (docs.map Value.object) = .ok out) :
    s.apply (.filter condition :: p.stages) (docs.map Value.object) = .ok out := by
  obtain ⟨route, hroute, rfl⟩ := plan_eq_some hplan
  rw [Store.apply_append] at hrun
  obtain ⟨rows, hjoin, hfilter⟩ := bind_eq_ok.mp hrun
  rw [Route.apply_stages hroute] at hjoin
  rw [Store.apply_singleton, Store.applyStage] at hfilter
  obtain ⟨blocks, hrows, rfl⟩ := map_eq_ok.mp hjoin
  obtain ⟨kept, keptBlocks, hkept, hkeptBlocks, rfl⟩ :=
    filter_blocks havoids (fun doc rows => block_of_rows hroute) hrows hfilter
  rw [Store.apply_cons, Store.applyStage, hkept, ok_bind, Route.apply_stages hroute, hkeptBlocks,
    map_ok]

/-- Posts with one of two titles. -/
def titleCondition : Document :=
  [("$or", .array [.object [("title", .string "a")],
    .object [("$expr", .object [("$eq", .array [.string "$title", .string "c"])])]])]

attribute [local instance] Filter.regexEngine

theorem filter_before_join_titledPosts :
    Filter.avoids (touched "author.team") titleCondition = true ∧
    ∃ p out, plan (sampleSchema "author" "team") "Post" "author.team" 2 [] = .ok (some p) ∧
      (sampleStore "team").apply (p.stages ++ [.filter titleCondition])
        (titledPosts.map Value.object) = .ok out ∧ out.length = 2 ∧
      (sampleStore "team").apply (.filter titleCondition :: p.stages)
        (titledPosts.map Value.object) = .ok out := by
  have havoids : Filter.avoids (touched "author.team") titleCondition = true := by decide +kernel
  have hplan : plan (sampleSchema "author" "team") "Post" "author.team" 2 []
      = .ok (some ⟨sampleStages "author" "team", ["author", "author.team"]⟩) := rfl
  have hlength : ((sampleStore "team").apply (sampleStages "author" "team"
      ++ [.filter titleCondition]) (titledPosts.map Value.object)).toOption.map List.length
      = some 2 := by decide +kernel
  cases hrun : (sampleStore "team").apply (sampleStages "author" "team"
      ++ [.filter titleCondition]) (titledPosts.map Value.object) with
  | error e =>
      rw [hrun] at hlength
      cases hlength
  | ok out =>
      rw [hrun] at hlength
      exact ⟨havoids, _, out, hplan, hrun, Option.some.inj hlength,
        filter_before_join hplan havoids hrun⟩

end DocQuery.Join
