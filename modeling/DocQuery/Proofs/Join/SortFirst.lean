import DocQuery.Filter.RegexEngine
import DocQuery.Proofs.Join.Blocks
import DocQuery.Proofs.Expression.Reads
import DocQuery.Proofs.Query.Accumulated
import DocQuery.Proofs.Store.Sorting

/-!
# Sorting before a join

A join makes a block of rows of each document, and a sort whose fields do not begin with a field of
the join reads the same in all rows of a block as in the document. So it keeps the rows of a block
together, and moves each block as it moves the document: it makes no difference whether documents
are sorted before the join or the rows behind it.
-/

namespace DocQuery.Join

variable {schema : Schema} {s : Store} {entity path : String} {joined : List String}
  {keys : FieldMap Direction}

/-- A sort that avoids the fields of a join does not tell a row from its document. -/
theorem orderBy_of_block {doc : Document} {rows : List Document}
    (hblock : Block schema entity path joined doc rows)
    (havoids : ∀ field ∈ keys.keys, Path.head field ∉ touched path) :
    ∀ row ∈ rows.map Value.object, Store.orderBy keys (.object doc) row = .eq := by
  intro row hrow
  obtain ⟨fields, hfields, rfl⟩ := List.mem_map.mp hrow
  refine Store.orderBy_of_resolve fun field hfield => ?_
  exact Expression.resolve_of_head (hblock.untouched fields hfields).symm (havoids field hfield)

/-- **A sort that avoids the fields of a join may come first.** Let no field to sort by begin with
the parent of the path or with the temporary field. Then the stages of a plan followed by the sort
succeed when the sort followed by the stages does, and both give the same rows in the same order. -/
theorem sort_before_join [Filter.Engine] {most : Nat} {p : Plan}
    (hplan : plan schema entity path most joined = .ok (some p))
    (havoids : ∀ field ∈ keys.keys, Path.head field ∉ touched path) (docs : List Document)
    (out : List Value) :
    s.apply (p.stages ++ [.sort keys]) (docs.map Value.object) = .ok out ↔
      s.apply (.sort keys :: p.stages) (docs.map Value.object) = .ok out := by
  obtain ⟨route, hroute, rfl⟩ := plan_eq_some hplan
  refine Store.sort_commutes s (rowwise_route schema route _) fun doc hdoc rows hrun => ?_
  obtain ⟨fields, -, rfl⟩ := List.mem_map.mp hdoc
  have hsingle := Route.apply_stages (s := s) hroute (joined.contains route.parent) [fields]
  obtain ⟨blocks, hblocks, rfl⟩ := map_eq_ok.mp (hsingle.symm.trans hrun)
  obtain ⟨block, rest, hblock, hrest, rfl⟩ := List.forall₂_cons_left_iff.mp (mapM_eq_ok hblocks)
  obtain rfl := List.forall₂_nil_left_iff.mp hrest
  rw [List.flatten_singleton]
  exact orderBy_of_block (block_of_rows hroute hblock) havoids

/-- Two authors by one identity, of one team. -/
def sharedIdentity : Store :=
  ⟨[("User", [.object [("_id", .string "u"), ("name", .string "Ada"), ("team", .string "t")],
      .object [("_id", .string "u"), ("name", .string "Bo"), ("team", .string "t")]]),
    ("Team", [.object [("_id", .string "t")]])]⟩

attribute [local instance] Filter.regexEngine

theorem sort_before_join_titledPosts :
    ∃ p out, plan (sampleSchema "author" "team") "Post" "author.team" 2 [] = .ok (some p) ∧
      sharedIdentity.apply (p.stages ++ [.sort [("title", .descending)]])
        (titledPosts.map Value.object) = .ok out ∧ out.length = 4 ∧
      sharedIdentity.apply (.sort [("title", .descending)] :: p.stages)
        (titledPosts.map Value.object) = .ok out := by
  have hplan : plan (sampleSchema "author" "team") "Post" "author.team" 2 []
      = .ok (some ⟨sampleStages "author" "team", ["author", "author.team"]⟩) := rfl
  have havoids : ∀ field ∈ FieldMap.keys [("title", Direction.descending)],
      Path.head field ∉ touched "author.team" := by decide +kernel
  have hlength : (sharedIdentity.apply (sampleStages "author" "team")
      (titledPosts.map Value.object)).toOption.map List.length = some 4 := by decide +kernel
  cases hjoined : sharedIdentity.apply (sampleStages "author" "team")
      (titledPosts.map Value.object) with
  | error e =>
      rw [hjoined] at hlength
      cases hlength
  | ok rows =>
      rw [hjoined] at hlength
      have hrun : sharedIdentity.apply (sampleStages "author" "team"
          ++ [.sort [("title", .descending)]]) (titledPosts.map Value.object)
          = .ok (Store.sort [("title", .descending)] rows) := by
        rw [Store.apply_append, hjoined, ok_bind, Store.apply_singleton, Store.applyStage]
      have hfour := (Store.sort_perm [("title", .descending)] rows).length_eq.trans
        (Option.some.inj hlength)
      exact ⟨_, _, hplan, hrun, hfour, (sort_before_join hplan havoids titledPosts _).mp hrun⟩

end DocQuery.Join
