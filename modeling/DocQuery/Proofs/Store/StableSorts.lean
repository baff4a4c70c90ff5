import DocQuery.Filter.RegexEngine
import DocQuery.Proofs.Query.Calls
import DocQuery.Proofs.Store.Sorting
import Mathlib.Tactic.Choose

/-!
# Sorts with filters and with other sorts

A list is sorted when it stands in the order and its tied documents stand as they did
(`eq_of_tied`), so an exchange of stages with a sort comes down to these two. Dropping documents
disturbs neither: a filter may come before a sort or behind it (`sort_filter`).

The order by two groups of fields is the order by the first, with ties broken by the second
(`orderBy_append`). A sort by the first leaves its ties as a sort by the second has put them, so the
two together give the order by both (`sort_append`), and this is what orderings that follow each
other are merged into.
-/

namespace DocQuery

namespace Store

open DocQuery.Path (parse resolve)
open Value (orderMissing)

variable {docs rows : List Value}

/-! ## Sort stages -/

theorem apply_sort_cons [Filter.Engine] (s : Store) (keys : FieldMap Direction)
    (stages : List Stage) (docs : List Value) :
    s.apply (.sort keys :: stages) docs = s.apply stages (sort keys docs) := by
  rw [apply_cons, applyStage, ok_bind]

theorem apply_sort [Filter.Engine] (s : Store) (keys : FieldMap Direction) (docs : List Value) :
    s.apply [.sort keys] docs = .ok (sort keys docs) := by
  rw [apply_singleton, applyStage]

/-! ## Filters -/

theorem tied_filter (keys : FieldMap Direction) (doc : Value) (keep : Value → Bool)
    (docs : List Value) : tied keys doc (docs.filter keep) = (tied keys doc docs).filter keep := by
  rw [tied, tied, List.filter_comm]

/-- Documents may be dropped before a sort or behind it. -/
theorem sort_filter (keys : FieldMap Direction) (keep : Value → Bool) (docs : List Value) :
    sort keys (docs.filter keep) = (sort keys docs).filter keep := by
  refine eq_of_tied (sorted_sort keys _) ((sorted_sort keys docs).filter keep) fun doc => ?_
  rw [tied_sort, tied_filter, tied_filter, tied_sort]

section Filters

variable [Filter.Engine] {keys : FieldMap Direction} {condition : Document}

theorem apply_sort_filter (s : Store) (keys : FieldMap Direction) {keep : Value → Bool}
    (h : ∀ doc ∈ docs, Filter.holds doc condition = .ok (keep doc)) :
    s.apply [.sort keys, .filter condition] docs = .ok ((sort keys docs).filter keep) ∧
    s.apply [.filter condition, .sort keys] docs = .ok ((sort keys docs).filter keep) := by
  have hsorted : ∀ doc ∈ sort keys docs, Filter.holds doc condition = .ok (keep doc) :=
    fun doc hdoc => h doc ((sort_perm keys docs).mem_iff.mp hdoc)
  constructor
  · rw [apply_sort_cons, apply_singleton, applyStage_filter s hsorted]
  · rw [apply_cons, applyStage_filter s h, ok_bind, apply_sort, sort_filter]

/-- In either place the filter is asked of every document. -/
theorem decides_of_apply {s : Store} (h : s.apply [.sort keys, .filter condition] docs = .ok rows ∨
      s.apply [.filter condition, .sort keys] docs = .ok rows) :
    ∃ keep : Value → Bool, ∀ doc ∈ docs, Filter.holds doc condition = .ok (keep doc) := by
  rcases h with h | h
  · rw [apply_sort_cons, apply_singleton, applyStage] at h
    obtain ⟨keep, hkeep, -⟩ := filterItems_eq_ok h
    exact ⟨keep, fun doc hdoc => hkeep doc ((sort_perm keys docs).mem_iff.mpr hdoc)⟩
  · rw [apply_cons, applyStage] at h
    obtain ⟨kept, hkept, -⟩ := bind_eq_ok.mp h
    obtain ⟨keep, hkeep, -⟩ := filterItems_eq_ok hkept
    exact ⟨keep, hkeep⟩

/-- **Filtering and sorting commute.** A sort followed by a filter gives the same rows in the same
order as the filter followed by the sort, and the two succeed just when the filter decides on every
document. -/
theorem filters_and_sorts_commute (s : Store) (keys : FieldMap Direction) (condition : Document)
    (docs : List Value) :
    (∀ rows, s.apply [.sort keys, .filter condition] docs = .ok rows ↔
      s.apply [.filter condition, .sort keys] docs = .ok rows) ∧
    ((∀ doc ∈ docs, ∃ answer, Filter.holds doc condition = .ok answer) ↔
      ∃ rows, s.apply [.sort keys, .filter condition] docs = .ok rows) := by
  have hsame (rows : List Value) (h : s.apply [.sort keys, .filter condition] docs = .ok rows ∨
      s.apply [.filter condition, .sort keys] docs = .ok rows) :
      s.apply [.sort keys, .filter condition] docs
        = s.apply [.filter condition, .sort keys] docs := by
    obtain ⟨keep, hkeep⟩ := decides_of_apply h
    obtain ⟨hbehind, hbefore⟩ := apply_sort_filter s keys hkeep
    rw [hbehind, hbefore]
  refine ⟨fun rows => ⟨fun h => ?_, fun h => ?_⟩, fun h => ?_, fun ⟨rows, hrows⟩ doc hdoc => ?_⟩
  · rw [← hsame rows (.inl h), h]
  · rw [hsame rows (.inr h), h]
  · choose! keep hkeep using h
    exact ⟨_, (apply_sort_filter s keys hkeep).1⟩
  · obtain ⟨keep, hkeep⟩ := decides_of_apply (.inl hrows)
    exact ⟨keep doc, hkeep doc hdoc⟩

end Filters

/-! ## Tie-breakers -/

theorem orderBy_append (a b : FieldMap Direction) (x y : Value) :
    orderBy (a ++ b) x y = (orderBy a x y).then (orderBy b x y) := by
  induction a with
  | nil => rfl
  | cons key rest ih =>
      rw [List.cons_append, orderBy_cons, orderBy_cons, compareLex, compareLex, ih,
        Ordering.then_assoc]

theorem tied_append (a b : FieldMap Direction) (doc : Value) (docs : List Value) :
    tied (a ++ b) doc docs = tied a doc (tied b doc docs) := by
  rw [tied, tied, tied, List.filter_filter]
  refine List.filter_congr fun other _ => ?_
  rw [orderBy_append]
  cases orderBy a doc other <;> rfl

/-- A sort by the first fields keeps its ties in the order by the second. -/
theorem sorted_sort_append (a b : FieldMap Direction) (h : Sorted b docs) :
    Sorted (a ++ b) (sort a docs) := by
  refine List.pairwise_iff_forall_sublist.mpr fun {x y} hpair => ?_
  have hle : (orderBy a x y).isLE = true :=
    List.pairwise_iff_forall_sublist.mp (sorted_sort a docs) hpair
  rw [orderBy_append]
  cases horder : orderBy a x y with
  | lt => rfl
  | gt =>
      rw [horder] at hle
      cases hle
  | eq =>
      -- tied documents stand in the sorted list as they stood in the given one
      have hties : (tied a x [x, y]).Sublist (tied a x docs) := by
        rw [← tied_sort a x docs]
        exact hpair.filter _
      rw [tied_cons_of_eq Std.ReflCmp.compare_self, tied_cons_of_eq horder] at hties
      exact List.pairwise_iff_forall_sublist.mp h (hties.trans List.filter_sublist)

theorem tied_comm (a b : FieldMap Direction) (doc : Value) (docs : List Value) :
    tied a doc (tied b doc docs) = tied b doc (tied a doc docs) := tied_filter a doc _ docs

/-- A sort by some fields behind a sort by others is the sort by both, the later one deciding
first. -/
theorem sort_append (a b : FieldMap Direction) (docs : List Value) :
    sort (a ++ b) docs = sort a (sort b docs) := by
  refine eq_of_tied (sorted_sort _ docs) (sorted_sort_append a b (sorted_sort b docs)) fun doc => ?_
  calc tied (a ++ b) doc (sort (a ++ b) docs)
    _ = tied a doc (tied b doc docs) := by rw [tied_sort, tied_append]
    _ = tied a doc (tied b doc (sort b docs)) := by rw [tied_sort]
    _ = tied b doc (tied a doc (sort a (sort b docs))) := by rw [tied_comm, tied_sort a]
    _ = tied (a ++ b) doc (sort a (sort b docs)) := by rw [tied_comm, tied_append]

/-- Whether two documents hold equal values, or nothing both, at all fields to sort by. -/
def equalAt (keys : FieldMap Direction) (x y : Value) : Bool :=
  keys.keys.all fun field => orderMissing (resolve (parse field) x) (resolve (parse field) y) == .eq

theorem orderAt_eq_iff (key : String × Direction) (x y : Value) : orderAt key x y = .eq ↔
    orderMissing (resolve (parse key.1) x) (resolve (parse key.1) y) = .eq := by
  obtain ⟨field, direction⟩ := key
  cases direction with
  | ascending => exact Iff.rfl
  | descending => exact Ordering.swap_eq_eq

theorem orderBy_eq_iff_equalAt (keys : FieldMap Direction) (x y : Value) :
    orderBy keys x y = .eq ↔ equalAt keys x y = true := by
  induction keys with
  | nil => exact iff_of_true rfl rfl
  | cons key rest ih =>
      have hall : equalAt (key :: rest) x y
          = (orderMissing (resolve (parse key.1) x) (resolve (parse key.1) y) == .eq
              && equalAt rest x y) := rfl
      rw [orderBy_cons, compareLex, Ordering.then_eq_eq, orderAt_eq_iff, ih, hall, Bool.and_eq_true,
        beq_iff_eq]

theorem tied_eq_filter (keys : FieldMap Direction) (doc : Value) (docs : List Value) :
    tied keys doc docs = docs.filter (equalAt keys doc) := by
  refine List.filter_congr fun other _ => Bool.eq_iff_iff.mpr ?_
  rw [beq_iff_eq, orderBy_eq_iff_equalAt]

/-- **A merged sort is a sort with tie-breakers.** Two orderings in a row, behind stages that do not
end in a sort, leave one sort by the fields of both. If they have no field in common, this sort
gives what the sort by the second followed by the sort by the first gives: the documents in some
order, in which those that are equal at all fields stand as they stood. -/
theorem merged_sorts_break_ties [Filter.Engine] {a b : FieldMap Direction} (ha : a.DistinctKeys)
    (hb : b.DistinctKeys) (hab : a.keys.Disjoint b.keys) :
    (∀ (q : Query) (first second : SortSpec),
      (∀ earlier, q.stages.getLast? ≠ some (.sort earlier)) →
      first.compile = .ok a → second.compile = .ok b →
      ∃ q', q.calls [.orderBy first, .orderBy second] = .ok q' ∧
        q'.stages = q.stages ++ [.sort (a.merge b)]) ∧
    ∀ (s : Store) (docs : List Value), ∃ rows, s.apply [.sort (a.merge b)] docs = .ok rows ∧
      s.apply [.sort b, .sort a] docs = .ok rows ∧ rows.Perm docs ∧
      ∀ doc, rows.filter (equalAt (a.merge b) doc) = docs.filter (equalAt (a.merge b) doc) := by
  constructor
  · intro q first second hlast hfirst hsecond
    have hone : Query.pushSort q.stages a = q.stages ++ [.sort a] := by
      rcases Query.pushSort_cases q.stages a with ⟨before, earlier, hstages, -⟩ | ⟨-, hsort⟩
      · exact absurd (by rw [hstages, List.getLast?_concat]) (hlast earlier)
      · exact hsort
    have htwo : Query.pushSort (q.stages ++ [.sort a]) b = q.stages ++ [.sort (a.merge b)] :=
      Query.pushSort_append b q.stages (List.cons_ne_nil _ _)
    refine ⟨{ q with stages := Query.pushSort (Query.pushSort q.stages a) b }, ?_,
      by rw [hone, htwo]⟩
    rw [Query.calls_cons, Query.call, Query.orderBy, hfirst, ok_bind, pure_eq_ok, ok_bind,
      Query.calls_cons, Query.call, Query.orderBy, hsecond]
    rfl
  · have hkeys : (a ++ b : FieldMap Direction).DistinctKeys := by
      rw [FieldMap.DistinctKeys, FieldMap.keys, List.map_append]
      exact List.nodup_append.mpr ⟨ha, hb, fun x hx y hy hxy => hab hx (hxy ▸ hy)⟩
    intro s docs
    rw [FieldMap.merge_eq_append hkeys]
    refine ⟨sort (a ++ b) docs, apply_sort s _ docs, ?_, sort_perm _ docs, fun doc => ?_⟩
    · rw [apply_sort_cons, apply_sort, sort_append]
    · rw [← tied_eq_filter, ← tied_eq_filter, tied_sort]

/-- Three games, the last of which is tied with the first. -/
def threeGames : List Value := [sampleGames.1, sampleGames.2.2, sampleGames.2.1]

/-- A fresh query on the games. -/
def gameQuery : Query := { entity := "Game", schema := { resolve := fun _ _ => .plain } }

attribute [local instance] Filter.regexEngine

theorem merged_sorts_break_ties_threeGames :
    let a : FieldMap Direction := [("team", .descending)]
    let b : FieldMap Direction := [("points", .ascending)]
    a.DistinctKeys ∧ b.DistinctKeys ∧ a.keys.Disjoint b.keys ∧
    (∃ q', gameQuery.calls [.orderBy (.pairList a), .orderBy (.tokenList ["points"])] = .ok q' ∧
      q'.stages = [.sort [("team", .descending), ("points", .ascending)]]) ∧
    ∃ rows, ({} : Store).apply [.sort (a.merge b)] threeGames = .ok rows ∧
      ({} : Store).apply [.sort b, .sort a] threeGames = .ok rows ∧
      (rows.filter (equalAt (a.merge b) sampleGames.1)).length = 2 := by
  intro a b
  have ha : a.DistinctKeys := by decide
  have hb : b.DistinctKeys := by decide
  have hab : a.keys.Disjoint b.keys := by simp [a, b, FieldMap.keys]
  obtain ⟨hcalls, hrows⟩ := merged_sorts_break_ties ha hb hab
  obtain ⟨rows, hmerged, hsorts, -, hties⟩ := hrows {} threeGames
  have htwo : (threeGames.filter (equalAt (a.merge b) sampleGames.1)).length = 2 := by
    decide +kernel
  refine ⟨ha, hb, hab, ?_, rows, hmerged, hsorts, by rw [hties, htwo]⟩
  exact hcalls gameQuery (.pairList a) (.tokenList ["points"]) (by simp [gameQuery]) rfl rfl

end Store

end DocQuery
