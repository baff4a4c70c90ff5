import DocQuery.Filter.RegexEngine
import DocQuery.Query.Run
import DocQuery.Store.Evaluate
import DocQuery.Proofs.Store.Documents
import Mathlib.Algebra.Ring.Nat
import Mathlib.Order.Bounds.Basic

/-!
# Pages partition the rows

A page is one run of a facet: its data branch ends in the window of the page, its total branch
counts what the accumulated stages leave. Both branches start with the same stages, and a projection
changes rows one by one, so the count is the number of rows of the query without a window
(`length_of_apply_finalize`).

`page_run` puts this into one equation: a page is made from the rows without a window by dropping
and taking. The window saturates at the largest unsigned integer of 64 bits, which no list shorter
than that can tell (`drop_skip`), and the chunks of a list put together are the list
(`flatMap_chunks`). The last theorem collects the parts.
-/

namespace DocQuery

/-! ## Windows -/

namespace PageWindow

@[simp] theorem ofRequest_page_succ (k : Nat) (perPage : Int) :
    (ofRequest (k + 1) perPage).page = k + 1 := by
  simp only [ofRequest]
  omega

theorem ofRequest_perPage {page perPage : Int} (h : 1 ≤ perPage) :
    ((ofRequest page perPage).perPage : Int) = perPage := by
  simp only [ofRequest]
  omega

theorem one_le_perPage (page perPage : Int) : 1 ≤ (ofRequest page perPage).perPage := by
  simp only [ofRequest]
  omega

/-- Saturation of the skipped rows cannot be told on a list that ends before. -/
theorem drop_skip {α : Type} (w : PageWindow) {rows : List α} (h : rows.length ≤ maxUnsigned) :
    rows.drop w.skip = rows.drop ((w.page - 1) * w.perPage) := by
  rcases Nat.le_total ((w.page - 1) * w.perPage) maxUnsigned with hle | hge
  · rw [skip, Nat.min_eq_left hle]
  · rw [skip, Nat.min_eq_right hge, List.drop_eq_nil_of_le h,
      List.drop_eq_nil_of_le (h.trans hge)]

end PageWindow

/-- The first chunks of a list put together are the beginning of the list. -/
theorem flatMap_chunks {α : Type} (rows : List α) (width n : Nat) :
    (List.range n).flatMap (fun k => (rows.drop (k * width)).take width)
      = rows.take (n * width) := by
  induction n with
  | zero => simp
  | succ n ih =>
      rw [List.range_succ, List.flatMap_append, ih, List.flatMap_singleton, Nat.succ_mul,
        List.take_add]

namespace Page

theorem le_pagesFor_mul (total : Nat) {perPage : Nat} (h : 1 ≤ perPage) :
    total ≤ pagesFor total perPage * perPage := by
  have hdiv := Nat.lt_div_mul_add (a := total + (perPage - 1)) h
  have hmax : (total + (perPage - 1)) / perPage ≤ pagesFor total perPage := Nat.le_max_left ..
  have hmul := Nat.mul_le_mul_right perPage hmax
  omega

/-- The number of pages is the least one, at least one, that holds all rows. -/
theorem pagesFor_isLeast (total : Nat) {perPage : Nat} (h : 1 ≤ perPage) :
    IsLeast {n | 1 ≤ n ∧ total ≤ n * perPage} (pagesFor total perPage) := by
  refine ⟨⟨Nat.le_max_right .., le_pagesFor_mul total h⟩, ?_⟩
  rintro n ⟨hn, htotal⟩
  refine Nat.max_le.mpr ⟨?_, hn⟩
  have hlt : total + (perPage - 1) < (n + 1) * perPage := by
    rw [Nat.succ_mul]
    omega
  exact Nat.lt_succ_iff.mp (Nat.div_lt_of_lt_mul (Nat.mul_comm (n + 1) perPage ▸ hlt))

/-- The page that a window cuts out of some rows. -/
def cut (w : PageWindow) (rows : List Document) : Page :=
  .make ((rows.drop w.skip).take w.perPage) w.page w.perPage rows.length

@[simp] theorem total_cut (w : PageWindow) (rows : List Document) :
    (cut w rows).total = rows.length := rfl

theorem totalPages_cut (rows : List Document) (page perPage : Int) :
    (cut (.ofRequest page perPage) rows).totalPages
      = pagesFor rows.length (PageWindow.ofRequest page perPage).perPage := by
  simp only [cut, make, Nat.max_eq_left (PageWindow.one_le_perPage page perPage)]

theorem data_cut (w : PageWindow) {rows : List Document} (h : rows.length ≤ maxUnsigned) :
    (cut w rows).data = (rows.drop ((w.page - 1) * w.perPage)).take w.perPage := by
  rw [← PageWindow.drop_skip w h]
  rfl

end Page

/-! ## The three pipelines -/

namespace Store

theorem finalize_window (q : Query) (skip limit : Nat) :
    q.finalize ⟨some skip, some limit⟩ = q.finalize {} ++ [.skip skip, .limit limit] := by
  simp [Query.finalize]

theorem apply_window [Filter.Engine] (s : Store) (skip limit : Nat) (docs : List Value) :
    s.apply [.skip skip, .limit limit] docs = .ok ((docs.drop skip).take limit) := by
  rw [apply_cons, applyStage, ok_bind, apply_singleton, applyStage]

/-- A projection behind the accumulated stages keeps the number of rows. -/
theorem length_of_apply_finalize [Filter.Engine] {s : Store} {q : Query} {docs out : List Value}
    (h : s.apply (q.finalize {}) docs = .ok out) :
    ∃ mid, s.apply q.stages docs = .ok mid ∧ mid.length = out.length := by
  have hstages : q.finalize {} = q.stages ++ (q.projection.map Stage.project).toList := by
    simp [Query.finalize]
  rw [hstages, apply_append] at h
  obtain ⟨mid, hmid, h⟩ := bind_eq_ok.mp h
  refine ⟨mid, hmid, ?_⟩
  cases hp : q.projection with
  | none =>
      rw [hp] at h
      exact congrArg List.length (Except.ok.inj h)
  | some flags =>
      rw [hp] at h
      rw [Option.map_some, Option.toList_some, apply_singleton, applyStage] at h
      obtain ⟨f, rfl⟩ := project_eq_ok h
      exact (List.length_map ..).symm

end Store

/-! ## Reading the answer -/

namespace Query

theorem countOf?_ofNat (n : Nat) : countOf? (.ofNat n) = some n := by
  simp [countOf?, Value.ofNat, Number.natural?]

theorem readCount_count (field : String) (docs : List Value) :
    readCount field ((Store.count field docs).filterMap Value.fields?) = docs.length := by
  cases docs with
  | nil => rfl
  | cons doc rest =>
      simp [Store.count, Value.fields?, readCount, FieldMap.get?, countOf?_ofNat]

theorem readTotal_count (docs : List Value) :
    readTotal (.array (Store.count totalField docs)) = docs.length := by
  cases docs with
  | nil => rfl
  | cons doc rest =>
      simp [Store.count, Value.fields?, readTotal, FieldMap.get?, countOf?_ofNat]

/-- The answer of a facet is read back branch by branch. -/
theorem readPage_branches (w : PageWindow) (rows : List Document) (docs : List Value) :
    readPage w [[(dataBranch, .array (rows.map Value.object)),
        (totalBranch, .array (Store.count totalField docs))]]
      = .make rows w.page w.perPage docs.length := by
  have hdata : readData (some (.array (rows.map Value.object))) = rows :=
    Value.filterMap_fields?_map_object rows
  simp only [readPage, List.head?_cons, Option.getD_some, FieldMap.get?, dataBranch, totalBranch,
    if_true, hdata, String.reduceEq, if_false, Option.map_some, readTotal_count]

section Run

variable [Filter.Engine] {s : Store} {q : Query}

/-- A count is the number of rows without a window. -/
theorem count_of_run (hs : s.HoldsObjects) {rows : List Document}
    (h : s.run q.collection (q.finalize {}) = .ok rows) : q.count s.run = .ok rows.length := by
  obtain ⟨mid, hmid, hlength⟩ := Store.length_of_apply_finalize (Store.run_eq_ok hs h)
  have hcount : s.apply q.countPipeline (s.documents q.collection)
      = .ok (Store.count countField mid) := by
    rw [countPipeline, Store.apply_append, hmid, ok_bind, Store.apply_singleton, Store.applyStage]
  rw [count, Store.run_of_apply hcount, map_ok, readCount_count, hlength, List.length_map]

/-- The data branch runs first, so a page fails as the rows without a window do. -/
theorem page_of_run_error {e : StoreError} (h : s.run q.collection (q.finalize {}) = .error e)
    (page perPage : Int) : q.page s.run page perPage = .error e := by
  have hrows := Store.run_eq_error.mp h
  have hfacet (w : PageWindow) : s.run q.collection (q.pagePipeline w) = .error e := by
    rw [Store.run_eq_error, pagePipeline, Store.apply_cons, Store.applyStage,
      Store.applyBranches, Store.finalize_window, Store.apply_append, hrows]
    rfl
  rw [Query.page, hfacet]
  rfl

/-- A page is cut from the rows without a window. -/
theorem page_of_run (hs : s.HoldsObjects) {rows : List Document}
    (h : s.run q.collection (q.finalize {}) = .ok rows) (page perPage : Int) :
    q.page s.run page perPage = .ok (.cut (.ofRequest page perPage) rows) := by
  let w := PageWindow.ofRequest page perPage
  have hrows := Store.run_eq_ok hs h
  obtain ⟨mid, hmid, hlength⟩ := Store.length_of_apply_finalize hrows
  have hdata : s.apply (q.finalize ⟨some w.skip, some w.perPage⟩) (s.documents q.collection)
      = .ok (((rows.drop w.skip).take w.perPage).map Value.object) := by
    rw [Store.finalize_window, Store.apply_append, hrows, ok_bind, Store.apply_window,
      List.map_take, List.map_drop]
  have htotal : s.apply (q.stages ++ [.count totalField]) (s.documents q.collection)
      = .ok (Store.count totalField mid) := by
    rw [Store.apply_append, hmid, ok_bind, Store.apply_singleton, Store.applyStage]
  have hfacet : s.apply (q.pagePipeline w) (s.documents q.collection)
      = .ok [.object [(dataBranch, .array (((rows.drop w.skip).take w.perPage).map Value.object)),
        (totalBranch, .array (Store.count totalField mid))]] := by
    rw [pagePipeline, Store.apply_cons, Store.applyStage, Store.applyBranches, hdata, ok_bind,
      Store.applyBranches, htotal, ok_bind, Store.applyBranches]
    rfl
  have hanswer := Store.run_of_apply hfacet
  rw [List.filterMap_cons, Value.fields?, List.filterMap_nil] at hanswer
  rw [Query.page, hanswer, map_ok, readPage_branches, hlength, List.length_map, Page.cut]

/-! ## The partition -/

/-- **Pages partition the rows.** Let a query without its window give `rows`. Then every page
reports the count and the least number of pages that hold them, the pages up to that number put
together are `rows`, and the pages behind it are empty. Where the rows fail, every page fails in the
same way. The window that is stored in the query plays no part. -/
theorem pages_partition (hs : s.HoldsObjects) (q : Query) {perPage : Int} (hper : 1 ≤ perPage) :
    (∀ e, s.run q.collection (q.finalize {}) = .error e →
      ∀ page, q.page s.run page perPage = .error e) ∧
    (∀ rows, s.run q.collection (q.finalize {}) = .ok rows → rows.length < 2 ^ 63 →
      q.count s.run = .ok rows.length ∧
      ∃ (pageAt : Int → Page) (last : Nat),
        (∀ page, q.page s.run page perPage = .ok (pageAt page)) ∧
        IsLeast {n : Nat | 1 ≤ n ∧ (rows.length : Int) ≤ n * perPage} last ∧
        (∀ page, (pageAt page).total = rows.length ∧ (pageAt page).totalPages = last) ∧
        (List.range last).flatMap (fun k : Nat => (pageAt (k + 1)).data) = rows ∧
        ∀ page : Int, last < page → (pageAt page).data = []) := by
  refine ⟨fun e he page => page_of_run_error he page perPage, ?_⟩
  intro rows hrows hfew
  have hbound : rows.length ≤ maxUnsigned := by
    rw [maxUnsigned]
    omega
  obtain ⟨width, rfl⟩ := Int.eq_ofNat_of_zero_le (show 0 ≤ perPage by omega)
  have hwidth : 1 ≤ width := by omega
  have hwindow (page : Int) : (PageWindow.ofRequest page width).perPage = width := by
    exact_mod_cast PageWindow.ofRequest_perPage hper
  have hdata (page : Int) : (Page.cut (.ofRequest page width) rows).data
      = (rows.drop (((PageWindow.ofRequest page width).page - 1) * width)).take width := by
    rw [Page.data_cut _ hbound, hwindow]
  have hholds := Page.le_pagesFor_mul rows.length hwidth
  refine ⟨count_of_run hs hrows, fun page => .cut (.ofRequest page width) rows,
    Page.pagesFor rows.length width, fun page => page_of_run hs hrows page width, ?_, ?_, ?_, ?_⟩
  · exact_mod_cast Page.pagesFor_isLeast rows.length hwidth
  · intro page
    exact ⟨rfl, by rw [Page.totalPages_cut, hwindow]⟩
  · have hchunk (k : Nat) : (Page.cut (.ofRequest (k + 1) width) rows).data
        = (rows.drop (k * width)).take width := by
      rw [hdata, PageWindow.ofRequest_page_succ, Nat.add_sub_cancel]
    simp only [hchunk]
    rw [flatMap_chunks, List.take_of_length_le hholds]
  · intro page hpage
    have hbehind :
        Page.pagesFor rows.length width ≤ (PageWindow.ofRequest page width).page - 1 := by
      simp only [PageWindow.ofRequest]
      omega
    have hskipped := Nat.mul_le_mul_right width hbehind
    rw [hdata, List.drop_eq_nil_of_le (hholds.trans hskipped), List.take_nil]

end Run

/-- Four members, three of them with the same role. -/
def sampleMembers : Store :=
  ⟨[("members", [
    .object [("name", .string "Ada"), ("role", .string "admin")],
    .object [("name", .string "Bo"), ("role", .string "guest")],
    .object [("name", .string "Cy"), ("role", .string "admin")],
    .object [("name", .string "Di"), ("role", .string "admin")]])]⟩

/-- The names of the members of one role, with a window of its own. -/
def sampleAdmins : Query :=
  let members : Query := { entity := "Member", schema := { resolve := fun _ _ => .plain } }
  (((members.filterEquals "role" (.string "admin")).select ⟨["name"]⟩).skip 1).limit 1

attribute [local instance] Filter.regexEngine

theorem pages_partition_sampleAdmins :
    sampleMembers.HoldsObjects ∧
    ∃ (pageAt : Int → Page) (last : Nat),
      (∀ page, sampleAdmins.page sampleMembers.run page 2 = .ok (pageAt page)) ∧
      IsLeast {n : Nat | 1 ≤ n ∧ (3 : Int) ≤ n * 2} last ∧
      (List.range last).flatMap (fun k : Nat => (pageAt (k + 1)).data)
        = [[("name", .string "Ada")], [("name", .string "Cy")], [("name", .string "Di")]] := by
  have hs : sampleMembers.HoldsObjects := by decide
  have hrows : sampleMembers.run sampleAdmins.collection (sampleAdmins.finalize {})
      = .ok [[("name", .string "Ada")], [("name", .string "Cy")], [("name", .string "Di")]] := rfl
  obtain ⟨-, pageAt, last, hpages, hleast, -, hconcat, -⟩ :=
    (pages_partition hs sampleAdmins (show (1 : Int) ≤ 2 by decide)).2 _ hrows (by decide)
  exact ⟨hs, pageAt, last, hpages, hleast, hconcat⟩

end Query

end DocQuery
