import DocQuery.Proofs.Store.Rowwise
import DocQuery.Proofs.Value.Order

/-!
# Sorted documents

The order of documents by some fields is a total preorder, since the order of values is. So a sort
brings documents into this order, and leaves those that the fields do not tell apart in the order
they had (`tied_sort`). No other list does both (`eq_of_tied`), which is how two ways to sort are
compared.

When every document stands where the rows made of it stand, it makes no difference whether the
documents or their rows are sorted (`sort_flatMap`). So a sort may be exchanged with stages that
treat documents one by one and do not change what it sorts by (`sort_commutes`).
-/

namespace DocQuery

namespace Store

open Value (orderMissing SameStructure)

variable {keys : FieldMap Direction} {doc row other : Value} {docs docs' : List Value}

/-! ## The order of documents -/

/-- The order of two documents by one field. -/
def orderAt (key : String × Direction) (x y : Value) : Ordering :=
  key.2.apply (Value.orderMissing (Path.resolve (Path.parse key.1) x)
    (Path.resolve (Path.parse key.1) y))

theorem orderBy_cons (key : String × Direction) (rest : FieldMap Direction) :
    orderBy (key :: rest) = compareLex (orderAt key) (orderBy rest) := rfl

instance (key : String × Direction) : Std.TransCmp (orderAt key) := by
  obtain ⟨field, direction⟩ := key
  let read (doc : Value) := Path.resolve (Path.parse field) doc
  have hread : Std.TransCmp fun x y => Value.orderMissing (read x) (read y) :=
    { eq_swap := Std.OrientedCmp.eq_swap, isLE_trans := Std.TransCmp.isLE_trans }
  cases direction with
  | ascending => exact hread
  | descending =>
      have hswap : orderAt (field, .descending)
          = fun x y => Value.orderMissing (read y) (read x) := by
        funext x y
        exact Std.OrientedCmp.eq_swap.symm
      rw [hswap]
      exact hread.opposite

instance (keys : FieldMap Direction) : Std.TransCmp (orderBy keys) := by
  induction keys with
  | nil => exact { eq_swap := rfl, isLE_trans := fun _ _ => rfl }
  | cons key rest ih =>
      rw [orderBy_cons]
      exact inferInstance

/-- **Values are totally preordered, and so are documents by fields.** Exchanging two values, of
which either may be missing, swaps their order. The order is transitive, a missing value comes
strictly before every other, and two values are equal in it just when both are missing or they have
the same structure, where numbers count as the doubles they convert to. So documents are totally
preordered by any fields to sort by, whatever their directions. -/
theorem values_totally_preordered :
    (∀ a b : Option Value, orderMissing b a = (orderMissing a b).swap) ∧
    (∀ a b c : Option Value,
      (orderMissing a b).isLE → (orderMissing b c).isLE → (orderMissing a c).isLE) ∧
    (∀ v : Value, orderMissing none (some v) = .lt) ∧
    (∀ a b : Option Value, orderMissing a b = .eq ↔ Option.Rel SameStructure a b) ∧
    (∀ (keys : FieldMap Direction) (x y : Value), orderBy keys y x = (orderBy keys x y).swap) ∧
    (∀ (keys : FieldMap Direction) (x y z : Value),
      (orderBy keys x y).isLE → (orderBy keys y z).isLE → (orderBy keys x z).isLE) :=
  ⟨fun _ _ => Std.OrientedCmp.eq_swap, fun _ _ _ => Std.TransCmp.isLE_trans, fun _ => rfl,
    fun _ _ => Value.orderMissing_eq_iff, fun _ _ _ => Std.OrientedCmp.eq_swap,
    fun _ _ _ _ => Std.TransCmp.isLE_trans⟩

/-- Games, of which two have points with the same double and the third has no team. -/
def sampleGames : Value × Value × Value :=
  (.object [("team", .string "b"), ("points", .array [.ofInt 9007199254740993])],
    .object [("team", .string "b"), ("points", .array [.ofInt 9007199254740992])],
    .object [("points", .bool true)])

theorem values_totally_preordered_sampleGames :
    let (x, y, z) := sampleGames
    let keys : FieldMap Direction := [("team", .descending), ("points", .ascending)]
    ((orderMissing none (some z)).isLE ∧ (orderMissing (some z) (some x)).isLE ∧
      (orderMissing none (some x)).isLE) ∧
    ((orderBy keys x y).isLE ∧ (orderBy keys y z).isLE ∧ (orderBy keys x z).isLE) := by
  obtain ⟨-, hvalues, -, -, -, hdocuments⟩ := values_totally_preordered
  have hzx : (orderMissing (some sampleGames.2.2) (some sampleGames.1)).isLE := by decide +kernel
  have hxy : (orderBy [("team", .descending), ("points", .ascending)] sampleGames.1
      sampleGames.2.1).isLE := by decide +kernel
  have hyz : (orderBy [("team", .descending), ("points", .ascending)] sampleGames.2.1
      sampleGames.2.2).isLE := by decide +kernel
  exact ⟨⟨rfl, hzx, hvalues _ _ _ rfl hzx⟩, hxy, hyz, hdocuments _ _ _ _ hxy hyz⟩

/-! ## What a sort does -/

/-- Documents in the order by some fields. -/
def Sorted (keys : FieldMap Direction) (docs : List Value) : Prop :=
  docs.Pairwise fun x y => (orderBy keys x y).isLE = true

/-- The documents that the fields do not tell from a given one. -/
def tied (keys : FieldMap Direction) (doc : Value) (docs : List Value) : List Value :=
  docs.filter fun other => orderBy keys doc other == .eq

theorem isLE_eq_ne_gt (o : Ordering) : (o != .gt) = o.isLE := by
  cases o <;> rfl

theorem isLE_total (keys : FieldMap Direction) (x y : Value) :
    ((orderBy keys x y).isLE || (orderBy keys y x).isLE) = true := by
  have hswap : orderBy keys x y = (orderBy keys y x).swap := Std.OrientedCmp.eq_swap
  rw [hswap]
  cases orderBy keys y x <;> rfl

theorem sort_eq_mergeSort (keys : FieldMap Direction) (docs : List Value) :
    sort keys docs = docs.mergeSort fun x y => (orderBy keys x y).isLE := by
  simp only [sort, isLE_eq_ne_gt]

theorem sorted_sort (keys : FieldMap Direction) (docs : List Value) :
    Sorted keys (sort keys docs) := by
  rw [sort_eq_mergeSort]
  exact List.pairwise_mergeSort (fun _ _ _ => Std.TransCmp.isLE_trans) (isLE_total keys) docs

theorem mem_tied : other ∈ tied keys doc docs ↔ other ∈ docs ∧ orderBy keys doc other = .eq := by
  rw [tied, List.mem_filter, beq_iff_eq]

theorem tied_cons_of_eq (h : orderBy keys doc other = .eq) (rest : List Value) :
    tied keys doc (other :: rest) = other :: tied keys doc rest :=
  List.filter_cons_of_pos (beq_iff_eq.mpr h)

theorem tied_cons_of_ne (h : orderBy keys doc other ≠ .eq) (rest : List Value) :
    tied keys doc (other :: rest) = tied keys doc rest :=
  List.filter_cons_of_neg (mt beq_iff_eq.mp h)

/-- A sort keeps the order of documents that the fields do not tell apart. -/
theorem tied_sort (keys : FieldMap Direction) (doc : Value) (docs : List Value) :
    tied keys doc (sort keys docs) = tied keys doc docs := by
  have hsorted : Sorted keys (tied keys doc docs) := by
    refine List.pairwise_of_forall_mem_list fun x hx y hy => ?_
    have heq : orderBy keys doc y = orderBy keys x y := Std.TransCmp.congr_left (mem_tied.mp hx).2
    rw [← heq, (mem_tied.mp hy).2]
    rfl
  have hsub : (tied keys doc docs).Sublist (sort keys docs) := by
    rw [sort_eq_mergeSort]
    exact List.sublist_mergeSort (fun _ _ _ => Std.TransCmp.isLE_trans) (isLE_total keys) hsorted
      List.filter_sublist
  have hfiltered : (tied keys doc docs).Sublist (tied keys doc (sort keys docs)) := by
    have hself : tied keys doc (tied keys doc docs) = tied keys doc docs :=
      List.filter_eq_self.mpr fun other hother => beq_iff_eq.mpr (mem_tied.mp hother).2
    have hagain : (tied keys doc (tied keys doc docs)).Sublist (tied keys doc (sort keys docs)) :=
      hsub.filter _
    rwa [hself] at hagain
  exact (hfiltered.eq_of_length ((sort_perm keys docs).filter _).length_eq.symm).symm

theorem mem_of_tied (htied : ∀ doc, tied keys doc docs = tied keys doc docs') (h : doc ∈ docs) :
    doc ∈ docs' := by
  have hmem : doc ∈ tied keys doc docs := mem_tied.mpr ⟨h, Std.ReflCmp.compare_self⟩
  rw [htied doc] at hmem
  exact (mem_tied.mp hmem).1

theorem Sorted.isLE_head {first : Value} {rest : List Value} (h : Sorted keys (first :: rest))
    (hmem : doc ∈ first :: rest) : (orderBy keys first doc).isLE = true := by
  rcases List.mem_cons.mp hmem with rfl | hmem
  · exact Std.ReflCmp.isLE_rfl
  · exact List.rel_of_pairwise_cons h hmem

/-- Documents in order are the same if each document is tied with the same of them. -/
theorem eq_of_tied (h : Sorted keys docs) (h' : Sorted keys docs')
    (htied : ∀ doc, tied keys doc docs = tied keys doc docs') : docs = docs' := by
  induction docs generalizing docs' with
  | nil =>
      cases docs' with
      | nil => rfl
      | cons y ys => cases mem_of_tied (fun doc => (htied doc).symm) (List.mem_cons_self ..)
  | cons x xs ih =>
      cases docs' with
      | nil => cases mem_of_tied htied (List.mem_cons_self ..)
      | cons y ys =>
          have hle :=
            h.isLE_head (mem_of_tied (fun doc => (htied doc).symm) (List.mem_cons_self ..))
          have hle' := h'.isLE_head (mem_of_tied htied (List.mem_cons_self ..))
          have heq : orderBy keys x y = .eq := Std.OrientedCmp.isLE_antisymm hle hle'
          have hheads := htied x
          rw [tied_cons_of_eq Std.ReflCmp.compare_self, tied_cons_of_eq heq] at hheads
          obtain rfl := (List.cons.inj hheads).1
          refine congrArg (x :: ·) (ih h.of_cons h'.of_cons fun doc => ?_)
          have htails := htied doc
          by_cases hdoc : orderBy keys doc x = .eq
          · rw [tied_cons_of_eq hdoc, tied_cons_of_eq hdoc] at htails
            exact (List.cons.inj htails).2
          · rwa [tied_cons_of_ne hdoc, tied_cons_of_ne hdoc] at htails

/-! ## Rows of sorted documents -/

section Rows

variable {rows : Value → List Value} {stages : Pipeline} {out : List Value}

theorem tied_rows (h : ∀ row ∈ rows other, orderBy keys other row = .eq) (doc : Value) :
    tied keys doc (rows other) = if orderBy keys doc other = .eq then rows other else [] := by
  have hsame : ∀ row ∈ rows other, orderBy keys doc other = orderBy keys doc row :=
    fun row hrow => Std.TransCmp.congr_right (h row hrow)
  by_cases hother : orderBy keys doc other = .eq
  · rw [if_pos hother]
    exact List.filter_eq_self.mpr fun row hrow =>
      beq_iff_eq.mpr ((hsame row hrow).symm.trans hother)
  · rw [if_neg hother]
    refine List.filter_eq_nil_iff.mpr fun row hrow htied => hother ?_
    rw [hsame row hrow]
    exact beq_iff_eq.mp htied

theorem tied_flatMap (h : ∀ doc ∈ docs, ∀ row ∈ rows doc, orderBy keys doc row = .eq)
    (doc : Value) :
    tied keys doc (docs.flatMap rows) = (tied keys doc docs).flatMap rows := by
  induction docs with
  | nil => rfl
  | cons first rest ih =>
      have hrest := ih fun other hother => h other (List.mem_cons_of_mem _ hother)
      rw [List.flatMap_cons, tied, List.filter_append, ← tied, ← tied, hrest,
        tied_rows (h first (List.mem_cons_self ..))]
      by_cases hfirst : orderBy keys doc first = .eq
      · rw [if_pos hfirst, tied_cons_of_eq hfirst, List.flatMap_cons]
      · rw [if_neg hfirst, tied_cons_of_ne hfirst, List.nil_append]

theorem Sorted.flatMap (hdocs : Sorted keys docs)
    (h : ∀ doc ∈ docs, ∀ row ∈ rows doc, orderBy keys doc row = .eq) :
    Sorted keys (docs.flatMap rows) := by
  have hsame (x y : Value) (hx : x ∈ docs) (hy : y ∈ docs) (row row' : Value) (hrow : row ∈ rows x)
      (hrow' : row' ∈ rows y) : orderBy keys row row' = orderBy keys x y :=
    (Std.TransCmp.congr_left (h x hx row hrow)).symm.trans
      (Std.TransCmp.congr_right (h y hy row' hrow')).symm
  refine List.pairwise_flatMap.mpr ⟨fun x hx => ?_, ?_⟩
  · refine List.pairwise_of_forall_mem_list fun row hrow row' hrow' => ?_
    rw [hsame x x hx hx row row' hrow hrow']
    exact Std.ReflCmp.isLE_rfl
  · refine hdocs.imp_of_mem fun hx hy hle row hrow row' hrow' => ?_
    rwa [hsame _ _ hx hy row row' hrow hrow']

/-- Documents may be sorted instead of the rows made of them, if the fields do not tell these from
their documents. -/
theorem sort_flatMap (h : ∀ doc ∈ docs, ∀ row ∈ rows doc, orderBy keys doc row = .eq) :
    sort keys (docs.flatMap rows) = (sort keys docs).flatMap rows := by
  have hsort : ∀ doc ∈ sort keys docs, ∀ row ∈ rows doc, orderBy keys doc row = .eq :=
    fun doc hdoc => h doc ((sort_perm keys docs).mem_iff.mp hdoc)
  refine eq_of_tied (sorted_sort keys _) ((sorted_sort keys docs).flatMap hsort) fun doc => ?_
  rw [tied_sort, tied_flatMap h, tied_flatMap hsort, tied_sort]

/-- Stages that treat documents one by one may be exchanged with a sort, if its fields do not tell
the rows of a document from the document. -/
theorem sort_commutes [Filter.Engine] (s : Store) (hstages : Rowwise stages)
    (h : ∀ doc ∈ docs, ∀ rows, s.apply stages [doc] = .ok rows →
      ∀ row ∈ rows, orderBy keys doc row = .eq) :
    s.apply (stages ++ [.sort keys]) docs = .ok out ↔
      s.apply (.sort keys :: stages) docs = .ok out := by
  have hmem (doc : Value) : doc ∈ sort keys docs ↔ doc ∈ docs := (sort_perm keys docs).mem_iff
  have hsort (hall : ∀ doc ∈ docs, ∃ rows, s.apply stages [doc] = .ok rows) :
      sort keys (docs.flatMap (s.rowsOf stages)) = (sort keys docs).flatMap (s.rowsOf stages) := by
    refine sort_flatMap fun doc hdoc row hrow => ?_
    obtain ⟨rows, hrows⟩ := hall doc hdoc
    rw [rowsOf, hrows] at hrow
    exact h doc hdoc rows hrows row hrow
  rw [apply_append, apply_cons, applyStage, ok_bind]
  constructor
  · intro hrun
    obtain ⟨joined, hjoined, hlast⟩ := bind_eq_ok.mp hrun
    obtain ⟨hall, rfl⟩ := (apply_eq_ok_iff s hstages).mp hjoined
    rw [apply_singleton, applyStage] at hlast
    obtain rfl := Except.ok.inj hlast
    exact (apply_eq_ok_iff s hstages).mpr
      ⟨fun doc hdoc => hall doc ((hmem doc).mp hdoc), hsort hall⟩
  · intro hrun
    obtain ⟨hsorted, rfl⟩ := (apply_eq_ok_iff s hstages).mp hrun
    have hall := fun doc hdoc => hsorted doc ((hmem doc).mpr hdoc)
    refine bind_eq_ok.mpr ⟨_, (apply_eq_ok_iff s hstages).mpr ⟨hall, rfl⟩, ?_⟩
    rw [apply_singleton, applyStage, hsort hall]

/-- Fields that read the same do not tell documents apart. -/
theorem orderBy_of_resolve (h : ∀ field ∈ keys.keys,
      Path.resolve (Path.parse field) doc = Path.resolve (Path.parse field) row) :
    orderBy keys doc row = .eq := by
  induction keys with
  | nil => rfl
  | cons key rest ih =>
      have hfirst : orderAt key doc row = orderAt key doc doc := by
        rw [orderAt, orderAt, h key.1 (List.mem_cons_self ..)]
      have hself : orderAt key doc doc = .eq := Std.ReflCmp.compare_self
      rw [orderBy_cons, compareLex, hfirst, hself]
      exact ih fun field hfield => h field (List.mem_cons_of_mem _ hfield)

end Rows

end Store

end DocQuery
