import DocQuery.Proofs.Query.Pages
import DocQuery.Proofs.Value.Parts

/-!
# The numbers of a page

A page is a few numbers beside its rows, and these are computed in two ways here. The first is
without bounds: the number of pages is the least one that holds all rows, and a page follows if and
only if the rows up to this one are not all (`lt_pagesFor_iff`). The second is in words of 64 bits,
step by step, where a step has no result if it leaves the words or divides by zero (`word?`,
`ceilDiv?`); only the product of the window saturates.

A request of signed words has all its steps (`ofRequest?_eq`, `skip?_eq`, `make?_eq`), since a count
that is read from an answer is a word, whatever the answer holds (`countOf?_le`).
-/

namespace DocQuery

/-! ## Steps in words -/

/-- The result of a step in words of 64 bits without a sign, if it is one. -/
def word? (n : Int) : Option Nat := if 0 ≤ n ∧ n ≤ maxUnsigned then some n.toNat else none

/-- A quotient rounded up: one more than the quotient where a remainder is left. -/
def ceilDiv? (total perPage : Nat) : Option Nat :=
  if perPage = 0 then none
  else if total % perPage = 0 then some (total / perPage)
  else word? (total / perPage + 1 : Nat)

/-- The window of a request, computed in words. -/
def PageWindow.ofRequest? (page perPage : Int) : Option PageWindow := do
  return ⟨← word? (max page 1), ← word? (max perPage 1)⟩

/-- The skipped rows, computed in words. A product that is too large counts as the largest word. -/
def PageWindow.skip? (w : PageWindow) : Option Nat := do
  let before ← word? (w.page - 1)
  return (word? (before * w.perPage : Nat)).getD maxUnsigned

/-- The page with its number of pages, computed in words. -/
def Page.make? (data : List Document) (page perPage total : Nat) : Option Page := do
  let perPage := max perPage 1
  return ⟨data, page, perPage, total, max (← ceilDiv? total perPage) 1⟩

theorem word?_natCast {n : Nat} (h : n ≤ maxUnsigned) : word? n = some n := by
  rw [word?, if_pos (by omega), Int.toNat_natCast]

theorem word?_natCast_of_lt {n : Nat} (h : maxUnsigned < n) : word? n = none := by
  rw [word?, if_neg (by omega)]

/-- A quotient is rounded up by adding one if there is a remainder. -/
theorem div_add_pred (total : Nat) {perPage : Nat} (h : 1 ≤ perPage) :
    (total + (perPage - 1)) / perPage
      = if total % perPage = 0 then total / perPage else total / perPage + 1 := by
  have hround := Nat.div_add_mod total perPage
  have hlt := Nat.mod_lt total h
  split
  · refine Nat.div_eq_of_lt_le ?_ ?_
    · rw [Nat.mul_comm]
      omega
    · rw [Nat.succ_mul, Nat.mul_comm]
      omega
  · refine Nat.div_eq_of_lt_le ?_ ?_
    · rw [Nat.succ_mul, Nat.mul_comm]
      omega
    · rw [Nat.succ_mul, Nat.succ_mul, Nat.mul_comm]
      omega

/-- Rounding up does not leave the words: a divisor that leaves a remainder is at least two. -/
theorem ceilDiv?_eq {total perPage : Nat} (hper : 1 ≤ perPage) (htotal : total ≤ maxUnsigned) :
    ceilDiv? total perPage = some ((total + (perPage - 1)) / perPage) := by
  rw [ceilDiv?, if_neg (by omega), div_add_pred total hper]
  split
  · rfl
  · rename_i hrest
    -- A remainder is left, so the quotient is at most half of a word, and one more fits.
    have htwo : 2 ≤ perPage := by
      by_contra hone
      rw [show perPage = 1 by omega, Nat.mod_one] at hrest
      exact hrest rfl
    have hhalf : total / perPage ≤ total / 2 := Nat.div_le_div_left htwo (by decide)
    refine word?_natCast ?_
    rw [maxUnsigned] at htotal ⊢
    omega

namespace PageWindow

theorem ofRequest_page (page perPage : Int) :
    ((ofRequest page perPage).page : Int) = max page 1 := by
  simp only [ofRequest]
  omega

theorem ofRequest_perPage_eq (page perPage : Int) :
    ((ofRequest page perPage).perPage : Int) = max perPage 1 := by
  simp only [ofRequest]
  omega

theorem one_le_page (page perPage : Int) : 1 ≤ (ofRequest page perPage).page := by
  simp only [ofRequest]
  omega

/-- The skipped rows are those before the page, at most the largest word. -/
theorem skip_ofRequest (page perPage : Int) :
    ((ofRequest page perPage).skip : Int)
      = min ((max page 1 - 1) * max perPage 1) maxUnsigned := by
  have hbefore : (((ofRequest page perPage).page - 1 : Nat) : Int) = max page 1 - 1 := by
    rw [← ofRequest_page page perPage]
    exact Int.natCast_sub (one_le_page page perPage)
  rw [← hbefore, ← ofRequest_perPage_eq page perPage, ← Int.natCast_mul, skip, maxUnsigned]
  omega

theorem ofRequest?_eq {page perPage : Int} (hpage : Number.FitsSigned page)
    (hper : Number.FitsSigned perPage) :
    ofRequest? page perPage = some (ofRequest page perPage) := by
  have hword {n : Int} (h : Number.FitsSigned n) : word? (max n 1) = some (max n 1).toNat := by
    unfold Number.FitsSigned at h
    rw [word?, maxUnsigned, if_pos (by omega)]
  rw [ofRequest?, hword hpage, hword hper]
  rfl

theorem skip?_eq {w : PageWindow} (hpage : 1 ≤ w.page) (hword : w.page ≤ maxUnsigned) :
    w.skip? = some w.skip := by
  have hbefore : word? (w.page - 1) = some (w.page - 1) := by
    rw [show (w.page : Int) - 1 = (w.page - 1 : Nat) by omega]
    exact word?_natCast (by omega)
  rw [skip?, hbefore, skip]
  rcases Nat.lt_or_ge maxUnsigned ((w.page - 1) * w.perPage) with hlt | hle
  · show some ((word? _).getD _) = _
    rw [word?_natCast_of_lt hlt, Nat.min_eq_right hlt.le]
    rfl
  · show some ((word? _).getD _) = _
    rw [word?_natCast hle, Nat.min_eq_left hle]
    rfl

end PageWindow

namespace Page

theorem make?_eq {total : Nat} (htotal : total ≤ maxUnsigned) (data : List Document)
    (page perPage : Nat) : make? data page perPage total = some (make data page perPage total) := by
  rw [make?, ceilDiv?_eq (Nat.le_max_right ..) htotal]
  rfl

/-! ## Without bounds -/

/-- A page follows if and only if the rows of the pages up to this one are not all. -/
theorem lt_pagesFor_iff {page perPage total : Nat} (hpage : 1 ≤ page) (hper : 1 ≤ perPage) :
    page < pagesFor total perPage ↔ page * perPage < total := by
  obtain ⟨⟨-, hholds⟩, hleast⟩ := pagesFor_isLeast total hper
  constructor
  · intro hlt
    by_contra hall
    exact absurd (hleast ⟨hpage, Nat.not_lt.mp hall⟩) (Nat.not_le.mpr hlt)
  · intro hrows
    by_contra hlast
    have hmul := Nat.mul_le_mul_right perPage (Nat.not_lt.mp hlast)
    omega

/-- The numbers of a page, as they are without bounds, fit its request. -/
structure Exact (page perPage : Int) (p : Page) : Prop where
  page : (p.page : Int) = max page 1
  perPage : (p.perPage : Int) = max perPage 1
  totalPages : IsLeast {n : Nat | 1 ≤ n ∧ p.total ≤ n * p.perPage} p.totalPages
  hasNext : p.hasNext = true ↔ p.page * p.perPage < p.total
  hasPrevious : p.hasPrevious = true ↔ 1 < p.page

theorem exact_make (data : List Document) (page perPage : Int) (total : Nat) :
    (make data (PageWindow.ofRequest page perPage).page (PageWindow.ofRequest page perPage).perPage
      total).Exact page perPage := by
  refine ⟨PageWindow.ofRequest_page page perPage, ?_, ?_, ?_, ?_⟩
  · show ((max _ 1 : Nat) : Int) = _
    rw [Nat.max_eq_left (PageWindow.one_le_perPage page perPage), PageWindow.ofRequest_perPage_eq]
  · exact pagesFor_isLeast total (Nat.le_max_right ..)
  · rw [hasNext, decide_eq_true_iff]
    exact lt_pagesFor_iff (PageWindow.one_le_page page perPage) (Nat.le_max_right ..)
  · rw [hasPrevious, decide_eq_true_iff]

/-- The numbers of a page can be computed in words: no step leaves them, and none divides by
zero. -/
def InWords (page perPage : Int) (p : Page) : Prop :=
  p.total ≤ maxUnsigned ∧
  ∃ w, PageWindow.ofRequest? page perPage = some w ∧ w.skip? = some w.skip ∧
    make? p.data w.page w.perPage p.total = some p

theorem inWords_make {page perPage : Int} (hpage : Number.FitsSigned page)
    (hper : Number.FitsSigned perPage) (data : List Document) {total : Nat}
    (htotal : total ≤ maxUnsigned) :
    (make data (PageWindow.ofRequest page perPage).page (PageWindow.ofRequest page perPage).perPage
      total).InWords page perPage := by
  have hnumber := PageWindow.ofRequest_page page perPage
  have hword : (PageWindow.ofRequest page perPage).page ≤ maxUnsigned := by
    unfold Number.FitsSigned at hpage
    rw [maxUnsigned]
    omega
  have hskip := PageWindow.skip?_eq (PageWindow.one_le_page page perPage) hword
  exact ⟨htotal, _, PageWindow.ofRequest?_eq hpage hper, hskip, make?_eq htotal ..⟩

end Page

/-! ## Counts in an answer -/

/-- A count that can be read is a word. -/
theorem countOf?_le {v : Value} (hv : v.NumbersFit) {n : Nat} (h : countOf? v = some n) :
    n ≤ maxUnsigned := by
  cases v with
  | number number =>
      have hfits := hv.number
      unfold countOf? at h
      cases number with
      | int i =>
          by_cases hi : 0 ≤ i
          · simp only [Number.natural?, if_pos hi, Option.some.injEq] at h
            simp only [Number.Fits, Number.FitsInteger] at hfits
            rw [maxUnsigned]
            omega
          · simp only [Number.natural?, if_neg hi] at h
            split at h
            · exact Option.some.inj h ▸ Nat.min_le_right ..
            · cases h
      | double x =>
          simp only [Number.natural?] at h
          split at h
          · exact Option.some.inj h ▸ Nat.min_le_right ..
          · cases h
  | _ => cases h

namespace Query

/-- A count that is not there counts as zero. -/
theorem getD_zero_le {count : Option Nat} (h : ∀ n, count = some n → n ≤ maxUnsigned) :
    count.getD 0 ≤ maxUnsigned := by
  cases count with
  | none => exact Nat.zero_le _
  | some n => exact h n rfl

theorem readTotal_le {v : Value} (hv : v.NumbersFit) : readTotal v ≤ maxUnsigned := by
  cases v with
  | array rows =>
      refine getD_zero_le fun n hn => ?_
      obtain ⟨found, hfound, hcount⟩ := Option.bind_eq_some_iff.mp hn
      obtain ⟨fields, hfields, hget⟩ := Option.bind_eq_some_iff.mp hfound
      obtain ⟨row, hrow, hobject⟩ := Option.bind_eq_some_iff.mp hfields
      obtain rfl := Value.fields?_eq_some.mp hobject
      exact countOf?_le ((hv.item (List.mem_of_mem_head? hrow)).held hget) hcount
  | _ =>
      rw [readTotal]
      · exact getD_zero_le fun n hn => countOf?_le hv hn
      · rintro _ ⟨⟩

/-- The total of an answer is a word. -/
theorem total_readPage_le (w : PageWindow) {rows : List Document}
    (hrows : ∀ row ∈ rows, (Value.object row).NumbersFit) :
    (readPage w rows).total ≤ maxUnsigned := by
  show ((FieldMap.get? (rows.head?.getD []) totalBranch).map readTotal).getD 0 ≤ maxUnsigned
  cases hget : FieldMap.get? (rows.head?.getD []) totalBranch with
  | none => exact Nat.zero_le _
  | some v =>
      cases rows with
      | nil => cases hget
      | cons row rest => exact readTotal_le ((hrows row (List.mem_cons_self ..)).held hget)

/-- **The numbers of a page are exact.** A request for a page is sent with the window that its
numbers give without bounds, but for the skipped rows, which are at most the largest word. Whatever
rows are the answer, the page is numbered as it is without bounds; and for a request of signed words
its numbers can be computed in words, where no step wraps or divides by zero. -/
theorem page_numbers_exact (q : Query) {page perPage : Int} (hpage : Number.FitsSigned page)
    (hper : Number.FitsSigned perPage) :
    let w := PageWindow.ofRequest page perPage
    (w.skip : Int) = min ((max page 1 - 1) * max perPage 1) maxUnsigned ∧
    (w.perPage : Int) = max perPage 1 ∧
    (∀ {m : Type → Type} [Monad m] (run : Executor m), q.page run page perPage
      = readPage w <$> run q.collection
          [.facet [(dataBranch, q.finalize {} ++ [.skip w.skip, .limit w.perPage]),
            (totalBranch, q.stages ++ [.count totalField])]]) ∧
    ∀ rows, (readPage w rows).Exact page perPage ∧
      ((∀ row ∈ rows, (Value.object row).NumbersFit) → (readPage w rows).InWords page perPage) := by
  intro w
  refine ⟨PageWindow.skip_ofRequest page perPage,
    PageWindow.ofRequest_perPage_eq page perPage, ?_, ?_⟩
  · intro m _ run
    rw [← Store.finalize_window]
    rfl
  · intro rows
    exact ⟨Page.exact_make .., fun hrows =>
      Page.inWords_make hpage hper _ (total_readPage_le w hrows)⟩

/-- An answer without rows that reports the largest number of them. -/
def fullCount : Document :=
  [(dataBranch, .array []), (totalBranch, .array [.object [(totalField, .ofNat maxUnsigned)]])]

/-- Two of the largest pages hold all but one of the rows. -/
theorem page_numbers_exact_fullCount :
    Number.FitsSigned 2 ∧ Number.FitsSigned 0x7FFFFFFFFFFFFFFF ∧
    (∀ row ∈ [fullCount], (Value.object row).NumbersFit) ∧
    let p := readPage (.ofRequest 2 0x7FFFFFFFFFFFFFFF) [fullCount]
    p.total = maxUnsigned ∧ p.totalPages = 3 ∧ p.hasNext = true ∧
      p.InWords 2 0x7FFFFFFFFFFFFFFF := by
  have hpage : Number.FitsSigned 2 := by decide
  have hper : Number.FitsSigned 0x7FFFFFFFFFFFFFFF := by decide
  have hrows : ∀ row ∈ [fullCount], (Value.object row).NumbersFit := by decide
  obtain ⟨-, -, -, hread⟩ := page_numbers_exact sampleAdmins hpage hper
  obtain ⟨hexact, hwords⟩ := hread [fullCount]
  refine ⟨hpage, hper, hrows, rfl, rfl, hexact.hasNext.mpr ?_, hwords hrows⟩
  show 2 * 0x7FFFFFFFFFFFFFFF < maxUnsigned
  decide

end Query

end DocQuery
