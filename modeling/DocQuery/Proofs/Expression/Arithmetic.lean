import DocQuery.Proofs.Expression.Evaluate
import Mathlib.Algebra.BigOperators.Group.List.Basic
import Mathlib.Algebra.Order.BigOperators.Group.List
import Mathlib.Algebra.Order.Ring.Int
import Mathlib.Data.List.Infix

/-!
# Exact totals

`$add` and `$multiply` total their arguments from left to right in signed 64-bit integers, and start
over in doubles as soon as a partial result leaves that range. So it is not the total alone that
decides whether it is returned exactly: a sum comes back to the range after it left it, and a zero
makes a product small that was too large before. `eval_call` is the whole rule for arguments that
are integers, and the order of the arguments matters as far as it decides which partial results
there are.
-/

namespace DocQuery.Expression

open Number (FitsSigned)

variable {scope : Scope} {items : List Value} {value : Value → Int}

/-- An operation that totals any number of arguments. -/
inductive Totalling where
  | sum
  | product
  deriving Repr, DecidableEq

namespace Totalling

def operation : Totalling → Arithmetic
  | sum => .add
  | product => .multiply

def key : Totalling → String
  | sum => "$add"
  | product => "$multiply"

/-- The expression that totals the given ones. -/
def call (t : Totalling) (items : List Value) : Value := .object [(t.key, .array items)]

/-- The total of integers of any size. -/
def exact : Totalling → List Int → Int
  | sum, ints => ints.sum
  | product, ints => ints.prod

/-- The total computed in doubles, from left to right; null if it is not finite. -/
def inDoubles (t : Totalling) (ints : List Int) : Value :=
  let floats := ints.map fun i => (Number.int i).toFloat
  let total := match t with
    | sum => floats.foldl (· + ·) (-0.0)
    | product => floats.foldl (· * ·) 1.0
  ((Number.ofFloat? total).map Value.number).getD .null

/-- No partial result leaves the range of signed 64-bit integers. -/
def PartialsFit (t : Totalling) (ints : List Int) : Prop :=
  ∀ part ∈ ints.inits, FitsSigned (t.exact part)

instance (t : Totalling) (ints : List Int) : Decidable (t.PartialsFit ints) :=
  inferInstanceAs (Decidable (∀ part ∈ ints.inits, FitsSigned (t.exact part)))

/-! ## Partial results -/

theorem partialsFit_iff {t : Totalling} {ints : List Int} :
    t.PartialsFit ints ↔ ∀ part, part <+: ints → FitsSigned (t.exact part) := by
  simp only [PartialsFit, List.mem_inits]

theorem partialsFit_concat {t : Totalling} {ints : List Int} {i : Int} :
    t.PartialsFit (ints ++ [i]) ↔ t.PartialsFit ints ∧ FitsSigned (t.exact (ints ++ [i])) := by
  simp only [partialsFit_iff, List.prefix_concat_iff]
  constructor
  · intro h
    exact ⟨fun part hpart => h part (.inr hpart), h _ (.inl rfl)⟩
  · rintro ⟨hparts, hwhole⟩ part (rfl | hpart)
    · exact hwhole
    · exact hparts part hpart

/-- One more argument is added or multiplied to the total so far. -/
def step : Totalling → Int → Int → Int
  | sum, acc, i => acc + i
  | product, acc, i => acc * i

theorem exact_concat (t : Totalling) (ints : List Int) (i : Int) :
    t.exact (ints ++ [i]) = t.step (t.exact ints) i := by
  cases t <;> simp [exact, step]

theorem exact_perm {t : Totalling} {ints others : List Int} (h : ints.Perm others) :
    t.exact ints = t.exact others := by
  cases t with
  | sum => exact h.sum_eq
  | product => exact h.prod_eq

/-- The total so far is the exact one, or was given up at the first partial result out of range. -/
theorem foldlM_step (t : Totalling) (ints : List Int) :
    ints.foldlM (fun acc i => signed64? (t.step acc i)) (t.exact [])
      = if t.PartialsFit ints then some (t.exact ints) else none := by
  induction ints using List.reverseRecOn with
  | nil =>
      have hempty : t.PartialsFit [] := by cases t <;> decide
      rw [if_pos hempty]
      rfl
  | append_singleton ints i ih =>
      rw [List.foldlM_append, ih, exact_concat]
      by_cases hparts : t.PartialsFit ints
      · rw [if_pos hparts]
        show (signed64? (t.step (t.exact ints) i) >>= _) = _
        by_cases hwhole : FitsSigned (t.step (t.exact ints) i)
        · rw [signed64?, if_pos hwhole,
            if_pos (partialsFit_concat.mpr ⟨hparts, by rwa [exact_concat]⟩)]
          rfl
        · rw [signed64?, if_neg hwhole, if_neg fun h => hwhole ?_]
          · rfl
          · rw [← exact_concat]
            exact (partialsFit_concat.mp h).2
      · rw [if_neg hparts, if_neg fun h => hparts (partialsFit_concat.mp h).1]
        rfl

/-! ## Evaluation -/

theorem exactResult_ints (t : Totalling) {ints : List Int} (hfit : ∀ i ∈ ints, FitsSigned i) :
    exactResult t.operation (ints.map Number.int)
      = if t.PartialsFit ints then some (t.exact ints) else none := by
  have hsigned : (ints.map Number.int).mapM Number.signed? = some ints := by
    induction ints with
    | nil => rfl
    | cons i rest ih =>
        have hi : (Number.int i).signed? = some i := if_pos (hfit i (List.mem_cons_self ..))
        rw [List.map_cons, List.mapM_cons, hi, ih fun j hj => hfit j (List.mem_cons_of_mem _ hj)]
        rfl
  rw [← foldlM_step, exactResult, hsigned]
  cases t <;> rfl

theorem arithmeticResult_ints (t : Totalling) {ints : List Int} (hfit : ∀ i ∈ ints, FitsSigned i) :
    arithmeticResult t.key t.operation (ints.map Number.int)
      = .ok (if t.PartialsFit ints then .ofInt (t.exact ints) else t.inDoubles ints) := by
  rw [arithmeticResult, exactResult_ints t hfit]
  by_cases hparts : t.PartialsFit ints
  · rw [if_pos hparts, if_pos hparts]
  · rw [if_neg hparts, if_neg hparts]
    cases t <;> simp [doubleResult, operation, inDoubles, Function.comp_def]

theorem evalUntilNull_ints (key : String)
    (h : ∀ item ∈ items, eval scope item = .ok (some (.ofInt (value item)))) :
    evalUntilNull scope (requireNumber key) items
      = .ok (some ((items.map value).map Value.ofInt)) := by
  induction items with
  | nil => rfl
  | cons item rest ih =>
      rw [evalUntilNull, h item (List.mem_cons_self ..), ok_bind,
        ih fun other hother => h other (List.mem_cons_of_mem _ hother)]
      rfl

theorem eval_call_operands (t : Totalling) {operands : List Value}
    (h : evalUntilNull scope (requireNumber t.key) items = .ok (some operands)) :
    eval scope (t.call items)
      = some <$> arithmeticResult t.key t.operation (operands.filterMap Value.number?) := by
  cases t with
  | sum =>
      show (evalUntilNull scope (requireNumber Totalling.sum.key) items >>= _) = _
      rw [h, ok_bind]
      exact bind_ok_eq_map some _
  | product =>
      show (evalUntilNull scope (requireNumber Totalling.product.key) items >>= _) = _
      rw [h, ok_bind]
      exact bind_ok_eq_map some _

/-- A total of integers is exact when all partial results fit, and is computed in doubles
otherwise. -/
theorem eval_call (t : Totalling)
    (h : ∀ item ∈ items, eval scope item = .ok (some (.ofInt (value item))))
    (hfit : ∀ item ∈ items, FitsSigned (value item)) :
    eval scope (t.call items)
      = .ok (some (if t.PartialsFit (items.map value) then .ofInt (t.exact (items.map value))
          else t.inDoubles (items.map value))) := by
  have hnumbers (ints : List Int) :
      (ints.map Value.ofInt).filterMap Value.number? = ints.map Number.int := by
    rw [List.filterMap_map, ← List.filterMap_eq_map]
    rfl
  rw [t.eval_call_operands (evalUntilNull_ints t.key h), hnumbers,
    arithmeticResult_ints t (List.forall_mem_map.mpr hfit), map_ok]

theorem inDoubles_ne_ofInt (t : Totalling) (ints : List Int) (i : Int) :
    t.inDoubles ints ≠ .ofInt i := by
  have hvalue (x : Float) : ((Number.ofFloat? x).map Value.number).getD .null ≠ .ofInt i := by
    rw [Number.ofFloat?]
    split <;> simp [Value.ofInt]
  exact hvalue _

theorem eval_call_ne (t : Totalling)
    (h : ∀ item ∈ items, eval scope item = .ok (some (.ofInt (value item))))
    (hfit : ∀ item ∈ items, FitsSigned (value item)) (hparts : ¬t.PartialsFit (items.map value))
    (i : Int) : eval scope (t.call items) ≠ .ok (some (.ofInt i)) := by
  rw [t.eval_call h hfit, if_neg hparts]
  exact fun hi => t.inDoubles_ne_ofInt _ i (Option.some.inj (Except.ok.inj hi))

/-! ## Orders of the arguments -/

/-- Arguments whose partial results stay within the total: summands of one sign, or factors whose
product is neither zero nor the least integer, which has no opposite in the range. -/
def Steady : Totalling → List Int → Prop
  | sum, ints => (∀ i ∈ ints, 0 ≤ i) ∨ ∀ i ∈ ints, i ≤ 0
  | product, ints => ints.prod ≠ 0 ∧ ints.prod ≠ -0x8000000000000000

instance (t : Totalling) (ints : List Int) : Decidable (t.Steady ints) := by
  cases t <;> unfold Steady <;> infer_instance

theorem Steady.perm {t : Totalling} {ints others : List Int} (hperm : ints.Perm others)
    (h : t.Steady ints) : t.Steady others := by
  cases t with
  | sum =>
      exact h.imp (fun h i hi => h i (hperm.mem_iff.mpr hi))
        fun h i hi => h i (hperm.mem_iff.mpr hi)
  | product =>
      rw [Steady, ← hperm.prod_eq]
      exact h

theorem Steady.partialsFit {t : Totalling} {ints : List Int} (h : t.Steady ints)
    (hfit : FitsSigned (t.exact ints)) : t.PartialsFit ints := by
  refine partialsFit_iff.mpr ?_
  rintro part ⟨rest, rfl⟩
  unfold FitsSigned at hfit ⊢
  cases t with
  | sum =>
      simp only [exact, List.sum_append] at hfit ⊢
      rcases h with h | h
      · have hpart : 0 ≤ part.sum := List.sum_nonneg fun i hi => h i (List.mem_append_left _ hi)
        have hrest : 0 ≤ rest.sum := List.sum_nonneg fun i hi => h i (List.mem_append_right _ hi)
        omega
      · have hpart := List.sum_le_card_nsmul part 0 fun i hi => h i (List.mem_append_left _ hi)
        have hrest := List.sum_le_card_nsmul rest 0 fun i hi => h i (List.mem_append_right _ hi)
        rw [nsmul_zero] at hpart hrest
        omega
  | product =>
      obtain ⟨hzero, hleast⟩ := h
      simp only [exact, List.prod_append] at hfit hzero hleast ⊢
      have hrest : 0 < rest.prod.natAbs := Int.natAbs_pos.mpr (right_ne_zero_of_mul hzero)
      have hle : part.prod.natAbs ≤ (part.prod * rest.prod).natAbs := by
        rw [Int.natAbs_mul]
        exact Nat.le_mul_of_pos_right _ hrest
      omega

end Totalling

/-- A total of integers is returned exactly when no partial result leaves the range of signed 64-bit
integers, and is computed in doubles otherwise. Two orders of the arguments agree when the partial
results of both fit, which they do in every order if the total fits and the arguments are steady. -/
theorem total_is_exact_iff (t : Totalling)
    (h : ∀ item ∈ items, eval scope item = .ok (some (.ofInt (value item))))
    (hfit : ∀ item ∈ items, FitsSigned (value item)) :
    (eval scope (t.call items) = .ok (some (.ofInt (t.exact (items.map value)))) ↔
      t.PartialsFit (items.map value)) ∧
    (¬t.PartialsFit (items.map value) →
      eval scope (t.call items) = .ok (some (t.inDoubles (items.map value))) ∧
      ∀ i, t.inDoubles (items.map value) ≠ .ofInt i) ∧
    (∀ others, items.Perm others → t.PartialsFit (items.map value) →
      t.PartialsFit (others.map value) → eval scope (t.call others) = eval scope (t.call items)) ∧
    (t.Steady (items.map value) → FitsSigned (t.exact (items.map value)) →
      ∀ others, items.Perm others →
        eval scope (t.call others) = .ok (some (.ofInt (t.exact (items.map value))))) := by
  have hcall := t.eval_call h hfit
  have hothers {others : List Value} (hperm : items.Perm others)
      (hparts : t.PartialsFit (others.map value)) :
      eval scope (t.call others) = .ok (some (.ofInt (t.exact (items.map value)))) := by
    rw [t.eval_call (fun item hitem => h item (hperm.mem_iff.mpr hitem))
      fun item hitem => hfit item (hperm.mem_iff.mpr hitem), if_pos hparts,
      Totalling.exact_perm (hperm.map value)]
  refine ⟨⟨fun hexact => ?_, hothers (.refl _)⟩, fun hparts => ⟨?_, t.inDoubles_ne_ofInt _⟩, ?_, ?_⟩
  · by_contra hparts
    exact t.eval_call_ne h hfit hparts _ hexact
  · rw [hcall, if_neg hparts]
  · intro others hperm hparts hparts'
    rw [hothers hperm hparts', hothers (.refl _) hparts]
  · intro hsteady htotal others hperm
    refine hothers hperm ((hsteady.perm (hperm.map value)).partialsFit ?_)
    rwa [← Totalling.exact_perm (hperm.map value)]

/-- A document with a price and a stock, and the integer that an argument reading it evaluates
to. -/
def priced : Scope := ⟨.object [("price", .ofInt 1200), ("stock", .ofInt 10)], []⟩

def amount : Value → Int
  | .number (.int i) => i
  | .string "$price" => 1200
  | _ => 10

theorem total_is_exact_iff_priced :
    (∀ item ∈ [.string "$price", .string "$stock", .ofInt (-3)],
      eval priced item = .ok (some (.ofInt (amount item))) ∧ FitsSigned (amount item)) ∧
    Totalling.product.PartialsFit [1200, 10, -3] ∧ Totalling.product.Steady [1200, 10, -3] ∧
    eval priced (Totalling.product.call [.string "$price", .string "$stock", .ofInt (-3)])
      = .ok (some (.ofInt (-36000))) ∧
    eval priced (Totalling.product.call [.ofInt (-3), .string "$price", .string "$stock"])
      = .ok (some (.ofInt (-36000))) := by
  have hprice : eval priced (.string "$price") = .ok (some (.ofInt 1200)) := by
    rw [show "$price" = "$" ++ "price" from rfl, eval_field (by decide),
      Path.parse_of_undotted (by decide)]
    rfl
  have hstock : eval priced (.string "$stock") = .ok (some (.ofInt 10)) := by
    rw [show "$stock" = "$" ++ "stock" from rfl, eval_field (by decide),
      Path.parse_of_undotted (by decide)]
    rfl
  have hargs : ∀ item ∈ [Value.string "$price", .string "$stock", .ofInt (-3)],
      eval priced item = .ok (some (.ofInt (amount item))) ∧ FitsSigned (amount item) := by
    simp only [List.forall_mem_cons]
    exact ⟨⟨hprice, by decide⟩, ⟨hstock, by decide⟩, ⟨rfl, by decide⟩, nofun⟩
  have hparts : Totalling.product.PartialsFit [1200, 10, -3] := by decide
  have hsteady : Totalling.product.Steady [1200, 10, -3] := by decide
  obtain ⟨hexact, -, -, horders⟩ :=
    total_is_exact_iff .product (fun item hitem => (hargs item hitem).1)
    fun item hitem => (hargs item hitem).2
  have hperm : [Value.string "$price", .string "$stock", .ofInt (-3)].Perm
      [.ofInt (-3), .string "$price", .string "$stock"] := List.perm_append_singleton _ [_, _]
  exact ⟨hargs, hparts, hsteady, hexact.mpr hparts, horders hsteady (by decide) _ hperm⟩

/-- A total in range is not returned exactly when a partial result is out of range, and is in
another order of the arguments: the sum of the greatest integer, one and minus one, and a product
with zero. -/
theorem fitting_total_not_exact :
    FitsSigned (Totalling.sum.exact [9223372036854775807, 1, -1]) ∧
    eval priced (Totalling.sum.call [.ofInt 9223372036854775807, .ofInt 1, .ofInt (-1)])
      ≠ .ok (some (.ofInt 9223372036854775807)) ∧
    eval priced (Totalling.sum.call [.ofInt 1, .ofInt (-1), .ofInt 9223372036854775807])
      = .ok (some (.ofInt 9223372036854775807)) ∧
    FitsSigned (Totalling.product.exact [4611686018427387904, 4, 0]) ∧
    eval priced (Totalling.product.call [.ofInt 4611686018427387904, .ofInt 4, .ofInt 0])
      ≠ .ok (some (.ofInt 0)) ∧
    eval priced (Totalling.product.call [.ofInt 0, .ofInt 4611686018427387904, .ofInt 4])
      = .ok (some (.ofInt 0)) := by
  have hargs (ints : List Int) : ∀ item ∈ ints.map Value.ofInt,
      eval priced item = .ok (some (.ofInt (amount item))) := List.forall_mem_map.mpr fun i _ => rfl
  refine ⟨by decide, Totalling.sum.eval_call_ne (hargs [_, _, _]) (by decide) (by decide) _, ?_,
    by decide, Totalling.product.eval_call_ne (hargs [_, _, _]) (by decide) (by decide) _, ?_⟩
  · exact (Totalling.sum.eval_call (hargs [_, _, _]) (by decide)).trans
      (by rw [if_pos (by decide)]; rfl)
  · exact (Totalling.product.eval_call (hargs [_, _, _]) (by decide)).trans
      (by rw [if_pos (by decide)]; rfl)

end DocQuery.Expression
