import DocQuery.Number.Basic
import Mathlib.Tactic.Ring

/-!
# Integers as doubles

Numbers are ordered by the doubles nearest to them. This file says what that means for integers,
over the integers alone: `doubleOf i` is the integer that the double nearest to `i` is, and
`order_int` reduces the order of two integers to the order of their doubles.

Rounding is monotone (`doubleOf_mono`), so integers are never put the wrong way round, and it leaves
every integer up to `2 ^ 53` alone (`doubleOf_of_natAbs_le`). Beyond that bound neighbours may fall
together. One operand below the bound is enough for an exact answer (`compare_doubleOf`): its own
double has two integers as neighbours, which are exact as well.
-/

namespace DocQuery.Number

/-! ## Rounded quotients -/

theorem roundDiv_le {num den k : Nat} (hden : 0 < den) (h : num ≤ k * den) :
    roundDiv num den ≤ k := by
  have hsplit := Nat.div_add_mod num den
  have hle : num / den ≤ k := Nat.div_le_of_le_mul (by rwa [Nat.mul_comm])
  unfold roundDiv
  simp only
  split
  · exact hle
  · rename_i hup
    -- the quotient is not `k` itself: then nothing would be left to round up
    have hne : num / den ≠ k := by
      rintro rfl
      rw [Nat.mul_comm] at h
      exact hup (Or.inl (by omega))
    omega

theorem le_roundDiv {num den k : Nat} (hden : 0 < den) (h : k * den ≤ num) :
    k ≤ roundDiv num den := by
  have hle : k ≤ num / den := (Nat.le_div_iff_mul_le hden).mpr h
  unfold roundDiv
  simp only
  split
  · exact hle
  · exact Nat.le_succ_of_le hle

theorem roundDiv_mul_self (k : Nat) {den : Nat} (hden : 0 < den) :
    roundDiv (k * den) den = k :=
  Nat.le_antisymm (roundDiv_le hden (Nat.le_refl _)) (le_roundDiv hden (Nat.le_refl _))

theorem roundDiv_mono {num num' den : Nat} (h : num ≤ num') :
    roundDiv num den ≤ roundDiv num' den := by
  have hq : num / den ≤ num' / den := Nat.div_le_div_right h
  rcases Nat.lt_or_eq_of_le hq with hlt | heq
  · have hup : roundDiv num den ≤ num / den + 1 := by
      unfold roundDiv
      simp only
      split <;> omega
    have hdown : num' / den ≤ roundDiv num' den := by
      unfold roundDiv
      simp only
      split <;> omega
    omega
  · have h1 := Nat.div_add_mod num den
    have h2 := Nat.div_add_mod num' den
    rw [← heq] at h2
    unfold roundDiv
    simp only
    rw [← heq]
    split <;> split <;> omega

theorem roundDiv_mul_right (num den : Nat) {c : Nat} (hc : 0 < c) :
    roundDiv (num * c) (den * c) = roundDiv num den := by
  have hlt : 2 * (num % den * c) < den * c ↔ 2 * (num % den) < den := by
    rw [← Nat.mul_assoc]
    exact Nat.mul_lt_mul_right hc
  have heq : 2 * (num % den * c) = den * c ↔ 2 * (num % den) = den := by
    rw [← Nat.mul_assoc]
    exact Nat.mul_left_inj (Nat.pos_iff_ne_zero.mp hc)
  unfold roundDiv
  simp only [Nat.mul_div_mul_right num den hc, Nat.mul_mod_mul_right, hlt, heq]

/-! ## Natural numbers -/

/-- The distance between neighbouring doubles around a natural number, as far as doubles are whole
numbers there. -/
def spacing (n : Nat) : Nat := 2 ^ (n.log2 - 52)

/-- The natural number that the nearest double is, a tie going to the double with the even
mantissa. -/
def roundNat (n : Nat) : Nat := roundDiv n (spacing n) * spacing n

theorem spacing_pos (n : Nat) : 0 < spacing n := Nat.two_pow_pos _

theorem roundNat_of_spacing_dvd {n : Nat} (h : spacing n ∣ n) : roundNat n = n := by
  obtain ⟨k, hk⟩ := h
  have hround : roundDiv n (spacing n) = k := by
    have hk' : n = k * spacing n := hk.trans (Nat.mul_comm _ _)
    calc roundDiv n (spacing n) = roundDiv (k * spacing n) (spacing n) := by rw [← hk']
      _ = k := roundDiv_mul_self k (spacing_pos n)
  rw [roundNat, hround, Nat.mul_comm, ← hk]

theorem roundNat_of_le {n : Nat} (h : n ≤ 2 ^ 53) : roundNat n = n := by
  rcases Nat.lt_or_eq_of_le h with hlt | rfl
  · refine roundNat_of_spacing_dvd ?_
    have hlog : n.log2 - 52 = 0 := by
      rcases Nat.eq_zero_or_pos n with rfl | hpos
      · simp
      · have := (Nat.log2_lt (by omega : n ≠ 0)).mpr hlt
        omega
    rw [spacing, hlog, Nat.pow_zero]
    exact Nat.one_dvd n
  · refine roundNat_of_spacing_dvd ?_
    rw [spacing, Nat.log2_two_pow]
    exact Nat.pow_dvd_pow 2 (by omega)

/-- A number lies between the powers of two around it, and so does its double. -/
theorem roundNat_bounds {n : Nat} (hn : n ≠ 0) :
    2 ^ n.log2 ≤ roundNat n ∧ roundNat n ≤ 2 ^ (n.log2 + 1) := by
  rcases Nat.lt_or_ge n.log2 52 with hsmall | hbig
  · have hlt : n < 2 ^ (n.log2 + 1) := Nat.lt_log2_self
    have hle : 2 ^ (n.log2 + 1) ≤ 2 ^ 53 := Nat.pow_le_pow_right (by omega) (by omega)
    rw [roundNat_of_le (by omega)]
    exact ⟨Nat.log2_self_le hn, by omega⟩
  · have hlow : 2 ^ 52 * spacing n = 2 ^ n.log2 := by
      rw [spacing, ← Nat.pow_add]
      congr 1
      omega
    have hhigh : 2 ^ 53 * spacing n = 2 ^ (n.log2 + 1) := by
      rw [spacing, ← Nat.pow_add]
      congr 1
      omega
    rw [← hlow, ← hhigh, roundNat]
    refine ⟨Nat.mul_le_mul_right _ (le_roundDiv (spacing_pos n) ?_),
      Nat.mul_le_mul_right _ (roundDiv_le (spacing_pos n) ?_)⟩
    · rw [hlow]
      exact Nat.log2_self_le hn
    · rw [hhigh]
      exact Nat.le_of_lt Nat.lt_log2_self

theorem roundNat_mono {m n : Nat} (h : m ≤ n) : roundNat m ≤ roundNat n := by
  rcases Nat.eq_zero_or_pos m with rfl | hpos
  · rw [roundNat_of_le (Nat.zero_le _)]
    exact Nat.zero_le _
  have hm : m ≠ 0 := by omega
  have hn : n ≠ 0 := by omega
  have hlog : m.log2 ≤ n.log2 := (Nat.le_log2 hn).mpr (Nat.le_trans (Nat.log2_self_le hm) h)
  rcases Nat.lt_or_eq_of_le hlog with hlt | heq
  · -- a power of two lies between the two
    calc roundNat m ≤ 2 ^ (m.log2 + 1) := (roundNat_bounds hm).2
      _ ≤ 2 ^ n.log2 := Nat.pow_le_pow_right (by omega) hlt
      _ ≤ roundNat n := (roundNat_bounds hn).1
  · have hspacing : spacing m = spacing n := by rw [spacing, spacing, heq]
    rw [roundNat, roundNat, hspacing]
    exact Nat.mul_le_mul_right _ (roundDiv_mono h)

theorem log2_mul_two_pow {n : Nat} (hn : n ≠ 0) (k : Nat) : (n * 2 ^ k).log2 = n.log2 + k := by
  have hne : n * 2 ^ k ≠ 0 := Nat.mul_ne_zero hn (Nat.pos_iff_ne_zero.mp (Nat.two_pow_pos k))
  rw [Nat.log2_eq_iff hne]
  refine ⟨?_, ?_⟩
  · rw [Nat.pow_add]
    exact Nat.mul_le_mul_right _ (Nat.log2_self_le hn)
  · rw [show n.log2 + k + 1 = (n.log2 + 1) + k by omega, Nat.pow_add]
    exact (Nat.mul_lt_mul_right (Nat.two_pow_pos k)).mpr Nat.lt_log2_self

/-- Rounding does not depend on the unit, as long as it is a power of two. -/
theorem roundNat_mul_two_pow (n k : Nat) : roundNat (n * 2 ^ k) = roundNat n * 2 ^ k := by
  rcases Nat.eq_zero_or_pos n with rfl | hpos
  · simp [roundNat_of_le (Nat.zero_le _)]
  have hlog := log2_mul_two_pow (by omega : n ≠ 0) k
  rcases Nat.lt_or_ge n.log2 52 with hsmall | hbig
  · have hlt : n < 2 ^ (n.log2 + 1) := Nat.lt_log2_self
    have hle : 2 ^ (n.log2 + 1) ≤ 2 ^ 53 := Nat.pow_le_pow_right (by omega) (by omega)
    rw [roundNat_of_le (n := n) (by omega)]
    refine roundNat_of_spacing_dvd (Nat.dvd_mul_left_of_dvd ?_ n)
    rw [spacing, hlog]
    exact Nat.pow_dvd_pow 2 (by omega)
  · have hspacing : spacing (n * 2 ^ k) = spacing n * 2 ^ k := by
      rw [spacing, spacing, hlog, ← Nat.pow_add]
      congr 1
      omega
    rw [roundNat, hspacing, roundDiv_mul_right _ _ (Nat.two_pow_pos k), roundNat, Nat.mul_assoc]

theorem units_nearest (n : Nat) : (nearest n 1).units = roundNat n * 2 ^ unitBits := by
  rw [← roundNat_mul_two_pow]
  simp only [Magnitude.units, nearest, roundNat, spacing, Nat.shiftLeft_eq, Nat.div_one,
    Nat.one_mul]

/-! ## Integers -/

/-- The integer that the double nearest to an integer is. -/
def doubleOf (i : Int) : Int := i.sign * roundNat i.natAbs

@[simp] theorem doubleOf_natCast (n : Nat) : doubleOf n = roundNat n := by
  rcases Nat.eq_zero_or_pos n with rfl | hpos
  · simp [doubleOf, roundNat_of_le (Nat.zero_le _)]
  · rw [doubleOf, Int.sign_natCast_of_ne_zero (by omega), Int.natAbs_natCast, Int.one_mul]

@[simp] theorem doubleOf_neg (i : Int) : doubleOf (-i) = -doubleOf i := by
  rw [doubleOf, doubleOf, Int.sign_neg, Int.natAbs_neg, Int.neg_mul]

theorem doubleOf_nonneg (n : Nat) : 0 ≤ doubleOf n := by
  rw [doubleOf_natCast]
  exact Int.natCast_nonneg _

theorem doubleOf_mono {a b : Int} (h : a ≤ b) : doubleOf a ≤ doubleOf b := by
  rcases a.eq_nat_or_neg with ⟨m, rfl | rfl⟩ <;> rcases b.eq_nat_or_neg with ⟨n, rfl | rfl⟩
  · rw [doubleOf_natCast, doubleOf_natCast]
    exact_mod_cast roundNat_mono (by omega)
  · obtain ⟨rfl, rfl⟩ : m = 0 ∧ n = 0 := by omega
    simp
  · have hm := doubleOf_nonneg m
    have hn := doubleOf_nonneg n
    rw [doubleOf_neg]
    omega
  · have hle := roundNat_mono (m := n) (n := m) (by omega)
    rw [doubleOf_neg, doubleOf_neg, doubleOf_natCast, doubleOf_natCast]
    omega

theorem doubleOf_of_natAbs_le {i : Int} (h : i.natAbs ≤ 2 ^ 53) : doubleOf i = i := by
  rw [doubleOf, roundNat_of_le h]
  exact Int.sign_mul_natAbs i

/-- The double of an integer below `2 ^ 53` is told from the double of any greater integer. -/
theorem doubleOf_lt {a b : Int} (hsmall : a.natAbs < 2 ^ 53 ∨ b.natAbs < 2 ^ 53) (h : a < b) :
    doubleOf a < doubleOf b := by
  rcases hsmall with ha | hb
  · have hnext : doubleOf (a + 1) ≤ doubleOf b := doubleOf_mono h
    rw [doubleOf_of_natAbs_le (i := a + 1) (by omega)] at hnext
    rw [doubleOf_of_natAbs_le (i := a) (by omega)]
    omega
  · have hlast : doubleOf a ≤ doubleOf (b - 1) := doubleOf_mono (by omega)
    rw [doubleOf_of_natAbs_le (i := b - 1) (by omega)] at hlast
    rw [doubleOf_of_natAbs_le (i := b) (by omega)]
    omega

/-- Pairs that are in the same order compare alike. -/
theorem compare_eq_compare {a b c d : Int} (hlt : a < b → c < d) (heq : a = b → c = d)
    (hgt : b < a → d < c) : compare c d = compare a b := by
  rcases Int.lt_trichotomy a b with h | h | h
  · rw [Int.compare_eq_lt.mpr h, Int.compare_eq_lt.mpr (hlt h)]
  · rw [Std.compare_eq_iff_eq.mpr h, Std.compare_eq_iff_eq.mpr (heq h)]
  · rw [Int.compare_eq_gt.mpr h, Int.compare_eq_gt.mpr (hgt h)]

theorem compare_doubleOf {a b : Int} (hsmall : a.natAbs < 2 ^ 53 ∨ b.natAbs < 2 ^ 53) :
    compare (doubleOf a) (doubleOf b) = compare a b :=
  compare_eq_compare (doubleOf_lt hsmall) (congrArg doubleOf) (doubleOf_lt hsmall.symm)

theorem doubleOf_inj {a b : Int} (hsmall : a.natAbs < 2 ^ 53 ∨ b.natAbs < 2 ^ 53)
    (h : doubleOf a = doubleOf b) : a = b := by
  have hcmp := compare_doubleOf hsmall
  rw [Std.compare_eq_iff_eq.mpr h] at hcmp
  exact Std.compare_eq_iff_eq.mp hcmp.symm

/-! ## The nearest double -/

/-- A whole number of at most 53 significant bits, as the whole numbers among doubles are. -/
def IsDouble (d : Int) : Prop := ∃ (mantissa : Int) (exponent : Nat),
  mantissa.natAbs ≤ 2 ^ 53 ∧ d = mantissa * 2 ^ exponent

theorem IsDouble.neg {d : Int} (h : IsDouble d) : IsDouble (-d) := by
  obtain ⟨m, e, hm, rfl⟩ := h
  exact ⟨-m, e, by rwa [Int.natAbs_neg], (Int.neg_mul m (2 ^ e)).symm⟩

theorem isDouble_roundNat (n : Nat) : IsDouble (roundNat n) := by
  refine ⟨roundDiv n (spacing n), n.log2 - 52, ?_, by rw [roundNat, spacing]; push_cast; rfl⟩
  rw [Int.natAbs_natCast]
  refine roundDiv_le (spacing_pos n) ?_
  have hlt : n < 2 ^ (n.log2 + 1) := Nat.lt_log2_self
  have hle : 2 ^ (n.log2 + 1) ≤ 2 ^ 53 * spacing n := by
    rw [spacing, ← Nat.pow_add]
    exact Nat.pow_le_pow_right (by omega) (by omega)
  omega

theorem isDouble_doubleOf (i : Int) : IsDouble (doubleOf i) := by
  rcases i.eq_nat_or_neg with ⟨n, rfl | rfl⟩
  · rw [doubleOf_natCast]
    exact isDouble_roundNat n
  · rw [doubleOf_neg, doubleOf_natCast]
    exact (isDouble_roundNat n).neg

/-- No multiple of the denominator is nearer than the rounded quotient. -/
theorem roundDiv_nearest (num k : Nat) {den : Nat} (hden : 0 < den) :
    ((roundDiv num den * den : Nat) - num : Int).natAbs ≤ ((k * den : Nat) - num : Int).natAbs := by
  have hsplit := Nat.div_add_mod num den
  rw [Nat.mul_comm] at hsplit
  have hrest := Nat.mod_lt num hden
  have hstep : (num / den + 1) * den = num / den * den + den := Nat.succ_mul _ _
  have hside : k * den ≤ num / den * den ∨ (num / den + 1) * den ≤ k * den :=
    (Nat.lt_or_ge (num / den) k).symm.imp (Nat.mul_le_mul_right den) (Nat.mul_le_mul_right den)
  unfold roundDiv
  simp only
  split <;> omega

/-- Doubles from the power of two below a number on are multiples of its spacing. -/
theorem spacing_dvd {n m e : Nat} (hm : m ≤ 2 ^ 53) (hlow : 2 ^ n.log2 ≤ m * 2 ^ e) :
    spacing n ∣ m * 2 ^ e := by
  rcases Nat.lt_or_ge e (n.log2 - 52) with hlt | hge
  · -- the exponent is too small for anything but the power of two itself
    have hpow : m * 2 ^ e ≤ 2 ^ n.log2 := by
      calc m * 2 ^ e ≤ 2 ^ 53 * 2 ^ e := Nat.mul_le_mul_right _ hm
        _ = 2 ^ (53 + e) := (Nat.pow_add 2 53 e).symm
        _ ≤ 2 ^ n.log2 := Nat.pow_le_pow_right (by omega) (by omega)
    rw [Nat.le_antisymm hpow hlow]
    exact Nat.pow_dvd_pow 2 (Nat.sub_le _ _)
  · exact Nat.dvd_mul_left_of_dvd (Nat.pow_dvd_pow 2 hge) m

theorem roundNat_nearest (n : Nat) {m e : Nat} (hm : m ≤ 2 ^ 53) :
    ((roundNat n : Int) - n).natAbs ≤ ((m * 2 ^ e : Nat) - n : Int).natAbs := by
  rcases Nat.eq_zero_or_pos n with rfl | hpos
  · rw [roundNat_of_le (Nat.zero_le _)]
    omega
  rcases Nat.lt_or_ge (m * 2 ^ e) (2 ^ n.log2) with hbelow | hlow
  · -- the power of two below is nearer, and a multiple of the spacing
    obtain ⟨k, hk⟩ := Nat.pow_dvd_pow 2 (Nat.sub_le n.log2 52)
    have hnear := roundDiv_nearest n k (spacing_pos n)
    rw [spacing, Nat.mul_comm k, ← hk] at hnear
    have hself : 2 ^ n.log2 ≤ n := Nat.log2_self_le (by omega)
    rw [roundNat, spacing]
    omega
  · obtain ⟨k, hk⟩ := spacing_dvd hm hlow
    rw [hk, Nat.mul_comm]
    exact roundDiv_nearest n k (spacing_pos n)

/-- No double is nearer to a natural number than the one it converts to. -/
theorem doubleOf_natCast_nearest (n : Nat) {d : Int} (hd : IsDouble d) :
    (doubleOf n - n).natAbs ≤ (d - n).natAbs := by
  obtain ⟨m, e, hm, rfl⟩ := hd
  rw [doubleOf_natCast]
  rcases m.eq_nat_or_neg with ⟨k, rfl | rfl⟩
  · have hnear := roundNat_nearest n (e := e) (m := k) (by simpa using hm)
    exact_mod_cast hnear
  · -- zero is a double between the two
    have hzero := roundNat_nearest n (m := 0) (e := 0) (Nat.zero_le _)
    have hneg : -(k : Int) * 2 ^ e ≤ 0 := by
      rw [Int.neg_mul]
      exact Int.neg_nonpos_of_nonneg (Int.mul_nonneg (Int.natCast_nonneg k)
        (Int.pow_nonneg (by decide)))
    omega

/-- No double is nearer to an integer than the one it converts to. -/
theorem doubleOf_nearest (i : Int) {d : Int} (hd : IsDouble d) :
    (doubleOf i - i).natAbs ≤ (d - i).natAbs := by
  rcases i.eq_nat_or_neg with ⟨n, rfl | rfl⟩
  · exact doubleOf_natCast_nearest n hd
  · have hnear := doubleOf_natCast_nearest n hd.neg
    rw [doubleOf_neg]
    omega

/-! ## The order of integers -/

theorem orderKey_int (i : Int) : (Number.int i).orderKey = doubleOf i * 2 ^ unitBits := by
  rw [orderKey, units_nearest, doubleOf]
  push_cast
  ring

/-- Two integers stand in the order of their doubles. -/
theorem order_int (a b : Int) :
    (Number.int a).order (.int b) = compare (doubleOf a) (doubleOf b) := by
  have hpos : (0 : Int) < 2 ^ unitBits := Int.pow_pos (by decide)
  rw [order, orderKey_int, orderKey_int]
  exact compare_eq_compare (Int.mul_lt_mul_of_pos_right · hpos)
    (congrArg (· * 2 ^ unitBits)) (Int.mul_lt_mul_of_pos_right · hpos)

end DocQuery.Number
