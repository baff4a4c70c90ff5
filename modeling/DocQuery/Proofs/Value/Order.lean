import DocQuery.Value.Order

/-!
# Laws of the order of values

Exchanging two values swaps their order (`swap_order`), and values that neither comes before the
other stand in the same order to any third one (`order_of_order_eq`). So equality of queries and
joins is symmetric (`same_comm`) and transitive (`same_of_same`).

What comes before a value comes before all that this value comes before (`order_trans`): values of
different kinds are ordered by kind, and lists by their first difference. So values, missing ones
among them, are ordered as the library's comparisons are.

Neither of two values comes before the other just when they have the same structure up to the
doubles of their numbers (`order_eq_iff`).
-/

namespace DocQuery

theorem Number.swap_order (x y : Number) : (x.order y).swap = y.order x := by
  unfold Number.order
  exact Std.OrientedCmp.eq_swap.symm

namespace Value

mutual

theorem swap_order : (x y : Value) → (order x y).swap = order y x
  | .null, y => by cases y <;> rfl
  | .bool b, y => by
      cases y with
      | bool c =>
          simp only [order]
          exact Std.OrientedCmp.eq_swap.symm
      | _ => rfl
  | .number m, y => by
      cases y with
      | number n =>
          simp only [order]
          exact m.swap_order n
      | _ => rfl
  | .string s, y => by
      cases y with
      | string t =>
          simp only [order]
          exact Std.OrientedCmp.eq_swap.symm
      | _ => rfl
  | .array xs, y => by
      cases y with
      | array ys =>
          simp only [order]
          exact swap_orderItems xs ys
      | _ => rfl
  | .object xs, y => by
      cases y with
      | object ys =>
          simp only [order]
          exact swap_orderFields xs ys
      | _ => rfl

theorem swap_orderItems : (xs ys : List Value) → (orderItems xs ys).swap = orderItems ys xs
  | [], [] => rfl
  | [], _ :: _ => rfl
  | _ :: _, [] => rfl
  | x :: xs, y :: ys => by
      simp only [orderItems, Ordering.swap_then, swap_order x y, swap_orderItems xs ys]

theorem swap_orderFields : (xs ys : List (String × Value)) →
    (orderFields xs ys).swap = orderFields ys xs
  | [], [] => rfl
  | [], _ :: _ => rfl
  | _ :: _, [] => rfl
  | (j, x) :: xs, (k, y) :: ys => by
      have hkeys : (compare j k).swap = compare k j := Std.OrientedCmp.eq_swap.symm
      simp only [orderFields, Ordering.swap_then, hkeys, swap_order x y, swap_orderFields xs ys]

end

theorem same_comm (x y : Value) : x.same y = y.same x := by
  rw [same, same, ← swap_order x y]
  cases order x y <;> rfl

theorem null_same (v : Value) : Value.null.same v = v.isNull := by
  cases v <;> rfl

theorem same_null (v : Value) : v.same .null = v.isNull := by
  rw [same_comm, null_same]

/-! ## Equal values -/

mutual

theorem order_of_order_eq : {x y : Value} → (z : Value) → order x y = .eq → order y z = order x z
  | .null, y, z, h => by
      cases y with
      | null => rfl
      | _ => cases h
  | .bool b, y, z, h => by
      cases y with
      | bool c =>
          obtain rfl : b = c := by simpa [order] using h
          rfl
      | _ => cases h
  | .number m, y, z, h => by
      cases y with
      | number n =>
          have hkey : m.orderKey = n.orderKey := by simpa [order, Number.order] using h
          cases z with
          | number k => simp only [order, Number.order, hkey]
          | _ => rfl
      | _ => cases h
  | .string a, y, z, h => by
      cases y with
      | string b =>
          obtain rfl : a = b := by simpa [order] using h
          rfl
      | _ => cases h
  | .array xs, y, z, h => by
      cases y with
      | array ys =>
          cases z with
          | array zs =>
              simp only [order] at h ⊢
              exact orderItems_of_eq zs h
          | _ => rfl
      | _ => cases h
  | .object xs, y, z, h => by
      cases y with
      | object ys =>
          cases z with
          | object zs =>
              simp only [order] at h ⊢
              exact orderFields_of_eq zs h
          | _ => rfl
      | _ => cases h

theorem orderItems_of_eq : {xs ys : List Value} → (zs : List Value) → orderItems xs ys = .eq →
    orderItems ys zs = orderItems xs zs
  | [], [], _, _ => rfl
  | [], _ :: _, _, h => by cases h
  | _ :: _, [], _, h => by cases h
  | _ :: _, _ :: _, [], _ => rfl
  | x :: xs, y :: ys, z :: zs, h => by
      obtain ⟨hx, hxs⟩ := Ordering.then_eq_eq.mp h
      simp only [orderItems, order_of_order_eq z hx, orderItems_of_eq zs hxs]

theorem orderFields_of_eq : {xs ys : List (String × Value)} → (zs : List (String × Value)) →
    orderFields xs ys = .eq → orderFields ys zs = orderFields xs zs
  | [], [], _, _ => rfl
  | [], _ :: _, _, h => by cases h
  | _ :: _, [], _, h => by cases h
  | _ :: _, _ :: _, [], _ => rfl
  | (j, x) :: xs, (k, y) :: ys, (l, z) :: zs, h => by
      obtain ⟨hkeys, hrest⟩ := Ordering.then_eq_eq.mp h
      obtain ⟨hx, hxs⟩ := Ordering.then_eq_eq.mp hrest
      obtain rfl : j = k := by simpa using hkeys
      simp only [orderFields, order_of_order_eq z hx, orderFields_of_eq zs hxs]

end

theorem same_of_same {x y z : Value} (hxy : x.same y = true) (hxz : x.same z = true) :
    y.same z = true := by
  have heq : order x y = .eq := by simpa [same] using hxy
  rw [same, order_of_order_eq z heq]
  exact hxz

/-! ## Transitivity -/

theorem order_of_order_eq_right (x : Value) {y z : Value} (h : order y z = .eq) :
    order x y = order x z := by
  rw [← swap_order y x, ← swap_order z x, order_of_order_eq x h]

/-- Values of different kinds are ordered by kind. -/
theorem order_of_rank_ne {x y : Value} (h : x.rank ≠ y.rank) :
    order x y = compare x.rank y.rank := by
  cases x <;> cases y <;> first | rfl | exact absurd rfl h

theorem rank_le_of_order_eq_lt {x y : Value} (h : order x y = .lt) : x.rank ≤ y.rank := by
  by_cases heq : x.rank = y.rank
  · exact Nat.le_of_eq heq
  · rw [order_of_rank_ne heq, Nat.compare_eq_lt] at h
    exact Nat.le_of_lt h

/-- Only values of one kind can stand in the way of transitivity. -/
theorem order_eq_lt_of_rank {x y z : Value} (hxy : order x y = .lt) (hyz : order y z = .lt)
    (h : y.rank = x.rank → z.rank = x.rank → order x z = .lt) : order x z = .lt := by
  have hle := rank_le_of_order_eq_lt hxy
  have hle' := rank_le_of_order_eq_lt hyz
  by_cases hne : x.rank = z.rank
  · exact h (by omega) hne.symm
  · rw [order_of_rank_ne hne, Nat.compare_eq_lt]
    omega

/-- The order by a first and a second part is transitive where each part is. -/
theorem then_eq_lt_trans {first first' first'' second second' second'' : Ordering}
    (hlt : first = .lt → first' = .lt → first'' = .lt) (hleft : first = .eq → first' = first'')
    (hright : first' = .eq → first = first'')
    (hsecond : second = .lt → second' = .lt → second'' = .lt)
    (h : first.then second = .lt) (h' : first'.then second' = .lt) :
    first''.then second'' = .lt := by
  rw [Ordering.then_eq_lt] at h h' ⊢
  rcases h with h | ⟨h, hs⟩
  · rcases h' with h' | ⟨h', -⟩
    · exact .inl (hlt h h')
    · exact .inl (hright h' ▸ h)
  · rcases h' with h' | ⟨h', hs'⟩
    · exact .inl (hleft h ▸ h')
    · exact .inr ⟨(hleft h).symm.trans h', hsecond hs hs'⟩

mutual

theorem order_trans : {x y z : Value} → order x y = .lt → order y z = .lt → order x z = .lt
  | .null, y, z, hxy, hyz => order_eq_lt_of_rank hxy hyz fun hy _ => by
      cases y with
      | null => cases hxy
      | _ => cases hy
  | .bool b, y, z, hxy, hyz => order_eq_lt_of_rank hxy hyz fun hy hz => by
      cases y with
      | bool c =>
          cases z with
          | bool d =>
              simp only [order] at hxy hyz ⊢
              exact Std.TransCmp.lt_trans hxy hyz
          | _ => cases hz
      | _ => cases hy
  | .number k, y, z, hxy, hyz => order_eq_lt_of_rank hxy hyz fun hy hz => by
      cases y with
      | number m =>
          cases z with
          | number n =>
              simp only [order, Number.order] at hxy hyz ⊢
              exact Std.TransCmp.lt_trans hxy hyz
          | _ => cases hz
      | _ => cases hy
  | .string a, y, z, hxy, hyz => order_eq_lt_of_rank hxy hyz fun hy hz => by
      cases y with
      | string b =>
          cases z with
          | string c =>
              simp only [order] at hxy hyz ⊢
              exact Std.TransCmp.lt_trans hxy hyz
          | _ => cases hz
      | _ => cases hy
  | .array xs, y, z, hxy, hyz => order_eq_lt_of_rank hxy hyz fun hy hz => by
      cases y with
      | array ys =>
          cases z with
          | array zs =>
              simp only [order] at hxy hyz ⊢
              exact orderItems_trans hxy hyz
          | _ => cases hz
      | _ => cases hy
  | .object xs, y, z, hxy, hyz => order_eq_lt_of_rank hxy hyz fun hy hz => by
      cases y with
      | object ys =>
          cases z with
          | object zs =>
              simp only [order] at hxy hyz ⊢
              exact orderFields_trans hxy hyz
          | _ => cases hz
      | _ => cases hy

theorem orderItems_trans : {xs ys zs : List Value} → orderItems xs ys = .lt →
    orderItems ys zs = .lt → orderItems xs zs = .lt
  | [], [], _, h, _ => by cases h
  | [], _ :: _, [], _, h => by cases h
  | [], _ :: _, _ :: _, _, _ => rfl
  | _ :: _, [], _, h, _ => by cases h
  | _ :: _, _ :: _, [], _, h => by cases h
  | x :: xs, y :: ys, z :: zs, h, h' => by
      simp only [orderItems] at h h' ⊢
      exact then_eq_lt_trans order_trans (order_of_order_eq z) (order_of_order_eq_right x)
        orderItems_trans h h'

theorem orderFields_trans : {xs ys zs : List (String × Value)} → orderFields xs ys = .lt →
    orderFields ys zs = .lt → orderFields xs zs = .lt
  | [], [], _, h, _ => by cases h
  | [], _ :: _, [], _, h => by cases h
  | [], _ :: _, _ :: _, _, _ => rfl
  | _ :: _, [], _, h, _ => by cases h
  | _ :: _, _ :: _, [], _, h => by cases h
  | (j, x) :: xs, (k, y) :: ys, (l, z) :: zs, h, h' => by
      simp only [orderFields] at h h' ⊢
      -- keys decide before values, and values before the other fields: one such step in another
      have hentries : (order x y).then (orderFields xs ys) = .lt →
          (order y z).then (orderFields ys zs) = .lt → (order x z).then (orderFields xs zs) = .lt :=
        then_eq_lt_trans order_trans (order_of_order_eq z) (order_of_order_eq_right x)
          orderFields_trans
      exact then_eq_lt_trans Std.TransCmp.lt_trans
        (fun hkeys => (Std.TransCmp.congr_left hkeys).symm)
        Std.TransCmp.congr_right hentries h h'

end

instance : Std.TransCmp order where
  eq_swap := (swap_order _ _).symm
  isLE_trans {x y z} hxy hyz := by
    rcases Ordering.isLE_iff_eq_lt_or_eq_eq.mp hxy with hlt | heq
    · rcases Ordering.isLE_iff_eq_lt_or_eq_eq.mp hyz with hlt' | heq'
      · rw [order_trans hlt hlt']
        rfl
      · rwa [← order_of_order_eq_right x heq']
    · rwa [← order_of_order_eq z heq]

instance : Std.TransCmp orderMissing where
  eq_swap {x y} := by
    cases x with
    | none => cases y <;> rfl
    | some x =>
        cases y with
        | none => rfl
        | some y => exact (swap_order y x).symm
  isLE_trans {x y z} hxy hyz := by
    cases x with
    | none => cases z <;> rfl
    | some x =>
        cases y with
        | none => cases hxy
        | some y =>
            cases z with
            | none => cases hyz
            | some z =>
                show (order x z).isLE = true
                exact Std.TransCmp.isLE_trans (show (order x y).isLE = true from hxy) hyz

/-! ## Equal structure -/

mutual

/-- The values are of one structure, with the same strings and booleans, the same keys in the same
order, and numbers that convert to the same doubles. -/
inductive SameStructure : Value → Value → Prop
  | null : SameStructure .null .null
  | bool (b : Bool) : SameStructure (.bool b) (.bool b)
  | number {m n : Number} (h : m.orderKey = n.orderKey) : SameStructure (.number m) (.number n)
  | string (s : String) : SameStructure (.string s) (.string s)
  | array {xs ys : List Value} (h : SameItems xs ys) : SameStructure (.array xs) (.array ys)
  | object {xs ys : List (String × Value)} (h : SameFields xs ys) :
      SameStructure (.object xs) (.object ys)

/-- The items are of one structure, one by one. -/
inductive SameItems : List Value → List Value → Prop
  | nil : SameItems [] []
  | cons {x y : Value} {xs ys : List Value} (h : SameStructure x y) (hrest : SameItems xs ys) :
      SameItems (x :: xs) (y :: ys)

/-- The fields have the same keys, one by one, and values of one structure. -/
inductive SameFields : List (String × Value) → List (String × Value) → Prop
  | nil : SameFields [] []
  | cons (key : String) {x y : Value} {xs ys : List (String × Value)} (h : SameStructure x y)
      (hrest : SameFields xs ys) : SameFields ((key, x) :: xs) ((key, y) :: ys)

end

mutual

theorem sameStructure_of_order_eq : {x y : Value} → order x y = .eq → SameStructure x y
  | .null, y, h => by
      cases y with
      | null => exact .null
      | _ => cases h
  | .bool b, y, h => by
      cases y with
      | bool c =>
          obtain rfl : b = c := by simpa [order] using h
          exact .bool b
      | _ => cases h
  | .number m, y, h => by
      cases y with
      | number n => exact .number (by simpa [order, Number.order] using h)
      | _ => cases h
  | .string s, y, h => by
      cases y with
      | string t =>
          obtain rfl : s = t := by simpa [order] using h
          exact .string s
      | _ => cases h
  | .array xs, y, h => by
      cases y with
      | array ys => exact .array (sameItems_of_order_eq (by simpa only [order] using h))
      | _ => cases h
  | .object xs, y, h => by
      cases y with
      | object ys => exact .object (sameFields_of_order_eq (by simpa only [order] using h))
      | _ => cases h

theorem sameItems_of_order_eq : {xs ys : List Value} → orderItems xs ys = .eq → SameItems xs ys
  | [], [], _ => .nil
  | [], _ :: _, h => by cases h
  | _ :: _, [], h => by cases h
  | x :: xs, y :: ys, h => by
      obtain ⟨hx, hxs⟩ := Ordering.then_eq_eq.mp h
      exact .cons (sameStructure_of_order_eq hx) (sameItems_of_order_eq hxs)

theorem sameFields_of_order_eq : {xs ys : List (String × Value)} → orderFields xs ys = .eq →
    SameFields xs ys
  | [], [], _ => .nil
  | [], _ :: _, h => by cases h
  | _ :: _, [], h => by cases h
  | (j, x) :: xs, (k, y) :: ys, h => by
      obtain ⟨hkeys, hrest⟩ := Ordering.then_eq_eq.mp h
      obtain ⟨hx, hxs⟩ := Ordering.then_eq_eq.mp hrest
      obtain rfl : j = k := by simpa using hkeys
      exact .cons j (sameStructure_of_order_eq hx) (sameFields_of_order_eq hxs)

end

mutual

theorem SameStructure.order_eq {x y : Value} : SameStructure x y → order x y = .eq
  | .null => rfl
  | .bool _ => Std.ReflCmp.compare_self
  | .number h => by
      rw [order, Number.order, h]
      exact Std.ReflCmp.compare_self
  | .string _ => Std.ReflCmp.compare_self
  | .array h => h.order_eq
  | .object h => h.order_eq

theorem SameItems.order_eq {xs ys : List Value} : SameItems xs ys → orderItems xs ys = .eq
  | .nil => rfl
  | .cons h hrest => Ordering.then_eq_eq.mpr ⟨h.order_eq, hrest.order_eq⟩

theorem SameFields.order_eq {xs ys : List (String × Value)} :
    SameFields xs ys → orderFields xs ys = .eq
  | .nil => rfl
  | .cons _ h hrest =>
      Ordering.then_eq_eq.mpr ⟨Std.ReflCmp.compare_self,
        Ordering.then_eq_eq.mpr ⟨h.order_eq, hrest.order_eq⟩⟩

end

/-- Values are equal in the order just when they have the same structure. -/
theorem order_eq_iff {x y : Value} : order x y = .eq ↔ SameStructure x y :=
  ⟨sameStructure_of_order_eq, SameStructure.order_eq⟩

instance (x y : Value) : Decidable (SameStructure x y) := decidable_of_iff _ order_eq_iff

theorem orderMissing_eq_iff {a b : Option Value} :
    orderMissing a b = .eq ↔ Option.Rel SameStructure a b := by
  cases a with
  | none =>
      cases b with
      | none => exact iff_of_true rfl .none
      | some y => exact iff_of_false nofun nofun
  | some x =>
      cases b with
      | none => exact iff_of_false nofun nofun
      | some y => exact order_eq_iff.trans ⟨.some, fun | .some h => h⟩

end Value

end DocQuery
