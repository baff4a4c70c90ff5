import DocQuery.Expression.Evaluate
import Mathlib.Data.List.Forall2
import Mathlib.Data.List.Permutation

/-!
# Computations that may fail

How a chain of steps that may each fail is taken apart. A chain succeeds when every step does
(`bind_eq_ok`), a function applied to every item of a list succeeds when it does on each of them
(`mapM_eq_ok`), and a test that never fails filters as a plain predicate does (`filterItems_of_ok`,
`filterItems_eq_ok`).

`OkUnless` is what is known of a chain in which some steps may fail, all of them with one error and
for one reason. `OkTogether` relates two chains that succeed or fail together, with whatever errors,
as a function does that is applied to the items of a list in one order or another
(`okTogether_mapM`).
-/

namespace DocQuery

variable {ε α β γ : Type}

@[simp] theorem ok_bind (a : α) (f : α → Except ε β) : (Except.ok a >>= f) = f a := rfl

@[simp] theorem error_bind (e : ε) (f : α → Except ε β) : (Except.error e >>= f) = .error e := rfl

@[simp] theorem pure_eq_ok (a : α) : (pure a : Except ε α) = .ok a := rfl

@[simp] theorem map_ok (f : α → β) (a : α) : f <$> (Except.ok a : Except ε α) = .ok (f a) := rfl

theorem bind_ok_eq_map (f : α → β) (x : Except ε α) : (x >>= fun a => .ok (f a)) = f <$> x := by
  cases x <;> rfl

theorem bind_eq_ok {x : Except ε α} {f : α → Except ε β} {b : β} :
    (x >>= f) = .ok b ↔ ∃ a, x = .ok a ∧ f a = .ok b := by
  cases x with
  | error e => simp
  | ok a => simp

theorem map_eq_ok {x : Except ε α} {f : α → β} {b : β} :
    f <$> x = .ok b ↔ ∃ a, x = .ok a ∧ f a = b := by
  cases x with
  | error e => simp
  | ok a => simp

/-- What is left of a result without its error can be compared, and so evaluated. -/
theorem eq_ok_of_toOption {x : Except ε α} {a : α} (h : x.toOption = some a) : x = .ok a := by
  cases x with
  | error e => cases h
  | ok b => rw [Option.some.inj h]

theorem exists_map_eq_ok {x : Except ε α} {f : α → β} :
    (∃ b, f <$> x = .ok b) ↔ ∃ a, x = .ok a := by
  cases x with
  | error e => simp
  | ok a => simp

theorem mapM_of_ok {f : α → Except ε β} {g : α → β} {xs : List α}
    (h : ∀ x ∈ xs, f x = .ok (g x)) : xs.mapM f = .ok (xs.map g) := by
  induction xs with
  | nil => rfl
  | cons x rest ih =>
      have hrest := ih fun y hy => h y (List.mem_cons_of_mem _ hy)
      rw [List.mapM_cons, h x (List.mem_cons_self ..), ok_bind, hrest, ok_bind]
      rfl

theorem mapM_eq_ok {f : α → Except ε β} {xs : List α} {ys : List β} (h : xs.mapM f = .ok ys) :
    List.Forall₂ (fun x y => f x = .ok y) xs ys := by
  induction xs generalizing ys with
  | nil =>
      obtain rfl := Except.ok.inj h
      exact .nil
  | cons x rest ih =>
      rw [List.mapM_cons] at h
      obtain ⟨y, hy, h⟩ := bind_eq_ok.mp h
      obtain ⟨zs, hzs, h⟩ := bind_eq_ok.mp h
      obtain rfl := Except.ok.inj h
      exact .cons hy (ih hzs)

theorem exists_of_mem_mapM {f : α → Except ε β} {xs : List α} {ys : List β}
    (h : xs.mapM f = .ok ys) {y : β} (hy : y ∈ ys) : ∃ x ∈ xs, f x = .ok y := by
  have hpairs := mapM_eq_ok h
  clear h
  induction hpairs with
  | nil => cases hy
  | @cons x y' xs ys hx _ ih =>
      rcases List.mem_cons.mp hy with rfl | hy
      · exact ⟨x, List.mem_cons_self .., hx⟩
      · obtain ⟨x', hx', hy⟩ := ih hy
        exact ⟨x', List.mem_cons_of_mem _ hx', hy⟩

theorem mapM_map_result (f : α → Except ε β) (g : β → γ) (xs : List α) :
    (xs.mapM fun x => g <$> f x) = List.map g <$> xs.mapM f := by
  induction xs with
  | nil => rfl
  | cons x rest ih =>
      rw [List.mapM_cons, List.mapM_cons, ih]
      cases f x with
      | error e => rfl
      | ok y => cases rest.mapM f <;> rfl

theorem mapM_flatMap (f : β → Except ε γ) (g : α → List β) (xs : List α) :
    (xs.flatMap g).mapM f = List.flatten <$> xs.mapM fun x => (g x).mapM f := by
  induction xs with
  | nil => rfl
  | cons x rest ih =>
      rw [List.flatMap_cons, List.mapM_append, List.mapM_cons, ih]
      cases (g x).mapM f with
      | error e => rfl
      | ok ys => cases rest.mapM fun x => (g x).mapM f <;> rfl

/-- Lists made of the items of a list are put together when each of them can be made. -/
theorem flatten_mapM_eq_ok {f : α → Except ε (List β)} {xs : List α} {out : List β} :
    List.flatten <$> xs.mapM f = .ok out ↔
      (∀ x ∈ xs, ∃ ys, f x = .ok ys) ∧ out = xs.flatMap fun x => (f x).toOption.getD [] := by
  induction xs generalizing out with
  | nil => simp [eq_comm]
  | cons x rest ih =>
      rw [List.mapM_cons, List.forall_mem_cons, List.flatMap_cons]
      cases hx : f x with
      | error e => simp
      | ok ys =>
          have hrest :
              List.flatten <$> (Except.ok ys >>= fun y => rest.mapM f >>= fun zs => pure (y :: zs))
                = (ys ++ ·) <$> List.flatten <$> rest.mapM f := by
            rw [ok_bind]
            cases rest.mapM f <;> rfl
          rw [hrest, map_eq_ok]
          simp only [ih]
          constructor
          · rintro ⟨others, ⟨hall, rfl⟩, rfl⟩
            exact ⟨⟨⟨ys, rfl⟩, hall⟩, rfl⟩
          · rintro ⟨⟨-, hall⟩, rfl⟩
            exact ⟨_, ⟨hall, rfl⟩, rfl⟩

theorem filterItems_of_ok {test : Value → Except StoreError Bool} {p : Value → Bool}
    {items : List Value} (h : ∀ item ∈ items, test item = .ok (p item)) :
    Expression.filterItems test items = .ok (items.filter p) := by
  induction items with
  | nil => rfl
  | cons item rest ih =>
      have hrest := ih fun other hother => h other (List.mem_cons_of_mem _ hother)
      rw [Expression.filterItems, h item (List.mem_cons_self ..), ok_bind, hrest, ok_bind,
        List.filter_cons]
      cases p item <;> rfl

/-- A filter that succeeds asked every item, and each time the test gave an answer. -/
theorem filterItems_eq_ok {test : Value → Except StoreError Bool} {items kept : List Value}
    (h : Expression.filterItems test items = .ok kept) :
    ∃ p : Value → Bool, (∀ item ∈ items, test item = .ok (p item)) ∧ kept = items.filter p := by
  let p (item : Value) : Bool := (test item).toOption.getD false
  have hall : ∀ item ∈ items, test item = .ok (p item) := by
    induction items generalizing kept with
    | nil =>
        intro item hitem
        cases hitem
    | cons first rest ih =>
        rw [Expression.filterItems] at h
        obtain ⟨keep, hfirst, h⟩ := bind_eq_ok.mp h
        obtain ⟨others, hothers, -⟩ := bind_eq_ok.mp h
        refine List.forall_mem_cons.mpr ⟨?_, ih hothers⟩
        show test first = .ok ((test first).toOption.getD false)
        rw [hfirst]
        rfl
  exact ⟨p, hall, Except.ok.inj (h.symm.trans (filterItems_of_ok hall))⟩

/-- What is done to the answers of a test does not change how the filter fails. -/
theorem filterItems_map_error {test : Value → Except StoreError Bool} {items : List Value}
    {e : StoreError} (f : Bool → Bool) (h : Expression.filterItems test items = .error e) :
    Expression.filterItems (fun item => f <$> test item) items = .error e := by
  induction items with
  | nil => cases h
  | cons first rest ih =>
      rw [Expression.filterItems] at h ⊢
      cases hfirst : test first with
      | error other =>
          rw [hfirst, error_bind] at h
          exact h
      | ok keep =>
          rw [hfirst, ok_bind] at h
          rw [map_ok, ok_bind]
          cases hrest : Expression.filterItems test rest with
          | error other =>
              rw [hrest, error_bind] at h
              rw [ih (hrest.trans h), error_bind]
          | ok others =>
              rw [hrest] at h
              cases h

theorem filterItems_append (test : Value → Except StoreError Bool) (items others : List Value) :
    Expression.filterItems test (items ++ others)
      = (Expression.filterItems test items >>= fun kept =>
          (kept ++ ·) <$> Expression.filterItems test others) := by
  induction items with
  | nil =>
      show Expression.filterItems test others = id <$> Expression.filterItems test others
      rw [id_map]
  | cons item rest ih =>
      rw [List.cons_append, Expression.filterItems, Expression.filterItems, ih]
      cases test item with
      | error e => rfl
      | ok keep =>
          cases Expression.filterItems test rest with
          | error e => rfl
          | ok kept => cases Expression.filterItems test others <;> cases keep <;> rfl

/-- A test with the same outcome on all items decides on all of them at once. -/
theorem filterItems_of_same {test : Value → Except StoreError Bool}
    {answer : Except StoreError Bool} {items kept : List Value} (hne : items ≠ [])
    (hsame : ∀ item ∈ items, test item = answer)
    (h : Expression.filterItems test items = .ok kept) :
    ∃ keep, answer = .ok keep ∧ kept = if keep then items else [] := by
  obtain ⟨p, hp, rfl⟩ := filterItems_eq_ok h
  obtain ⟨first, hfirst⟩ := List.exists_mem_of_ne_nil items hne
  have hanswer : answer = .ok (p first) := (hsame first hfirst).symm.trans (hp first hfirst)
  have hconst : ∀ item ∈ items, p item = p first := by
    intro item hitem
    exact Except.ok.inj ((hp item hitem).symm.trans ((hsame item hitem).trans hanswer))
  refine ⟨p first, hanswer, ?_⟩
  rw [List.filter_congr hconst]
  cases p first <;> simp

/-- What a filter keeps are items of the list, in order. -/
theorem sublist_of_filterItems {test : Value → Except StoreError Bool} {items kept : List Value}
    (h : Expression.filterItems test items = .ok kept) : kept.Sublist items := by
  obtain ⟨p, -, rfl⟩ := filterItems_eq_ok h
  exact List.filter_sublist

/-! ## One way to fail -/

/-- The computation succeeds with a result as asked, or fails with the given error, and then for the
given reason. -/
def OkUnless (e : ε) (reason : Prop) (post : α → Prop) : Except ε α → Prop
  | .ok a => post a
  | .error other => other = e ∧ reason

namespace OkUnless

variable {e : ε} {reason : Prop}

theorem imp {reason' : Prop} {post post' : α → Prop} {x : Except ε α} (h : OkUnless e reason post x)
    (hreason : reason → reason') (hpost : ∀ a, post a → post' a) : OkUnless e reason' post' x := by
  cases x with
  | ok a => exact hpost a h
  | error other => exact ⟨h.1, hreason h.2⟩

theorem eq_error {post : α → Prop} {x : Except ε α} (h : OkUnless e reason post x)
    (hx : x.isOk = false) : x = .error e := by
  cases x with
  | ok a => cases hx
  | error other => rw [h.1]

theorem bind {post : α → Prop} {post' : β → Prop} {x : Except ε α} {f : α → Except ε β}
    (hx : OkUnless e reason post x) (hf : ∀ a, post a → OkUnless e reason post' (f a)) :
    OkUnless e reason post' (x >>= f) := by
  cases x with
  | ok a => exact hf a hx
  | error other => exact hx

theorem map {post : α → Prop} {post' : β → Prop} {x : Except ε α} {f : α → β}
    (hx : OkUnless e reason post x) (hf : ∀ a, post a → post' (f a)) :
    OkUnless e reason post' (f <$> x) := by
  cases x with
  | ok a => exact hf a hx
  | error other => exact hx

theorem mapM {post : β → Prop} {f : α → Except ε β} {xs : List α}
    (h : ∀ x ∈ xs, OkUnless e reason post (f x)) :
    OkUnless e reason (fun ys => ∀ y ∈ ys, post y) (xs.mapM f) := by
  induction xs with
  | nil =>
      intro y hy
      cases hy
  | cons x rest ih =>
      have hrest := ih fun y hy => h y (List.mem_cons_of_mem _ hy)
      rw [List.mapM_cons]
      refine (h x (List.mem_cons_self ..)).bind fun y hy => hrest.bind fun ys hys => ?_
      intro z hz
      rcases List.mem_cons.mp hz with rfl | hz
      · exact hy
      · exact hys z hz

theorem filterItems {e : StoreError} {test : Value → Except StoreError Bool} {items : List Value}
    (h : ∀ item ∈ items, OkUnless e reason (fun _ => True) (test item)) :
    OkUnless e reason (fun _ => True) (Expression.filterItems test items) := by
  induction items with
  | nil => trivial
  | cons item rest ih =>
      have hrest := ih fun other hother => h other (List.mem_cons_of_mem _ hother)
      rw [Expression.filterItems]
      exact (h item (List.mem_cons_self ..)).bind fun keep _ => hrest.bind fun others _ => trivial

end OkUnless

/-! ## Success together -/

/-- The computations both succeed, with related results, or both fail. -/
def OkTogether (R : α → β → Prop) : Except ε α → Except ε β → Prop
  | .ok a, .ok b => R a b
  | .error _, .error _ => True
  | _, _ => False

namespace OkTogether

variable {R : α → β → Prop} {x : Except ε α} {y : Except ε β}

theorem of_forall (h : ∀ a, x = .ok a → ∃ b, y = .ok b ∧ R a b)
    (h' : ∀ b, y = .ok b → ∃ a, x = .ok a) : OkTogether R x y := by
  cases x with
  | ok a =>
      obtain ⟨b, rfl, hab⟩ := h a rfl
      exact hab
  | error e =>
      cases y with
      | ok b =>
          obtain ⟨a, ha⟩ := h' b rfl
          cases ha
      | error e' => trivial

theorem exists_iff (h : OkTogether R x y) : (∃ a, x = .ok a) ↔ ∃ b, y = .ok b := by
  cases x with
  | ok a =>
      cases y with
      | ok b => simp
      | error e => exact h.elim
  | error e =>
      cases y with
      | ok b => exact h.elim
      | error e' => simp

theorem eq_ok_iff {y : Except ε α} (h : OkTogether Eq x y) (a : α) : x = .ok a ↔ y = .ok a := by
  cases x with
  | ok b =>
      cases y with
      | ok c => rw [show b = c from h]
      | error e => exact h.elim
  | error e =>
      cases y with
      | ok b => exact h.elim
      | error e' => simp

theorem bind {γ δ : Type} {S : γ → δ → Prop} {f : α → Except ε γ} {g : β → Except ε δ}
    (h : OkTogether R x y) (hf : ∀ a b, R a b → OkTogether S (f a) (g b)) :
    OkTogether S (x >>= f) (y >>= g) := by
  cases x with
  | ok a =>
      cases y with
      | ok b => exact hf a b h
      | error e => exact h.elim
  | error e =>
      cases y with
      | ok b => exact h.elim
      | error e' => trivial

theorem map {γ δ : Type} {S : γ → δ → Prop} {f : α → γ} {g : β → δ} (h : OkTogether R x y)
    (hf : ∀ a b, R a b → S (f a) (g b)) : OkTogether S (f <$> x) (g <$> y) := by
  rw [← bind_ok_eq_map, ← bind_ok_eq_map]
  exact h.bind hf

theorem and_left {p : α → Prop} (h : OkTogether R x y) (hx : ∀ a, x = .ok a → p a) :
    OkTogether (fun a b => p a ∧ R a b) x y := by
  cases x with
  | ok a =>
      cases y with
      | ok b => exact ⟨hx a rfl, h⟩
      | error e => exact h.elim
  | error e =>
      cases y with
      | ok b => exact h.elim
      | error e' => trivial

theorem mapM {γ : Type} {f : γ → Except ε α} {g : γ → Except ε β} {xs : List γ}
    (h : ∀ x ∈ xs, OkTogether R (f x) (g x)) :
    OkTogether (List.Forall₂ R) (xs.mapM f) (xs.mapM g) := by
  induction xs with
  | nil => exact List.Forall₂.nil
  | cons x rest ih =>
      have hrest := ih fun y hy => h y (List.mem_cons_of_mem _ hy)
      rw [List.mapM_cons, List.mapM_cons]
      refine (h x (List.mem_cons_self ..)).bind fun a b hab => ?_
      exact hrest.map (f := (a :: ·)) (g := (b :: ·)) fun as bs hrows => .cons hab hrows

end OkTogether

theorem mapM_eq_ok_iff {f : α → Except ε β} {xs : List α} {ys : List β} :
    xs.mapM f = .ok ys ↔ List.Forall₂ (fun x y => f x = .ok y) xs ys := by
  refine ⟨mapM_eq_ok, fun h => ?_⟩
  induction h with
  | nil => rfl
  | cons hx _ ih => rw [List.mapM_cons, hx, ok_bind, ih, ok_bind, pure_eq_ok]

theorem mapM_perm {f : α → Except ε β} {xs xs' : List α} {ys : List β} (h : xs.Perm xs')
    (hys : xs.mapM f = .ok ys) : ∃ ys', xs'.mapM f = .ok ys' ∧ ys.Perm ys' := by
  obtain ⟨ys', hys', hperm⟩ := List.perm_comp_forall₂ h.symm (mapM_eq_ok hys)
  exact ⟨ys', mapM_eq_ok_iff.mpr hys', hperm.symm⟩

/-- The order of the items decides only in which order the results come, and which error comes
first. -/
theorem okTogether_mapM (f : α → Except ε β) {xs xs' : List α} (h : xs.Perm xs') :
    OkTogether List.Perm (xs.mapM f) (xs'.mapM f) := by
  refine .of_forall (fun ys hys => mapM_perm h hys) fun ys' hys' => ?_
  obtain ⟨ys, hys, -⟩ := mapM_perm h.symm hys'
  exact ⟨ys, hys⟩

end DocQuery
