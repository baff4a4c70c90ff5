import DocQuery.Proofs.Store.Documents

/-!
# Calls that fill a store

A store is filled by insertions, of one document or of many. A call that is refused leaves the store
as it was, but for an insertion of many, which keeps what came before the refused value. No call
lets anything but an object in (`HoldsObjects.update`), so the stores that calls lead to hold
objects (`holdsObjects_ofUpdates`).
-/

namespace DocQuery.Store

/-- A call that adds documents to a store. -/
inductive Update where
  | insert (collection : String) (doc : Value)
  | insertMany (collection : String) (docs : List Value)
  | withCollection (collection : String) (docs : List Value)

/-- The store behind a call, refused or not. -/
def update (s : Store) : Update → Store
  | .insert collection doc => (s.insert collection doc).toOption.getD s
  | .insertMany collection docs => (s.insertMany collection docs).1
  | .withCollection collection docs => (s.withCollection collection docs).toOption.getD s

/-- The store that a sequence of calls fills. -/
def ofUpdates (updates : List Update) : Store := updates.foldl update {}

variable {s : Store}

theorem holdsObjects_empty : HoldsObjects {} := by
  intro entry hentry
  cases hentry

theorem withCollection_eq_ok {s' : Store} {collection : String} {docs : List Value}
    (h : s.withCollection collection docs = .ok s') : s' = (s.insertMany collection docs).1 := by
  unfold withCollection at h
  split at h
  · rename_i hinsert
    rw [hinsert]
    exact (Except.ok.inj h).symm
  · cases h

theorem HoldsObjects.update (hs : s.HoldsObjects) (call : Update) :
    (s.update call).HoldsObjects := by
  cases call with
  | insert collection doc =>
      rw [Store.update]
      cases hinsert : s.insert collection doc with
      | error e => exact hs
      | ok s' => exact hs.insert hinsert
  | insertMany collection docs => exact hs.insertMany collection docs
  | withCollection collection docs =>
      rw [Store.update]
      cases hwith : s.withCollection collection docs with
      | error e => exact hs
      | ok s' =>
          obtain rfl := withCollection_eq_ok hwith
          exact hs.insertMany collection docs

theorem HoldsObjects.foldl_update (hs : s.HoldsObjects) (updates : List Update) :
    (updates.foldl Store.update s).HoldsObjects := by
  induction updates generalizing s with
  | nil => exact hs
  | cons call rest ih => exact ih (hs.update call)

theorem holdsObjects_ofUpdates (updates : List Update) : (ofUpdates updates).HoldsObjects :=
  holdsObjects_empty.foldl_update updates

end DocQuery.Store
