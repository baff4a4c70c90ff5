import DocQuery.Store.Evaluate
import DocQuery.Proofs.FieldMap
import DocQuery.Proofs.Outcome
import DocQuery.Proofs.Value.Objects

/-!
# Only objects flow through a pipeline

Stages run one after the other (`apply_append`), so a pipeline is evaluated up to any point and then
on. What a store holds are objects (`HoldsObjects`), and every stage turns objects into objects
(`applyStage_objects`); a run of stages therefore never meets anything else (`apply_objects`), and
the rows it ends in are rows of a result one for one.
-/

namespace DocQuery

/-! ## Stored documents -/

namespace Store

/-- Every stored value is an object. -/
def HoldsObjects (s : Store) : Prop :=
  ∀ entry ∈ s.collections, ∀ doc ∈ entry.2, doc.isObject = true

/-- Every stored value is an object in which every key stands once. -/
def WellFormed (s : Store) : Prop :=
  ∀ entry ∈ s.collections, ∀ doc ∈ entry.2, doc.IsDocument

instance (s : Store) : Decidable s.HoldsObjects := by unfold HoldsObjects; infer_instance

instance (s : Store) : Decidable s.WellFormed := by unfold WellFormed; infer_instance

/-- A document of a collection stands in one of the entries. -/
theorem entry_of_mem_documents {s : Store} {c : String} {doc : Value} (h : doc ∈ s.documents c) :
    ∃ docs, (c, docs) ∈ s.collections ∧ doc ∈ docs := by
  rw [documents] at h
  cases hget : s.collections.get? c with
  | none => simp [hget] at h
  | some docs =>
      rw [hget] at h
      exact ⟨docs, FieldMap.mem_of_get? hget, h⟩

theorem HoldsObjects.isObject {s : Store} (hs : s.HoldsObjects) {c : String} {doc : Value}
    (h : doc ∈ s.documents c) : doc.isObject = true := by
  obtain ⟨docs, hentry, hdoc⟩ := entry_of_mem_documents h
  exact hs _ hentry doc hdoc

theorem WellFormed.holdsObjects {s : Store} (hs : s.WellFormed) : s.HoldsObjects := by
  intro entry hentry doc hdoc
  obtain ⟨fields, rfl, -⟩ := (hs entry hentry doc hdoc).eq_object
  rfl

theorem WellFormed.isDocument {s : Store} (hs : s.WellFormed) {c : String} {doc : Value}
    (h : doc ∈ s.documents c) : doc.IsDocument := by
  obtain ⟨docs, hentry, hdoc⟩ := entry_of_mem_documents h
  exact hs _ hentry doc hdoc

/-- Insertion takes in objects only. -/
theorem HoldsObjects.insert {s s' : Store} (hs : s.HoldsObjects) {c : String} {doc : Value}
    (h : s.insert c doc = .ok s') : s'.HoldsObjects := by
  unfold Store.insert at h
  split at h
  · rename_i hdoc
    obtain rfl := Except.ok.inj h
    intro entry hentry d hd
    rcases FieldMap.mem_insert hentry with hold | rfl
    · exact hs entry hold d hd
    · rcases List.mem_append.mp hd with hd | hd
      · exact hs.isObject hd
      · obtain rfl := List.mem_singleton.mp hd
        exact hdoc
  · cases h

/-- However far an insertion of many gets, the store holds objects. -/
theorem HoldsObjects.insertMany {s : Store} (hs : s.HoldsObjects) (c : String) (docs : List Value) :
    (s.insertMany c docs).1.HoldsObjects := by
  induction docs generalizing s with
  | nil => exact hs
  | cons doc rest ih =>
      rw [Store.insertMany]
      cases hinsert : s.insert c doc with
      | ok s' => exact ih (hs.insert hinsert)
      | error e => exact hs

/-! ## Running stages -/

theorem apply_cons [Filter.Engine] (s : Store) (stage : Stage) (rest : Pipeline)
    (docs : List Value) :
    s.apply (stage :: rest) docs = (s.applyStage stage docs >>= s.apply rest) := by
  rw [apply]

@[simp] theorem apply_singleton [Filter.Engine] (s : Store) (stage : Stage) (docs : List Value) :
    s.apply [stage] docs = s.applyStage stage docs := by
  rw [apply_cons]
  cases s.applyStage stage docs <;> rfl

theorem apply_append [Filter.Engine] (s : Store) (first rest : Pipeline) (docs : List Value) :
    s.apply (first ++ rest) docs = (s.apply first docs >>= s.apply rest) := by
  induction first generalizing docs with
  | nil => rfl
  | cons stage first ih =>
      rw [List.cons_append, apply_cons, apply_cons]
      cases s.applyStage stage docs with
      | error e => rfl
      | ok mid => exact ih mid

/-- A filter that decides on every document keeps those on which it says yes. -/
theorem applyStage_filter [Filter.Engine] (s : Store) {condition : Document} {docs : List Value}
    {p : Value → Bool} (h : ∀ doc ∈ docs, Filter.holds doc condition = .ok (p doc)) :
    s.applyStage (.filter condition) docs = .ok (docs.filter p) := by
  rw [applyStage, filter, filterItems_of_ok h]

theorem unwind_objects {u : Unwind} {doc : Value} (hdoc : doc.isObject = true) :
    ∀ row ∈ unwind u doc, row.isObject = true := by
  intro row hrow
  unfold unwind at hrow
  simp only at hrow
  split at hrow
  · split at hrow
    · obtain rfl := List.mem_singleton.mp hrow
      simpa using hdoc
    · cases hrow
  · obtain ⟨item, -, rfl⟩ := List.mem_map.mp hrow
    simpa using hdoc
  · split at hrow
    · obtain rfl := List.mem_singleton.mp hrow
      exact hdoc
    · cases hrow
  · split at hrow
    · obtain rfl := List.mem_singleton.mp hrow
      exact hdoc
    · cases hrow
  · obtain rfl := List.mem_singleton.mp hrow
    exact hdoc

theorem setFields_object {fields : Document} {doc row : Value}
    (h : setFields fields doc = .ok row) :
    row.isObject = doc.isObject := by
  obtain ⟨values, -, h⟩ := bind_eq_ok.mp h
  obtain rfl := Except.ok.inj h
  exact Value.isObject_mapFields _ _

theorem setFields_objects {fields : Document} {docs out : List Value}
    (h : docs.mapM (setFields fields) = .ok out) (hdocs : ∀ doc ∈ docs, doc.isObject = true) :
    ∀ row ∈ out, row.isObject = true := by
  have hrows := mapM_eq_ok h
  clear h
  induction hrows with
  | nil => simp
  | @cons doc row docs out hrow _ ih =>
      intro r hr
      rcases List.mem_cons.mp hr with rfl | hr
      · rw [setFields_object hrow]
        exact hdocs doc (List.mem_cons_self ..)
      · exact ih (fun d hd => hdocs d (List.mem_cons_of_mem _ hd)) r hr

/-- A projection changes documents one by one. -/
theorem project_eq_ok {flags : FieldMap Inclusion} {docs out : List Value}
    (h : project flags docs = .ok out) :
    ∃ f : Document → Document, out = docs.map (Value.mapFields f) := by
  unfold project at h
  split at h
  · split at h
    · cases h
    · exact ⟨_, (Except.ok.inj h).symm⟩
  · exact ⟨_, (Except.ok.inj h).symm⟩

theorem mapFields_objects {f : Document → Document} {docs : List Value}
    (hdocs : ∀ doc ∈ docs, doc.isObject = true) :
    ∀ row ∈ docs.map (Value.mapFields f), row.isObject = true := by
  intro row hrow
  obtain ⟨doc, hdoc, rfl⟩ := List.mem_map.mp hrow
  rw [Value.isObject_mapFields]
  exact hdocs doc hdoc

/-- One stage turns objects into objects. -/
theorem applyStage_objects [Filter.Engine] {s : Store} {stage : Stage} {docs out : List Value}
    (h : s.applyStage stage docs = .ok out) (hdocs : ∀ doc ∈ docs, doc.isObject = true) :
    ∀ row ∈ out, row.isObject = true := by
  cases stage with
  | filter condition =>
      rw [applyStage] at h
      exact fun row hrow => hdocs row ((sublist_of_filterItems h).mem hrow)
  | sort keys =>
      rw [applyStage] at h
      obtain rfl := Except.ok.inj h
      exact fun row hrow => hdocs row ((List.mergeSort_perm docs _).mem_iff.mp hrow)
  | skip n =>
      rw [applyStage] at h
      obtain rfl := Except.ok.inj h
      exact fun row hrow => hdocs row (List.mem_of_mem_drop hrow)
  | limit n =>
      rw [applyStage] at h
      obtain rfl := Except.ok.inj h
      exact fun row hrow => hdocs row (List.mem_of_mem_take hrow)
  | project flags =>
      rw [applyStage] at h
      obtain ⟨f, rfl⟩ := project_eq_ok h
      exact mapFields_objects hdocs
  | lookup join =>
      rw [applyStage] at h
      obtain rfl := Except.ok.inj h
      intro row hrow
      obtain ⟨doc, hdoc, rfl⟩ := List.mem_map.mp hrow
      rw [lookup, Value.isObject_mapFields]
      exact hdocs doc hdoc
  | unwind u =>
      rw [applyStage] at h
      obtain rfl := Except.ok.inj h
      intro row hrow
      obtain ⟨doc, hdoc, hrow⟩ := List.mem_flatMap.mp hrow
      exact unwind_objects (hdocs doc hdoc) row hrow
  | set fields =>
      rw [applyStage] at h
      exact setFields_objects h hdocs
  | addFields fields =>
      rw [applyStage] at h
      exact setFields_objects h hdocs
  | unset field =>
      rw [applyStage] at h
      obtain rfl := Except.ok.inj h
      exact mapFields_objects hdocs
  | facet branches =>
      rw [applyStage] at h
      obtain ⟨values, -, h⟩ := bind_eq_ok.mp h
      obtain rfl := Except.ok.inj h
      simp [Value.isObject]
  | count field =>
      rw [applyStage] at h
      obtain rfl := Except.ok.inj h
      unfold count
      split <;> simp [Value.isObject]

/-- A run of stages turns objects into objects. -/
theorem apply_objects [Filter.Engine] {s : Store} {stages : Pipeline} {docs out : List Value}
    (h : s.apply stages docs = .ok out) (hdocs : ∀ doc ∈ docs, doc.isObject = true) :
    ∀ row ∈ out, row.isObject = true := by
  induction stages generalizing docs with
  | nil =>
      rw [apply] at h
      obtain rfl := Except.ok.inj h
      exact hdocs
  | cons stage rest ih =>
      rw [apply_cons] at h
      obtain ⟨mid, hmid, h⟩ := bind_eq_ok.mp h
      exact ih h (applyStage_objects hmid hdocs)

/-! ## Rows of a pipeline -/

section Rows

variable [Filter.Engine] {s : Store} {collection : String} {pipeline : Pipeline}

/-- The rows of a pipeline are objects, so none is lost on the way to the reader. -/
theorem run_eq_ok (hs : s.HoldsObjects) {rows : List Document}
    (h : s.run collection pipeline = .ok rows) :
    s.apply pipeline (s.documents collection) = .ok (rows.map Value.object) := by
  obtain ⟨out, hout, h⟩ := bind_eq_ok.mp h
  obtain rfl := Except.ok.inj h
  rw [hout, ← Value.eq_map_object (apply_objects hout fun _ hdoc => hs.isObject hdoc)]

theorem run_eq_error {e : StoreError} :
    s.run collection pipeline = .error e
      ↔ s.apply pipeline (s.documents collection) = .error e := by
  rw [run]
  cases s.apply pipeline (s.documents collection) <;> simp

theorem run_of_apply {out : List Value}
    (h : s.apply pipeline (s.documents collection) = .ok out) :
    s.run collection pipeline = .ok (out.filterMap Value.fields?) := by
  rw [run, h, ok_bind, pure_eq_ok]

end Rows

end Store

end DocQuery
