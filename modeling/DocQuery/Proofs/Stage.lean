import DocQuery.Stage.Basic

/-!
# Kinds of stages

The stages that calls accumulate sort, or filter, join and compute. All of these but sorts treat
documents one by one.
-/

namespace DocQuery

namespace Stage

/-- Whether the stage sorts. -/
def isSort : Stage → Bool
  | .sort _ => true
  | _ => false

/-- Whether the stage filters, joins or computes, and so treats documents one by one. -/
def isRowwise : Stage → Bool
  | .filter _ | .lookup _ | .unwind _ | .set _ | .unset _ | .addFields _ => true
  | _ => false

/-- Whether the stage is of a kind that calls accumulate. -/
def isAccumulated (stage : Stage) : Bool := stage.isSort || stage.isRowwise

variable {stage : Stage}

theorem eq_sort (h : stage.isSort = true) : ∃ keys, stage = .sort keys := by
  cases stage with
  | sort keys => exact ⟨keys, rfl⟩
  | _ => cases h

theorem isSort_of_isRowwise (h : stage.isRowwise = true) : stage.isSort = false := by
  cases stage with
  | sort keys => cases h
  | _ => rfl

theorem isAccumulated_of_isRowwise (h : stage.isRowwise = true) : stage.isAccumulated = true := by
  rw [isAccumulated, h, Bool.or_true]

end Stage

/-- Stages that treat documents one by one. -/
def Rowwise (stages : Pipeline) : Prop := ∀ stage ∈ stages, stage.isRowwise = true

@[simp] theorem rowwise_nil : Rowwise [] := fun _ hstage => nomatch hstage

theorem rowwise_singleton {stage : Stage} (h : stage.isRowwise = true) : Rowwise [stage] := by
  intro other hother
  rw [List.mem_singleton.mp hother]
  exact h

theorem Rowwise.append {stages later : Pipeline} (h : Rowwise stages) (hlater : Rowwise later) :
    Rowwise (stages ++ later) := by
  intro stage hstage
  rcases List.mem_append.mp hstage with hmem | hmem
  · exact h stage hmem
  · exact hlater stage hmem

/-- The stages without the sorts. -/
def unsorted (stages : Pipeline) : Pipeline := stages.filter fun stage => !stage.isSort

theorem unsorted_cons_sort (keys : FieldMap Direction) (rest : Pipeline) :
    unsorted (.sort keys :: rest) = unsorted rest := rfl

theorem unsorted_cons {stage : Stage} (h : stage.isRowwise = true) (rest : Pipeline) :
    unsorted (stage :: rest) = stage :: unsorted rest := by
  simp [unsorted, Stage.isSort_of_isRowwise h]

@[simp] theorem unsorted_append (stages added : Pipeline) :
    unsorted (stages ++ added) = unsorted stages ++ unsorted added := List.filter_append ..

theorem Rowwise.unsorted {stages : Pipeline} (h : Rowwise stages) : unsorted stages = stages := by
  refine List.filter_eq_self.mpr fun stage hstage => ?_
  rw [Stage.isSort_of_isRowwise (h stage hstage)]
  rfl

end DocQuery
