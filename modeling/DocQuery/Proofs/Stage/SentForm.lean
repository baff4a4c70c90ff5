import DocQuery.Stage.Reader
import DocQuery.Proofs.FieldMap

/-!
# The form in which stages are sent

A stage whose field maps are built by inserting, merging and collecting (`Stage.Built`) is read back
from the form in which it is sent (`ofValue?_toValue`), facets with all their branches. So no two
such stages are sent in the same form. A repeated key would be lost on the way, as an object holds
every key once.
-/

namespace DocQuery.Stage

/-! ## Field maps in stages -/

mutual

/-- Every field map of the stage is built by inserting, merging and collecting, and so are those of
the stages in its branches. -/
def Built : Stage → Prop
  | .sort keys => FieldMap.Built keys
  | .project flags => FieldMap.Built flags
  | .facet branches => FieldMap.Built branches ∧ BuiltBranches branches
  | _ => True
termination_by structural s => s

/-- The field maps of all the stages are built. -/
def BuiltStages : List Stage → Prop
  | [] => True
  | stage :: rest => Built stage ∧ BuiltStages rest
termination_by structural stages => stages

/-- The field maps of the stages of all the branches are built. -/
def BuiltBranches : List (String × List Stage) → Prop
  | [] => True
  | (_, stages) :: rest => BuiltStages stages ∧ BuiltBranches rest
termination_by structural branches => branches

end

/-- The keys of the field map of a stage, if it has one. -/
def mapKeys? : Stage → Option (List String)
  | .sort keys => some keys.keys
  | .project flags => some flags.keys
  | .facet branches => some (FieldMap.keys branches)
  | _ => none

/-! ## Bodies -/

theorem stageValues_eq_map (stages : List Stage) : stageValues stages = stages.map toValue := by
  induction stages with
  | nil => rfl
  | cons stage rest ih => rw [stageValues, ih, List.map_cons, toValue]

theorem branchValues_eq_mapValues (branches : FieldMap Pipeline) :
    branchValues branches = branches.mapValues Pipeline.toValue := by
  induction branches with
  | nil => rfl
  | cons branch rest ih =>
      rw [branchValues, ih, stageValues_eq_map]
      rfl

theorem body_sort {keys : FieldMap Direction} (h : keys.Built) :
    (Stage.sort keys).body = .object (keys.mapValues Direction.toValue) := by
  rw [body, FieldMap.collect_mapValues h]

theorem body_project {flags : FieldMap Inclusion} (h : flags.Built) :
    (Stage.project flags).body = .object (flags.mapValues Inclusion.toValue) := by
  rw [body, FieldMap.collect_mapValues h]

theorem body_facet {branches : FieldMap Pipeline} (h : branches.Built) :
    (Stage.facet branches).body = .object (branches.mapValues Pipeline.toValue) := by
  rw [body, branchValues_eq_mapValues, FieldMap.collect_mapValues h]

/-- The body of a stage has the keys of its field map, in their order. -/
theorem keys_body {s : Stage} {keys : List String} (h : s.Built) (hkeys : s.mapKeys? = some keys) :
    s.body.fields?.map FieldMap.keys = some keys := by
  cases s with
  | sort m =>
      rw [body_sort h, Value.fields?, Option.map_some, FieldMap.keys_mapValues]
      exact hkeys
  | project m =>
      rw [body_project h, Value.fields?, Option.map_some, FieldMap.keys_mapValues]
      exact hkeys
  | facet m =>
      rw [body_facet h.1, Value.fields?, Option.map_some, FieldMap.keys_mapValues]
      exact hkeys
  | _ => cases hkeys

/-! ## Reading back -/

theorem entries?_mapValues {α : Type} {read : Value → Option α} {write : α → Value}
    (h : ∀ a, read (write a) = some a) (m : FieldMap α) :
    entries? read (m.mapValues write) = some m := by
  induction m with
  | nil => rfl
  | cons entry rest ih =>
      rw [entries?] at ih ⊢
      rw [FieldMap.mapValues, List.map_cons, List.mapM_cons, h, ← FieldMap.mapValues, ih]
      rfl

theorem direction?_toValue (d : Direction) : direction? d.toValue = some d := by
  cases d <;> rfl

theorem inclusion?_toValue (i : Inclusion) : inclusion? i.toValue = some i := by
  cases i <;> rfl

theorem natural?_ofNat (n : Nat) : natural? (.ofNat n) = some n := by
  simp [natural?, Value.ofNat, Number.natural?]

/-- Only a facet is read by its branches. -/
theorem ofValue?_of_ne {kind : String} (h : kind ≠ "$facet") (fields : Document) :
    ofValue? (.object [(kind, .object fields)]) = ofBody? kind (.object fields) := by
  rw [ofValue?, if_neg h]

theorem ofValue?_sort {keys : FieldMap Direction} (h : keys.Built) :
    ofValue? (Stage.sort keys).toValue = some (.sort keys) := by
  have hentries := entries?_mapValues direction?_toValue keys
  rw [toValue, kind, body_sort h, ofValue?_of_ne (by decide)]
  show (entries? direction? (keys.mapValues Direction.toValue)).bind _ = _
  rw [hentries]
  rfl

theorem ofValue?_project {flags : FieldMap Inclusion} (h : flags.Built) :
    ofValue? (Stage.project flags).toValue = some (.project flags) := by
  have hentries := entries?_mapValues inclusion?_toValue flags
  rw [toValue, kind, body_project h, ofValue?_of_ne (by decide)]
  show (entries? inclusion? (flags.mapValues Inclusion.toValue)).bind _ = _
  rw [hentries]
  rfl

mutual

/-- A stage is read back from the form in which it is sent. -/
theorem ofValue?_toValue : (s : Stage) → s.Built → ofValue? s.toValue = some s
  | .filter _, _ => rfl
  | .sort _, h => ofValue?_sort h
  | .skip n, _ => congrArg (Option.map skip) (natural?_ofNat n)
  | .limit n, _ => congrArg (Option.map limit) (natural?_ofNat n)
  | .project _, h => ofValue?_project h
  | .lookup _, _ => rfl
  | .unwind _, _ => rfl
  | .set _, _ => rfl
  | .unset _, _ => rfl
  | .addFields _, _ => rfl
  | .facet branches, h => by
      -- the names of the branches have to differ, or the body would lose one of them
      have hbranches := branches?_branchValues branches h.2
      rw [toValue, kind, body_facet h.1, ← branchValues_eq_mapValues, ofValue?, if_pos rfl,
        hbranches]
      rfl
  | .count _, _ => rfl

theorem stages?_stageValues : (stages : List Stage) → BuiltStages stages →
    stages? (stageValues stages) = some stages
  | [], _ => rfl
  | stage :: rest, h => by
      have hstage : ofValue? (.object [(stage.kind, stage.body)]) = some stage :=
        ofValue?_toValue stage h.1
      rw [stageValues, stages?, hstage, stages?_stageValues rest h.2]

theorem branches?_branchValues : (branches : List (String × List Stage)) → BuiltBranches branches →
    branches? (branchValues branches) = some branches
  | [], _ => rfl
  | (name, stages) :: rest, h => by
      rw [branchValues, branches?, stages?_stageValues stages h.1, branches?_branchValues rest h.2]

end

theorem ofValue?_pipeline {p : Pipeline} (h : BuiltStages p) :
    Pipeline.ofValue? p.toValue = some p := by
  rw [Pipeline.toValue, ← stageValues_eq_map]
  exact stages?_stageValues p h

/-! ## No two stages alike -/

theorem toValue_inj {s t : Stage} (hs : s.Built) (ht : t.Built) (h : s.toValue = t.toValue) :
    s = t := by
  have hread := ofValue?_toValue s hs
  rw [h, ofValue?_toValue t ht] at hread
  exact (Option.some.inj hread).symm

theorem pipeline_toValue_inj {p q : Pipeline} (hp : BuiltStages p) (hq : BuiltStages q)
    (h : p.toValue = q.toValue) : p = q := by
  have hread := ofValue?_pipeline hp
  rw [h, ofValue?_pipeline hq] at hread
  exact (Option.some.inj hread).symm

/-- **The form in which it is sent determines a stage.** Let all field maps be built by inserting,
merging and collecting. Then a stage is sent as an object with one key, its kind; the body of a
sort, a projection or a facet has the keys of its field map in their order, and the branches of a
facet stand in it as they are sent. Two stages that are sent as the same value are the same, and so
are two pipelines. -/
theorem sent_form_determines_stage :
    (∀ s : Stage, s.Built → ∃ body, s.toValue = .object [(s.kind, body)] ∧
      (∀ keys, s.mapKeys? = some keys → body.fields?.map FieldMap.keys = some keys) ∧
      ∀ branches, s = .facet branches →
        body = .object (FieldMap.mapValues Pipeline.toValue branches)) ∧
    (∀ s t : Stage, s.Built → t.Built → s.toValue = t.toValue → s = t) ∧
    (∀ p q : Pipeline, BuiltStages p → BuiltStages q → p.toValue = q.toValue → p = q) := by
  refine ⟨fun s hs => ⟨s.body, rfl, fun keys => keys_body hs, ?_⟩, fun s t => toValue_inj,
    fun p q => pipeline_toValue_inj⟩
  rintro branches rfl
  exact body_facet hs.1

/-- A total beside rows in an order, which is refined in a facet of their own. -/
def refined (keys : FieldMap Direction) : Stage :=
  .facet [("total", [.count "count"]), ("data", [.sort keys, .facet [("first", [.limit 1])]])]

theorem built_refined {keys : FieldMap Direction} (h : keys.Built) : (refined keys).Built := by
  have hbranches : FieldMap.Built [("total", [Stage.count "count"]),
      ("data", [.sort keys, .facet [("first", [.limit 1])]])] :=
    FieldMap.built_iff_distinctKeys.mpr (by simp [FieldMap.DistinctKeys, FieldMap.keys])
  exact ⟨hbranches, ⟨trivial, trivial⟩, ⟨h, ⟨by decide, ⟨trivial, trivial⟩, trivial⟩, trivial⟩,
    trivial⟩

theorem sent_form_determines_stage_refined :
    let merged :=
      FieldMap.merge [("team", .ascending), ("name", .ascending)] [("team", .descending)]
    let collected := FieldMap.collect [("team", .descending), ("name", .ascending)]
    (∃ body, (refined merged).toValue = .object [("$facet", body)] ∧
      body.fields?.map FieldMap.keys = some ["total", "data"]) ∧
    refined merged = refined collected ∧ [refined merged] = [refined collected] := by
  intro merged collected
  have hmerged : (refined merged).Built := built_refined (by decide)
  have hcollected : (refined collected).Built := built_refined (.collect _)
  obtain ⟨hform, hstages, hpipelines⟩ := sent_form_determines_stage
  obtain ⟨body, hbody, hkeys, -⟩ := hform _ hmerged
  exact ⟨⟨body, hbody, hkeys _ rfl⟩, hstages _ _ hmerged hcollected rfl,
    hpipelines _ _ ⟨hmerged, trivial⟩ ⟨hcollected, trivial⟩ rfl⟩

/-- A key that stood twice would be sent once. -/
example : (Stage.sort [("name", .ascending), ("name", .descending)]).toValue
    = (Stage.sort [("name", .descending)]).toValue := rfl

end DocQuery.Stage
