import RoboLake.Registry.Generations

/-! # Version numbers

The Versions in the order of their registration: a step appends at most one row, and
the Versions of a Dataset carry the numbers 1, 2, … in that order.
-/

namespace RoboLake

open Foundation Store Migrations

variable [Platform] {env : Env} {r : Registry} {op : Operation} {db : Database}

/-! ## New Versions -/

/-- What a step does to the list of Versions: it keeps the ids, or appends one new row. -/
inductive VersionsGrown (before after : Database) : Prop
  | kept (h : after.versions.rows.map DatasetVersionModel.id =
      before.versions.rows.map DatasetVersionModel.id)
  | appended {v : DatasetVersionModel} (h : after.versions.rows = before.versions.rows ++ [v])
      (hnumber : v.versionNumber = nextVersionNumber before v.datasetId)

theorem versionsGrown_of_effect (heffect : Effect env r op db) : VersionsGrown r.db db := by
  cases heffect with
  | versionRegistered _ _ hv hfree _ _ _ _ =>
      refine .appended (Relation.rows_insert hfree) ?_
      rw [hv]
      rfl
  | uploadStarted => exact .kept (Relation.map_key_replace _ _)
  | uploadFailed => exact .kept (Relation.map_key_replace _ _)
  | uploadRestarted => exact .kept (Relation.map_key_replace _ _)
  | versionFinalized => exact .kept (Relation.map_key_replace _ _)
  | _ => exact .kept rfl

/-! ## Numbers in registration order -/

def numbersOf (db : Database) (datasetId : UUID) : List Nat :=
  (db.versions.rows.filter fun v => v.datasetId = datasetId).map DatasetVersionModel.versionNumber

theorem nextVersionNumber_eq (db : Database) (datasetId : UUID) :
    nextVersionNumber db datasetId = (numbersOf db datasetId).foldr max 0 + 1 := rfl

/-- The columns of a Version that number it. -/
def numberedOf (v : DatasetVersionModel) : UUID × Nat := (v.datasetId, v.versionNumber)

theorem numbersOf_eq (db : Database) (datasetId : UUID) :
    numbersOf db datasetId = ((db.versions.rows.map numberedOf).filter fun x =>
      x.1 = datasetId).map Prod.snd := by
  rw [numbersOf, List.filter_map, List.map_map]
  rfl

theorem numbered_of_kept (hextends : Extends r.db db) (hsealed : AllSealed r.db)
    (hids : db.versions.rows.map DatasetVersionModel.id =
      r.db.versions.rows.map DatasetVersionModel.id) :
    db.versions.rows.map numberedOf = r.db.versions.rows.map numberedOf := by
  have hlater : Relation.Later (fun v v' => SameContent v v') r.db.versions db.versions := by
    intro id v hv
    obtain ⟨v', hv', hkept⟩ := hextends.versions id v hv
    exact ⟨v', hv', hkept.content (hsealed v (Relation.mem_of_get? hv))⟩
  refine hlater.map_eq hids ?_
  intro v v' hsame
  obtain ⟨hdataset, hnumber, _⟩ := hsame
  exact Prod.ext hdataset hnumber

/-- A step keeps the numbers of a Dataset or appends the next one. -/
theorem numbersOf_step (hextends : Extends r.db db) (hsealed : AllSealed r.db)
    (heffect : Effect env r op db) (datasetId : UUID) :
    numbersOf db datasetId = numbersOf r.db datasetId ∨
      numbersOf db datasetId =
        numbersOf r.db datasetId ++ [nextVersionNumber r.db datasetId] := by
  cases versionsGrown_of_effect heffect with
  | kept hids =>
      left
      rw [numbersOf_eq, numbersOf_eq, numbered_of_kept hextends hsealed hids]
  | @appended v hrows hnumber =>
      have hnumbers : numbersOf db datasetId = numbersOf r.db datasetId ++
          ([v].filter fun v => v.datasetId = datasetId).map DatasetVersionModel.versionNumber := by
        unfold numbersOf
        rw [hrows, List.filter_append, List.map_append]
      rw [hnumbers]
      by_cases hdataset : v.datasetId = datasetId
      · right
        rw [hdataset] at hnumber
        simp [hdataset, hnumber]
      · left
        simp [hdataset]

/-- The Versions of every Dataset are numbered 1, …, k in registration order. -/
theorem numbers_of_reachable (h : store.Reachable r) (datasetId : UUID) :
    ∃ k, numbersOf r.db datasetId = List.range' 1 k := by
  refine reachable_induction (I := fun r => ∃ k, numbersOf r.db datasetId = List.range' 1 k)
    ⟨0, rfl⟩ ?_ h
  intro env r op db hcommitted _ hextends heffect hk
  obtain ⟨k, hk⟩ := hk
  rcases numbersOf_step hextends hcommitted.sealed heffect datasetId with hsame | happended
  · exact ⟨k, hsame.trans hk⟩
  · refine ⟨k + 1, ?_⟩
    rw [happended, nextVersionNumber_eq, hk, foldr_max_range', List.range'_concat, Nat.add_comm]
    simp

theorem versions_prefix_of_run (h : store.Reachable r) (calls : List Call) :
    r.db.versions.rows.map DatasetVersionModel.id <+:
      (store.runFrom r calls).db.versions.rows.map DatasetVersionModel.id := by
  refine Machine.runFrom_relates (R := fun r r' => r.db.versions.rows.map DatasetVersionModel.id <+:
    r'.db.versions.rows.map DatasetVersionModel.id) (fun _ => List.prefix_rfl)
    (fun _ _ _ => List.IsPrefix.trans) ?_ h calls
  intro r c _
  cases versionsGrown_of_effect (effect_of_step c r) with
  | kept hids =>
      change _ <+: List.map DatasetVersionModel.id (c.step r).db.versions.rows
      rw [hids]
  | appended hrows _ =>
      change _ <+: List.map DatasetVersionModel.id (c.step r).db.versions.rows
      rw [hrows, List.map_append]
      exact List.prefix_append _ _

end RoboLake
