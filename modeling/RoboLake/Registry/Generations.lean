import RoboLake.Registry.Plans

/-! # Generations

The sessions of a Blob in the order of their creation: a step appends at most one
row, and the multipart rows carry the generations 1, 2, … in that order.
-/

namespace RoboLake

open Foundation Store Migrations

variable [Platform] {env : Env} {r : Registry} {op : Operation} {db : Database}

/-! ## New sessions -/

/-- What a step does to the list of sessions: it keeps the ids, or appends one new row. -/
inductive SessionsGrown (before after : Database) : Prop
  | kept (h : after.sessions.rows.map UploadSessionModel.id =
      before.sessions.rows.map UploadSessionModel.id)
  | appended {u : UploadSessionModel} (h : after.sessions.rows = before.sessions.rows ++ [u])
      (hnew : u.strategy = .singlePut ∨
        u.strategy = .multipart ∧ u.sessionGeneration = some (nextGeneration before u.blobId))

omit [Platform] in
theorem ids_replace (sessions : Relation UploadSessionModel) (u : UploadSessionModel) :
    (sessions.replace u).rows.map UploadSessionModel.id =
      sessions.rows.map UploadSessionModel.id :=
  Relation.map_key_replace sessions.rows u

theorem sessionsGrown_of_effect (heffect : Effect env r op db) : SessionsGrown r.db db := by
  cases heffect with
  | sessionOpened _ _ _ _ hfree _ =>
      exact .appended (Relation.rows_insert hfree) (Or.inl rfl)
  | uploadRestarted _ _ _ _ _ _ hfree =>
      exact .appended (Relation.rows_insert hfree) (Or.inl rfl)
  | multipartCreated _ _ _ _ hfree _ _ =>
      exact .appended (Relation.rows_insert hfree) (Or.inr ⟨rfl, rfl⟩)
  | uploadStarted => exact .kept (ids_replace _ _)
  | uploadVerified => exact .kept (ids_replace _ _)
  | uploadFailed => exact .kept (ids_replace _ _)
  | initiationBegun => exact .kept (ids_replace _ _)
  | providerRecorded => exact .kept (ids_replace _ _)
  | initiationAmbiguous => exact .kept (ids_replace _ _)
  | partReplayed => exact .kept (ids_replace _ _)
  | partRecorded => exact .kept (ids_replace _ _)
  | partsReconciled => exact .kept (ids_replace _ _)
  | completionAccepted => exact .kept (ids_replace _ _)
  | phaseSet => exact .kept (ids_replace _ _)
  | attemptInvalidated => exact .kept (ids_replace _ _)
  | partsRecovered => exact .kept (ids_replace _ _)
  | completionResumed => exact .kept (ids_replace _ _)
  | completionVerified => exact .kept (ids_replace _ _)
  | _ => exact .kept rfl

/-! ## Generations in creation order -/

def generationsOf (db : Database) (blobId : UUID) : List (Option Nat) :=
  ((db.sessionsOf blobId).filter fun u => u.strategy = .multipart).map
    UploadSessionModel.sessionGeneration

/-- The columns of a session that place it: its Blob, its strategy and its generation. -/
def placeOf (u : UploadSessionModel) : UUID × UploadStrategy × Option Nat :=
  (u.blobId, u.strategy, if u.strategy = .multipart then u.sessionGeneration else none)

theorem generationsOf_eq (db : Database) (blobId : UUID) :
    generationsOf db blobId = (((db.sessions.rows.map placeOf).filter fun x =>
      x.1 = blobId && x.2.1 = .multipart).map fun x => x.2.2) := by
  rw [generationsOf, Database.sessionsOf, List.filter_filter, List.filter_map, List.map_map]
  have hfilter : (db.sessions.rows.filter fun u =>
      decide (u.strategy = .multipart) && decide (u.blobId = blobId)) =
      db.sessions.rows.filter ((fun x : UUID × UploadStrategy × Option Nat =>
        x.1 = blobId && x.2.1 = .multipart) ∘ placeOf) := by
    refine List.filter_congr fun u _ => ?_
    exact Bool.and_comm _ _
  rw [hfilter]
  refine List.map_congr_left fun u hu => ?_
  have hm := (Bool.and_eq_true_iff.mp (List.mem_filter.mp hu).2).2
  have hmultipart : u.strategy = .multipart := of_decide_eq_true hm
  simp [placeOf, hmultipart]

omit [Platform] in
theorem SessionLater.place {u u' : UploadSessionModel} (h : SessionLater u u') :
    placeOf u' = placeOf u := by
  have hgeneration : u.strategy = .multipart → u'.sessionGeneration = u.sessionGeneration :=
    fun hm => (h.plan hm).1
  unfold placeOf
  rw [h.blob, h.strategy]
  by_cases hm : u.strategy = .multipart
  · rw [if_pos hm, if_pos hm, hgeneration hm]
  · rw [if_neg hm, if_neg hm]

/-- A step keeps the generations of a Blob or appends the next one. -/
theorem generationsOf_step (hextends : Extends r.db db) (heffect : Effect env r op db)
    (blobId : UUID) :
    generationsOf db blobId = generationsOf r.db blobId ∨
      generationsOf db blobId =
        generationsOf r.db blobId ++ [some (nextGeneration r.db blobId)] := by
  cases sessionsGrown_of_effect heffect with
  | kept hids =>
      have hplaces : db.sessions.rows.map placeOf = r.db.sessions.rows.map placeOf :=
        hextends.sessions.map_eq hids fun _ _ hlater => hlater.place
      rw [generationsOf_eq, generationsOf_eq, hplaces]
      exact Or.inl rfl
  | @appended u hrows hnew =>
      have hsessions : generationsOf db blobId = generationsOf r.db blobId ++
          (([u].filter fun u => u.blobId = blobId).filter fun u => u.strategy = .multipart).map
            UploadSessionModel.sessionGeneration := by
        simp only [generationsOf, Database.sessionsOf, hrows, List.filter_append, List.map_append]
      rw [hsessions]
      by_cases hub : u.blobId = blobId
      · rcases hnew with hsingle | ⟨hm, hgeneration⟩
        · simp [hub, hsingle]
        · rw [hub] at hgeneration
          simp [hub, hm, hgeneration]
      · simp [hub]

/-! ## Numbers -/

omit [Platform] in
theorem foldr_max_range' (k : Nat) : (List.range' 1 k).foldr max 0 = k := by
  have hbound : ∀ (l : List Nat) (n : Nat), (∀ x ∈ l, x ≤ n) → l.foldr max 0 ≤ n := by
    intro l n hl
    induction l with
    | nil => exact Nat.zero_le n
    | cons x l ih =>
        have htail := ih fun y hy => hl y (List.mem_cons_of_mem x hy)
        exact max_le (hl x List.mem_cons_self) htail
  have hmem : ∀ (l : List Nat) (x : Nat), x ∈ l → x ≤ l.foldr max 0 := by
    intro l x hx
    induction l with
    | nil => cases hx
    | cons y l ih =>
        rcases List.mem_cons.mp hx with rfl | hx
        · exact le_max_left _ _
        · exact (ih hx).trans (le_max_right _ _)
  apply Nat.le_antisymm
  · apply hbound
    intro x hx
    have := List.mem_range'_1.mp hx
    omega
  · cases k with
    | zero => exact Nat.zero_le _
    | succ k =>
        apply hmem
        rw [List.mem_range'_1]
        omega

theorem generation_of_singlePut (h : Lawful db) {u : UploadSessionModel}
    (hu : u ∈ db.sessions.rows) (hsingle : u.strategy ≠ .multipart) :
    u.sessionGeneration = none := by
  have hchecks := h.session_checks u hu
  simp only [sessionChecks, satisfied_cons, Rule.violated_check] at hchecks
  obtain ⟨_, _, _, _, _, _, _, hplan, _⟩ := hchecks
  by_contra hsome
  apply hplan
  simp [multipartPlanCheck, hsingle, hsome]

theorem nextGeneration_of_numbered {blobId : UUID} {k : Nat} (h : Lawful db)
    (hk : generationsOf db blobId = (List.range' 1 k).map some) :
    nextGeneration db blobId = k + 1 := by
  have hall : (db.sessionsOf blobId).filterMap UploadSessionModel.sessionGeneration =
      (generationsOf db blobId).filterMap id := by
    rw [generationsOf, List.filterMap_map, List.filterMap_filter]
    refine List.filterMap_congr fun u hu => ?_
    by_cases hm : u.strategy = .multipart
    · simp [hm]
    · simp [hm, generation_of_singlePut h (Database.mem_sessionsOf.mp hu).1 hm]
  have hnumbers : ((List.range' 1 k).map some).filterMap id = List.range' 1 k := by
    rw [List.filterMap_map]
    exact List.filterMap_some
  rw [nextGeneration, hall, hk, hnumbers, foldr_max_range']

/-- The multipart sessions of every Blob are numbered 1, …, k in creation order. -/
theorem generations_of_reachable (h : store.Reachable r) (blobId : UUID) :
    ∃ k, generationsOf r.db blobId = (List.range' 1 k).map some := by
  refine reachable_induction (I := fun r => ∃ k, generationsOf r.db blobId =
    (List.range' 1 k).map some) ⟨0, rfl⟩ ?_ h
  intro env r op db hcommitted _ hextends heffect hk
  obtain ⟨k, hk⟩ := hk
  rcases generationsOf_step hextends heffect blobId with hsame | happended
  · exact ⟨k, hsame.trans hk⟩
  · refine ⟨k + 1, ?_⟩
    rw [happended, hk, nextGeneration_of_numbered hcommitted.lawful hk, List.range'_concat,
      List.map_append]
    simp [Nat.add_comm]

/-- Rows are listed in the order of their creation: later sessions come after earlier ones. -/
theorem ids_prefix_of_run (h : store.Reachable r) (calls : List Call) :
    r.db.sessions.rows.map UploadSessionModel.id <+:
      (store.runFrom r calls).db.sessions.rows.map UploadSessionModel.id := by
  refine Machine.runFrom_relates (R := fun r r' => r.db.sessions.rows.map UploadSessionModel.id <+:
    r'.db.sessions.rows.map UploadSessionModel.id) (fun _ => List.prefix_rfl)
    (fun _ _ _ => List.IsPrefix.trans) ?_ h calls
  intro r c _
  cases sessionsGrown_of_effect (effect_of_step c r) with
  | kept hids =>
      change _ <+: List.map UploadSessionModel.id (c.step r).db.sessions.rows
      rw [hids]
  | appended hrows _ =>
      change _ <+: List.map UploadSessionModel.id (c.step r).db.sessions.rows
      rw [hrows, List.map_append]
      exact List.prefix_append _ _

end RoboLake
