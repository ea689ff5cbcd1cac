import RoboLake.Registry.Reachable

/-! # Where a row comes from

The effects seen from one row: what a session or a part of the next registry was
before the step.
-/

namespace RoboLake

open Foundation Store

variable [Platform] {env : Env} {r : Registry} {op : Operation} {db : Database}

/-! ## Sessions -/

/-- A session after a step was there before, is the next row of an active one, or is new. -/
inductive SessionOrigin (op : Operation) (before after : Database) (u' : UploadSessionModel) : Prop
  | kept (h : u' ∈ before.sessions.rows)
  | moved {u : UploadSessionModel} (h : before.sessions.get? u'.id = some u)
      (hactive : u.state.isActive = true)
  | singlePut (hcreated : u'.state = .created) (hsingle : u'.strategy = .singlePut)
      (hfree : before.sessions.get? u'.id = none)
  | multipart {requestId versionId blobId : UUID} {plan : HashedMultipartPlan} {b : BlobModel}
      {now : Timestamp} (hrow : u' = plannedSession u'.id blobId versionId
        (nextGeneration before blobId) plan now)
      (hfree : before.sessions.get? u'.id = none) (hb : before.blobs.get? blobId = some b)
      (hsize : b.sizeBytes = plan.plan.blobSizeBytes)
      (hparts : after.parts.rows = before.parts.rows ++ plan.plan.parts.map (pendingPart u'.id))
      (hop : op = .createOrResolveMultipart requestId versionId blobId plan)
      (href : before.References versionId blobId)
      (hkey : before.idempotency.get? (.multipartSessionResolve, String.ofList requestId.str) =
        none)

theorem origin_of_replace {k : UUID} {u row u' : UploadSessionModel}
    (h : u' ∈ (r.db.sessions.replace row).rows) (hu : r.db.sessions.get? k = some u)
    (hid : row.id = u.id) (hactive : u.state.isActive = true) : SessionOrigin op r.db db u' := by
  rcases Relation.mem_replace h with rfl | ⟨h, _⟩
  · exact .moved (hid ▸ Relation.get?_key hu) hactive
  · exact .kept h

theorem session_of_effect (heffect : Effect env r op db) {u' : UploadSessionModel}
    (h : u' ∈ db.sessions.rows) : SessionOrigin op r.db db u' := by
  cases heffect with
  | sessionOpened _ _ _ _ hfree _ =>
      rcases (Relation.mem_insert hfree).mp h with h | rfl
      · exact .kept h
      · exact .singlePut rfl rfl hfree
  | uploadStarted hu _ hstate => exact origin_of_replace h hu rfl (by rw [hstate]; rfl)
  | uploadVerified hu _ hstate => exact origin_of_replace h hu rfl (by rw [hstate]; rfl)
  | uploadFailed hu _ hstate => exact origin_of_replace h hu rfl (by rw [hstate]; rfl)
  | uploadRestarted _ _ _ _ _ _ hfree =>
      rcases (Relation.mem_insert hfree).mp h with h | rfl
      · exact .kept h
      · exact .singlePut rfl rfl hfree
  | multipartCreated hb href hsize _ hfree hparts hkey =>
      rcases (Relation.mem_insert hfree).mp h with h | rfl
      · exact .kept h
      · exact .multipart rfl hfree hb hsize hparts rfl href hkey
  | initiationBegun hu _ hstate => exact origin_of_replace h hu rfl (by rw [hstate]; rfl)
  | providerRecorded hu _ hstate => exact origin_of_replace h hu rfl (by rw [hstate]; rfl)
  | initiationAmbiguous hu _ _ hstate => exact origin_of_replace h hu rfl (by rw [hstate]; rfl)
  | partReplayed hu _ hstate => exact origin_of_replace h hu rfl (by rw [hstate]; rfl)
  | partRecorded hu _ hstate => exact origin_of_replace h hu rfl (by rw [hstate]; rfl)
  | partsReconciled hu _ hstate => exact origin_of_replace h hu rfl (by rw [hstate]; rfl)
  | completionAccepted hu _ _ _ hstate => exact origin_of_replace h hu rfl (by rw [hstate]; rfl)
  | phaseSet hu _ hstate => exact origin_of_replace h hu rfl (by rw [hstate]; rfl)
  | attemptInvalidated hu hstate => exact origin_of_replace h hu rfl (by rw [hstate]; rfl)
  | partsRecovered hu hstate => exact origin_of_replace h hu rfl (by rw [hstate]; rfl)
  | completionResumed hu hstate => exact origin_of_replace h hu rfl (by rw [hstate]; rfl)
  | completionVerified hu hstate => exact origin_of_replace h hu rfl (by rw [hstate]; rfl)
  | _ => exact .kept h

/-! ## Parts -/

/-- A part after a step is the next row of a stored part, or belongs to a session created by it. -/
theorem part_of_effect (heffect : Effect env r op db) {p' : UploadPartModel}
    (h : p' ∈ db.parts.rows) :
    (∃ p, r.db.parts.get? (key p') = some p) ∨
      r.db.sessions.get? p'.uploadSessionId = none := by
  cases heffect with
  | multipartCreated _ _ _ _ hfree hparts _ =>
      simp only [parts_bind, hparts, List.mem_append, List.mem_map] at h
      rcases h with h | ⟨d, _, rfl⟩
      · exact Or.inl ⟨p', Relation.get?_of_mem h⟩
      · exact Or.inr hfree
  | partRecorded _ _ _ hpart _ _ =>
      rcases Relation.mem_replace h with rfl | ⟨h, _⟩
      · exact Or.inl ⟨_, (Relation.get?_key hpart :)⟩
      · exact Or.inl ⟨p', Relation.get?_of_mem h⟩
  | partsReconciled _ _ _ hparts =>
      obtain ⟨p, hp, _, hkey⟩ := hparts.mem h
      exact Or.inl ⟨p, hkey ▸ Relation.get?_of_mem hp⟩
  | partsRecovered _ _ _ hparts _ =>
      obtain ⟨p, hp, _, hkey⟩ := hparts.mem h
      exact Or.inl ⟨p, hkey ▸ Relation.get?_of_mem hp⟩
  | completionResumed _ _ _ _ hparts _ =>
      obtain ⟨p, hp, _, hkey⟩ := hparts.mem h
      exact Or.inl ⟨p, hkey ▸ Relation.get?_of_mem hp⟩
  | _ => exact Or.inl ⟨p', Relation.get?_of_mem h⟩

end RoboLake
