import RoboLake.Registry.Coupling

/-! # Blob and session states

Blobs are written by operations of both upload strategies, each of which reads its
own session only. In a committed state they agree all the same: no Blob is left
VERIFYING, and what a session state promises about the Blob holds whichever
operation wrote it last.
-/

namespace RoboLake

open Foundation Store Migrations

section States

variable [Platform] {env : Env} {r : Registry} {op : Operation} {db : Database}

/-! ## Settled Blobs -/

/-- No Blob is between its verification and its publication. -/
def Settled (db : Database) : Prop := ∀ b ∈ db.blobs.rows, b.state ≠ .verifying

omit [Platform] in
theorem startedBlob_settled {b : BlobModel} (h : b.state ≠ .verifying) :
    (startedBlob b).state ≠ .verifying := by
  unfold startedBlob
  split
  · nofun
  · exact h

theorem settled_of_effect (heffect : Effect env r op db) (h : Settled r.db) : Settled db := by
  cases heffect with
  | versionRegistered _ _ _ _ _ hblobs _ _ =>
      intro b hb
      rcases hblobs.fresh b hb with hold | ⟨_, hpending, _⟩
      · exact h b hold
      · rw [hpending]
        nofun
  | uploadStarted _ _ _ hb _ =>
      exact Relation.forall_replace h (startedBlob_settled (h _ (Relation.mem_of_get? hb)))
  | uploadVerified => exact Relation.forall_replace h nofun
  | uploadFailed => exact Relation.forall_replace h nofun
  | uploadRestarted => exact Relation.forall_replace h nofun
  | providerRecorded => exact Relation.forall_replace h nofun
  | completionVerified => exact Relation.forall_replace h nofun
  | _ => exact h

theorem settled_of_reachable (h : store.Reachable r) : Settled r.db := by
  have hinitial : Settled Registry.initial.db := by
    intro b hb
    cases hb
  exact reachable_induction (I := fun r => Settled r.db) hinitial
    (fun _ _ _ _ _ _ _ heffect hr => settled_of_effect heffect hr) h

/-! ## States beside each other -/

theorem active_unique (h : store.Reachable r) {u u' : UploadSessionModel}
    (hu : u ∈ r.db.sessions.rows) (hu' : u' ∈ r.db.sessions.rows)
    (hactive : u.state.isActive = true) (hactive' : u'.state.isActive = true)
    (hblob : u.blobId = u'.blobId) : u = u' := by
  have hlawful := (committed_of_reachable h).lawful
  have hkey : activeKey u = some u'.blobId := activeKey_eq_some.mpr ⟨hactive, hblob⟩
  exact hlawful.session_active u hu u' hu' u'.blobId hkey (activeKey_eq_some.mpr ⟨hactive', rfl⟩)

theorem inactive_of_failed (h : store.Reachable r) {u : UploadSessionModel} {b : BlobModel}
    (hu : u ∈ r.db.sessions.rows) (hsingle : u.strategy = .singlePut)
    (hb : r.db.blobs.get? u.blobId = some b) (hfailed : b.state = .failed) :
    u.state.isActive = false := by
  have hfits := (coupled_of_reachable h).fits u hu b hb
  rw [hsingle, hfailed] at hfits
  rcases (committed_of_reachable h).lawful.session_single u hu hsingle with
    hstate | hstate | hstate | hstate
  · rw [hstate] at hfits
    simp [SessionState.Fits] at hfits
  · rw [hstate] at hfits
    cases hfits
  · rw [hstate]
    rfl
  · rw [hstate]
    rfl

/-- In every committed state the states of Blobs and of their sessions agree. -/
theorem blob_and_session_states_agree (h : store.Reachable r) :
    (∀ b ∈ r.db.blobs.rows, b.state ≠ .verifying) ∧
    (∀ u ∈ r.db.sessions.rows, ∀ u' ∈ r.db.sessions.rows, u.blobId = u'.blobId →
      u.state.isActive = true → u'.state.isActive = true → u = u') ∧
    (∀ u ∈ r.db.sessions.rows, ∃ b, r.db.blobs.get? u.blobId = some b ∧
      (u.strategy = .singlePut → u.state = .created → b.state = .pending ∨ b.state = .uploading) ∧
      (u.state = .inProgress ∨ u.state = .completing → b.state = .uploading) ∧
      (u.state = .completed → b.state = .available)) ∧
    (∀ b ∈ r.db.blobs.rows, b.state = .available →
      ∃ u ∈ r.db.sessions.rows, u.blobId = b.id ∧ u.state = .completed) ∧
    ∀ b ∈ r.db.blobs.rows, b.state = .failed → ∀ u ∈ r.db.sessions.rows, u.blobId = b.id →
      u.strategy = .singlePut → u.state.isActive = false := by
  have hcoupled := coupled_of_reachable h
  have hlawful := (committed_of_reachable h).lawful
  refine ⟨settled_of_reachable h, ?_, ?_, hcoupled.completed, ?_⟩
  · intro u hu u' hu' hblob hactive hactive'
    exact active_unique h hu hu' hactive hactive' hblob
  · intro u hu
    obtain ⟨b, hb⟩ := hlawful.session_blob.get hu
    have hfits := hcoupled.fits u hu b hb
    refine ⟨b, hb, ?_, ?_, ?_⟩
    · intro hsingle hcreated
      rw [hcreated, hsingle] at hfits
      simpa [SessionState.Fits] using hfits
    · intro hstate
      rcases hstate with hstate | hstate
      · rw [hstate] at hfits
        exact hfits
      · rw [hstate] at hfits
        exact hfits
    · intro hstate
      rw [hstate] at hfits
      exact hfits
  · intro b hb hfailed u hu hblob hsingle
    have hget : r.db.blobs.get? b.id = some b := Relation.get?_of_mem hb
    exact inactive_of_failed h hu hsingle (by rw [hblob, hget]) hfailed

end States

namespace Sample

set_option maxRecDepth 100000 in
/-- The Blob of the started attempt is UPLOADING. -/
theorem sample_states_agree :
    ∃ u b, (store.runFrom store.start started).db.sessions.get? 700 = some u ∧
      (store.runFrom store.start started).db.blobs.get? u.blobId = some b ∧
      b.state = .uploading := by
  have hsession : ((store.runFrom store.start started).db.sessions.get? 700).any (fun u =>
      u.state = .inProgress) = true := by
    decide +kernel
  obtain ⟨u, hu, hstate⟩ := (Option.any_eq_true _ _).mp hsession
  obtain ⟨b, hb, _, huploading, _⟩ := (blob_and_session_states_agree ⟨started, rfl⟩).2.2.1 u
    (Relation.mem_of_get? hu)
  exact ⟨u, b, hu, hb, huploading (Or.inl (of_decide_eq_true hstate))⟩

end Sample

end RoboLake
