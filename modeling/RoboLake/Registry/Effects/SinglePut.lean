import RoboLake.Registry.Effect

/-! # Effects of the single-PUT and publication operations -/

namespace RoboLake

open Foundation Work Store

variable [Platform] {env : Env} {r : Registry} {s : TxState}

theorem run_lockUpload_bind_ok {α : Type} {id : UUID}
    {f : UploadSessionModel × BlobModel × DatasetVersionModel → Tx α} {s s' : TxState} {a : α}
    (h : run (lockUpload id >>= f) s = .ok (a, s')) :
    ∃ u b v, s.db.sessions.get? id = some u ∧ u.strategy = .singlePut ∧
      s.db.blobs.get? u.blobId = some b ∧ s.db.versions.get? u.initiatingVersionId = some v ∧
      run (f (u, b, v)) s = .ok (a, s') := by
  simp only [lockUpload, Work.bind_assoc, run_fetch_bind_ok, run_ofExcept_bind_ok,
    requireSinglePutSession_ok, run_pure_bind] at h
  obtain ⟨u, hu, _, hsingle, b, hb, v, hv, h⟩ := h
  exact ⟨u, b, v, hu, hsingle, hb, hv, h⟩

theorem effect_markUploadInProgress {id : UUID} {a : UploadContext}
    (h : run (markUploadInProgress id) (beginTx env r) = .ok (a, s)) :
    Effect env r (.markUploadInProgress id) s.db := by
  obtain ⟨u, b, v, hu, hsingle, hb, hv, hrun⟩ := run_lockUpload_bind_ok h
  obtain rfl : u.id = id := Relation.key_of_get? hu
  simp only at hrun
  by_cases hcreated : u.state = .created
  · rw [if_pos hcreated] at hrun
    simp only [run_utcNow_bind] at hrun
    obtain ⟨_, hrun⟩ := run_flushBlob_bind_ok hrun
    obtain ⟨_, hrun⟩ := run_flushVersion_bind_ok hrun
    obtain ⟨_, hrun⟩ := run_flushSession_bind_ok hrun
    simp only [run_pure_bind, fetchDataset, run_fetch_bind_ok, run_pure_ok] at hrun
    obtain ⟨_, _, _, rfl⟩ := hrun
    exact .uploadStarted hu hsingle hcreated hb hv
  · rw [if_neg hcreated] at hrun
    simp only [run_require_bind_ok, run_pure_bind, fetchDataset, run_fetch_bind_ok,
      run_pure_ok] at hrun
    obtain ⟨_, _, _, _, rfl⟩ := hrun
    exact .idle

theorem effect_markUploadVerified {id : UUID} {etag : Option String} {a : UploadContext}
    (h : run (markUploadVerified id etag) (beginTx env r) = .ok (a, s)) :
    Effect env r (.markUploadVerified id etag) s.db := by
  obtain ⟨u, b, v, hu, hsingle, hb, hv, hrun⟩ := run_lockUpload_bind_ok h
  obtain rfl : u.id = id := Relation.key_of_get? hu
  simp only at hrun
  by_cases hcompleted : u.state = .completed
  · rw [if_pos hcompleted] at hrun
    simp only [fetchDataset, run_fetch_bind_ok, run_pure_ok] at hrun
    obtain ⟨_, _, _, rfl⟩ := hrun
    exact .idle
  · rw [if_neg hcompleted] at hrun
    simp only [run_require_bind_ok, run_utcNow_bind] at hrun
    obtain ⟨hstate, huploading, hrun⟩ := hrun
    obtain ⟨_, hrun⟩ := run_flushBlob_bind_ok hrun
    obtain ⟨_, hrun⟩ := run_flushBlob_bind_ok hrun
    obtain ⟨_, hrun⟩ := run_flushSession_bind_ok hrun
    simp only [fetchDataset, run_fetch_bind_ok, run_pure_ok] at hrun
    obtain ⟨_, _, _, rfl⟩ := hrun
    simp only
    rw [Relation.replace_replace]
    · exact .uploadVerified hu hsingle hstate hb huploading hv
    · rfl

theorem effect_markUploadFailed {id : UUID} {code : FailureCode} {detail : String}
    {a : UploadContext}
    (h : run (markUploadFailed id code detail) (beginTx env r) = .ok (a, s)) :
    Effect env r (.markUploadFailed id code detail) s.db := by
  obtain ⟨u, b, v, hu, hsingle, hb, hv, hrun⟩ := run_lockUpload_bind_ok h
  obtain rfl : u.id = id := Relation.key_of_get? hu
  simp only at hrun
  by_cases hfailed : u.state = .failed
  · rw [if_pos hfailed] at hrun
    simp only [fetchDataset, run_fetch_bind_ok, run_pure_ok] at hrun
    obtain ⟨_, _, _, rfl⟩ := hrun
    exact .idle
  · rw [if_neg hfailed] at hrun
    simp only [run_require_bind_ok, run_utcNow_bind] at hrun
    obtain ⟨⟨hstate, huploading, hversion⟩, hrun⟩ := hrun
    obtain ⟨_, hrun⟩ := run_flushBlob_bind_ok hrun
    obtain ⟨_, hrun⟩ := run_flushVersion_bind_ok hrun
    obtain ⟨_, hrun⟩ := run_flushBlob_bind_ok hrun
    obtain ⟨_, hrun⟩ := run_flushVersion_bind_ok hrun
    obtain ⟨_, hrun⟩ := run_flushSession_bind_ok hrun
    simp only [fetchDataset, run_fetch_bind_ok, run_pure_ok] at hrun
    obtain ⟨_, _, _, rfl⟩ := hrun
    simp only
    rw [Relation.replace_replace, Relation.replace_replace]
    · exact .uploadFailed hu hsingle hstate hb huploading hv hversion
    · rfl
    · rfl

theorem effect_finalizeVersion {id : UUID} {a : VersionRecord}
    (h : run (finalizeVersion id) (beginTx env r) = .ok (a, s)) :
    Effect env r (.finalizeVersion id) s.db := by
  simp only [finalizeVersion, fetchDataset, run_fetch_bind_ok] at h
  obtain ⟨v, hv, _, _, hrun⟩ := h
  obtain rfl : v.id = id := Relation.key_of_get? hv
  by_cases hready : v.state = .ready
  · rw [if_pos hready, run_pure_ok] at hrun
    rw [hrun.2]
    exact .idle
  · rw [if_neg hready] at hrun
    simp only [run_require_bind_ok, run_ofExcept_bind_ok, run_select_bind, decide_eq_false_iff_not,
      run_utcNow_bind] at hrun
    obtain ⟨hstate, canonical, hcanonical, hmatch, havailable, hrun⟩ := hrun
    obtain ⟨_, hrun⟩ := run_flushVersion_bind_ok hrun
    obtain ⟨_, hrun⟩ := run_flushVersion_bind_ok hrun
    obtain ⟨_, rfl⟩ := run_pure_ok.mp hrun
    simp only
    rw [Relation.replace_replace]
    · exact .versionFinalized hv hstate hcanonical hmatch havailable
    · rfl

/-! ## Sessions -/

theorem run_createSinglePut_bind_ok {α : Type} {versionId blobId : UUID}
    {f : UploadSessionModel → Tx α} {s s' : TxState} {a : α}
    (h : run (createSinglePut versionId blobId >>= f) s = .ok (a, s')) :
    ∃ s₁ createdAt lastActivityAt, s.db.sessions.get? (s.uuids 0) = none ∧
      s₁.db = { s.db with
        sessions := s.db.sessions.insert
          (singlePutSession (s.uuids 0) versionId blobId createdAt lastActivityAt) } ∧
      run (f (singlePutSession (s.uuids 0) versionId blobId createdAt lastActivityAt)) s₁ =
        .ok (a, s') := by
  simp only [createSinglePut, Work.bind_assoc, run_uuid4_bind, run_utcNow_bind,
    run_perform_bind_ok, run_pure_bind] at h
  obtain ⟨s₁, hw, h⟩ := h
  obtain ⟨_, hfree, rfl⟩ := exec_insertSession_ok.mp hw
  exact ⟨_, _, _, hfree, rfl, h⟩

theorem run_bindUpload_bind_ok {α : Type} {key : String} {sha : Sha256Digest} {id : UUID}
    {f : Unit → Tx α} {s s' : TxState} {a : α}
    (h : run (bindUpload key sha id >>= f) s = .ok (a, s')) :
    ∃ s₁, s₁.db = s.db.bind (uploadBinding key sha id) ∧ run (f ()) s₁ = .ok (a, s') := by
  rw [bindUpload, run_perform_bind_ok] at h
  obtain ⟨s₁, hw, h⟩ := h
  obtain ⟨_, _, rfl⟩ := exec_insertIdempotency_ok.mp hw
  exact ⟨_, rfl, h⟩

theorem mem_of_latestUpload {s : TxState} {blobId : UUID} {u : UploadSessionModel}
    (h : latestUpload s blobId = some u) : u ∈ s.db.sessions.rows ∧ u.blobId = blobId := by
  have hmem := List.mem_of_getElem? h
  exact Database.mem_sessionsOf.mp (List.mem_filter.mp hmem).1

theorem mem_of_activeUpload {db : Database} {blobId : UUID} {u : UploadSessionModel}
    (h : activeUpload db blobId = some u) :
    u ∈ db.sessions.rows ∧ u.blobId = blobId ∧ (u.state = .created ∨ u.state = .inProgress) := by
  have hmem := Database.mem_sessionsOf.mp (List.mem_of_find?_eq_some h)
  have hstate := List.find?_some h
  exact ⟨hmem.1, hmem.2, by simpa using hstate⟩

theorem effect_prepareUpload {versionId : UUID} {digest : Sha256Digest} {key : String}
    {sha : Sha256Digest} {a : UploadContext}
    (h : run (prepareUpload versionId digest key sha) (beginTx env r) = .ok (a, s)) :
    Effect env r (.prepareUpload versionId digest key sha) s.db := by
  simp only [prepareUpload, fetchDataset, run_fetch_bind_ok] at h
  obtain ⟨v, hv, _, _, b, hb, h⟩ := h
  by_cases havailable : b.state = .available
  · rw [if_pos havailable, run_pure_ok] at h
    rw [h.2]
    exact .idle
  · rw [if_neg havailable, run_select_bind] at h
    cases hkey : (beginTx env r).db.idempotency.get? (.uploadSessionCreate, key) with
    | some replay =>
        simp only [hkey, run_require_bind_ok, run_fetch_bind_ok, run_ofExcept_bind_ok,
          run_pure_ok] at h
        obtain ⟨_, _, _, _, _, _, _, _, rfl⟩ := h
        exact .idle
    | none =>
        simp only [hkey, run_select_bind] at h
        cases hactive : activeUpload (beginTx env r).db b.id with
        | some u =>
            simp only [hactive, uploadToBind, run_pure_bind, run_ofExcept_bind_ok,
              requireSinglePutSession_ok] at h
            obtain ⟨_, hsingle, h⟩ := h
            obtain ⟨s₁, hdb, h⟩ := run_bindUpload_bind_ok h
            obtain ⟨_, rfl⟩ := run_pure_ok.mp h
            rw [hdb]
            obtain ⟨hu, hub, _⟩ := mem_of_activeUpload hactive
            exact .uploadBound hb havailable (Relation.get?_of_mem hu) hub hsingle hkey
        | none =>
            by_cases hpending : b.state = .pending
            · simp only [hactive, uploadToBind, if_pos hpending] at h
              obtain ⟨s₁, _, _, hfree, hdb₁, h⟩ := run_createSinglePut_bind_ok h
              simp only [run_ofExcept_bind_ok] at h
              obtain ⟨_, _, h⟩ := h
              obtain ⟨s₂, hdb₂, h⟩ := run_bindUpload_bind_ok h
              obtain ⟨_, rfl⟩ := run_pure_ok.mp h
              rw [hdb₂, hdb₁]
              exact .sessionOpened hv hb hpending hactive hfree hkey
            · simp only [hactive, uploadToBind, if_neg hpending, run_fetch_bind_ok,
                run_ofExcept_bind_ok, requireSinglePutSession_ok] at h
              obtain ⟨u, hlatest, _, hsingle, h⟩ := h
              obtain ⟨s₁, hdb, h⟩ := run_bindUpload_bind_ok h
              obtain ⟨_, rfl⟩ := run_pure_ok.mp h
              rw [hdb]
              obtain ⟨hu, hub⟩ := mem_of_latestUpload hlatest
              exact .uploadBound hb havailable (Relation.get?_of_mem hu) hub hsingle hkey

theorem effect_restartFailedUpload {versionId blobId : UUID} {key : String} {sha : Sha256Digest}
    {a : UploadContext}
    (h : run (restartFailedUpload versionId blobId key sha) (beginTx env r) = .ok (a, s)) :
    Effect env r (.restartFailedUpload versionId blobId key sha) s.db := by
  simp only [restartFailedUpload, fetchDataset, run_fetch_bind_ok, run_select_bind,
    run_require_bind_ok, decide_eq_true_eq] at h
  obtain ⟨v, hv, b, hb, _, _, href, hrun⟩ := h
  obtain rfl : v.id = versionId := Relation.key_of_get? hv
  obtain rfl : b.id = blobId := Relation.key_of_get? hb
  cases hkey : (beginTx env r).db.idempotency.get? (.uploadSessionCreate, key) with
  | some replay =>
      simp only [hkey, run_require_bind_ok, run_fetch_bind_ok, run_ofExcept_bind_ok,
        run_pure_ok] at hrun
      obtain ⟨_, _, _, _, _, _, _, _, rfl⟩ := hrun
      exact .idle
  | none =>
      simp only [hkey, run_select_bind, run_ofExcept_bind_ok, run_require_bind_ok] at hrun
      obtain ⟨_, _, ⟨hversion, hblob⟩, hrun⟩ := hrun
      obtain ⟨_, hrun⟩ := run_flushBlob_bind_ok hrun
      obtain ⟨_, hrun⟩ := run_flushVersion_bind_ok hrun
      obtain ⟨s₁, _, _, hfree, hdb₁, hrun⟩ := run_createSinglePut_bind_ok hrun
      obtain ⟨s₂, hdb₂, hrun⟩ := run_bindUpload_bind_ok hrun
      obtain ⟨_, rfl⟩ := run_pure_ok.mp hrun
      rw [hdb₂, hdb₁]
      exact .uploadRestarted hv hb href hkey hversion hblob hfree

end RoboLake
