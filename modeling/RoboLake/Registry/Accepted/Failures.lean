import RoboLake.Registry.Accepted.Multipart
import RoboLake.Registry.Accepted.Versions

/-! # Failures that are recorded

A proven mismatch of an active attempt is recorded on its session, its Blob and its
initiating Version.
-/

namespace RoboLake

open Foundation Work Store Migrations

variable [Platform] {env : Env} {r : Registry}

/-! ## Rows of a failure -/

theorem uploading_of_inProgress {u : UploadSessionModel} {b : BlobModel} (h : store.Reachable r)
    (hu : r.db.sessions.get? u.id = some u) (hstate : u.state = .inProgress)
    (hb : r.db.blobs.get? u.blobId = some b) : b.state = .uploading := by
  have hfits := (coupled_of_reachable h).fits u (Relation.mem_of_get? hu) b hb
  rw [hstate] at hfits
  exact hfits

theorem Lawful.blob_detail {db : Database} {b : BlobModel} (h : Lawful db)
    (hb : b ∈ db.blobs.rows) : ∀ d ∈ b.failureDetail, d.length ≤ 512 := by
  have hchecks := h.blob_checks b hb
  simp only [blobChecks, satisfied_cons, Rule.violated_range] at hchecks
  exact hchecks.2.1

/-! ## The call -/

/-- An attempt in IN_PROGRESS fails with its Blob while its Version is UPLOADING. -/
theorem transact_markUploadFailed {u : UploadSessionModel} {v : DatasetVersionModel}
    {code : FailureCode} {detail : String} (h : store.Reachable r)
    (hu : r.db.sessions.get? u.id = some u) (hsingle : u.strategy = .singlePut)
    (hstate : u.state = .inProgress) (hv : r.db.versions.get? u.initiatingVersionId = some v)
    (huploading : v.state = .uploading) (hdetail : detail.length ≤ 512) :
    ∃ context db, transact (markUploadFailed u.id code detail) env r =
        (.ok context, ⟨db, r.later env⟩) ∧
      (∃ u', db.sessions.get? u.id = some u' ∧ u'.state = .failed ∧ u'.blobId = u.blobId ∧
        u'.failureCode = some (sessionFailureCode code)) ∧
      ∃ b', db.blobs.get? u.blobId = some b' ∧ b'.state = .failed ∧
        b'.failureCode = some code := by
  have hcommitted := committed_of_reachable h
  have hl := hcommitted.lawful
  obtain ⟨b, hb⟩ := hl.session_blob.get (Relation.mem_of_get? hu)
  have hblob := uploading_of_inProgress h hu hstate hb
  have hbid : b.id = u.blobId := Relation.key_of_get? hb
  have hvid : v.id = u.initiatingVersionId := Relation.key_of_get? hv
  have hsealed := hcommitted.sealed v (Relation.mem_of_get? hv)
  have hbdetail := hl.blob_detail (Relation.mem_of_get? hb)
  have hvdetail := hl.version_detail (Relation.mem_of_get? hv)
  have hgiven : ∀ d ∈ some detail, d.length ≤ 512 := by
    intro d hd
    cases hd
    exact hdetail
  refine transact_of_ends ?_
  rw [markUploadFailed, ends_bind]
  refine ends_lockUpload hu hsingle hb hv ?_
  have hopen : u.state ≠ .failed := by
    rw [hstate]
    intro hclash
    cases hclash
  simp only [if_neg hopen, ends_bind, ends_require, ends_utcNow]
  refine ⟨⟨hstate, hblob, huploading⟩, ?_⟩
  rw [← hbid] at hb
  rw [← hvid] at hv
  -- The Blob and the Version pass through VERIFYING: each is written twice.
  refine @ends_flushBlob _ _ _ b { b with state := .verifying } hl hb ?_ fun ts₁ hts₁ hl₁ => ?_
  · refine blobRules_of_edge hl hb rfl rfl rfl hbdetail ?_ ?_
    · rw [hblob]
      intro hclash
      cases hclash
    · simp [hblob, blobEdges]
  let verifying : DatasetVersionModel := { v with
    state := .verifying, verifyingAt := some (env.wall 0) }
  refine @ends_flushVersion _ _ _ v verifying hl₁ hv ?_ fun ts₂ hts₂ hl₂ => ?_
  · refine versionRules_of_edge hl₁ hv hsealed ⟨_, _, _, _, _, rfl⟩ hvdetail ?_
    simp [verifying, huploading, versionEdges]
  have hb₁ : (r.db.blobs.replace { b with state := .verifying }).get? b.id =
      some { b with state := .verifying } :=
    Relation.get?_replace_self (r := { b with state := .verifying }) hb
  let failedBlob : BlobModel := { b with
    state := .failed, failureCode := some code, failureDetail := some detail }
  refine @ends_flushBlob _ _ _ { b with state := .verifying } failedBlob hl₂ hb₁ ?_
    fun ts₃ hts₃ hl₃ => ?_
  · refine blobRules_of_edge hl₂ hb₁ rfl rfl rfl hgiven ?_ ?_
    · intro hclash
      cases hclash
    · simp [failedBlob, blobEdges]
  have hv₁ : (r.db.versions.replace verifying).get? v.id = some verifying :=
    Relation.get?_replace_self (r := verifying) hv
  let failedVersion : DatasetVersionModel := { v with
    state := .failed, verifyingAt := some (env.wall 0)
    failureCode := some code, failureDetail := some detail }
  refine @ends_flushVersion _ _ _ verifying failedVersion hl₃ hv₁ ?_ fun ts₄ hts₄ hl₄ => ?_
  · refine versionRules_of_edge hl₃ hv₁ hsealed ⟨_, _, _, _, _, rfl⟩ hgiven ?_
    simp [failedVersion, verifying, versionEdges]
  let failedUpload : UploadSessionModel := { u with
    state := .failed, failureCode := some (sessionFailureCode code)
    failureDetail := some detail, completedAt := some (env.wall 0)
    lastActivityAt := env.wall 0 }
  refine @ends_flushSession _ _ _ u failedUpload hl₄ hu ?_ fun ts₅ hts₅ hl₅ => ?_
  · refine sessionRules_of_edge hl₄ hu hsingle ⟨_, u.etag, _, _, _, _, rfl⟩ hgiven ?_ ?_
    · rw [hstate]
      rfl
    · simp [failedUpload, hstate, singlePutEdges]
  have hv₂ : (((r.db.versions.replace verifying).replace failedVersion)).get? v.id =
      some failedVersion :=
    Relation.get?_replace_self (r := failedVersion) hv₁
  refine @ends_fetchDataset _ _ failedVersion _ _ hl₅ (Relation.mem_of_get? hv₂) fun d => ?_
  rw [ends_pure]
  have hb₂ : (((r.db.blobs.replace { b with state := .verifying })).replace failedBlob).get?
      u.blobId = some failedBlob := by
    rw [← hbid]
    exact Relation.get?_replace_self (r := failedBlob) hb₁
  have hu₁ : (r.db.sessions.replace failedUpload).get? u.id = some failedUpload :=
    Relation.get?_replace_self (r := failedUpload) hu
  refine ⟨⟨⟨failedUpload, hu₁, rfl, rfl, rfl⟩, failedBlob, hb₂, rfl, rfl⟩, ?_⟩
  intro t ht clock hclock
  have htouched : t = .blob b.id ∨ t = .version v.id ∨ t = .session u.blobId := by
    simp only [List.mem_append] at ht
    rcases ht with ((((ht | ht) | ht) | ht) | ht) | ht
    · cases ht
    · exact .inl (hts₁ t ht)
    · exact .inr (.inl (hts₂ t ht))
    · exact .inl (hts₃ t ht)
    · exact .inr (.inl (hts₄ t ht))
    · exact .inr (.inr (hts₅ t ht))
  have hpublication : ∀ id, id = u.blobId → Satisfied (validateM2Publication
      { r.db with
        blobs := (r.db.blobs.replace { b with state := .verifying }).replace failedBlob
        versions := (r.db.versions.replace verifying).replace failedVersion
        sessions := r.db.sessions.replace failedUpload } clock id) := by
    intro id hid
    rw [hid]
    refine publication_of_singlePut_ended h hu hsingle ?_ rfl ⟨rfl, hsingle⟩ rfl hb₂ ?_ ?_ hclock
    · rw [hstate]
      rfl
    · intro hverifying
      cases hverifying
    · intro havailable
      cases havailable
  rcases htouched with rfl | rfl | rfl
  · exact hpublication b.id hbid
  · refine requireSealedVersion_of_sealed ?_
    exact Relation.forall_replace (Relation.forall_replace hcommitted.sealed hsealed) hsealed
  · exact hpublication u.blobId rfl

end RoboLake
