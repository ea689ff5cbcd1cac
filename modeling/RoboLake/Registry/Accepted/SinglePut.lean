import RoboLake.Registry.Accepted
import RoboLake.Registry.Coupling

/-! # Single-PUT calls that return

When the steps of a single-PUT attempt are accepted by the database.
-/

namespace RoboLake

open Foundation Work Store Migrations

variable [Platform] {env : Env} {r : Registry}

/-! ## Rows of an attempt -/

omit [Platform] in
theorem sessionChecks_singlePut {u u' : UploadSessionModel} (h : Satisfied (sessionChecks u))
    (hsingle : u.strategy = .singlePut) (hu' : ∃ state etag code detail completedAt activityAt,
      u' = { u with
        state := state, etag := etag, failureCode := code, failureDetail := detail
        completedAt := completedAt, lastActivityAt := activityAt })
    (hdetail : ∀ d ∈ u'.failureDetail, d.length ≤ 512) : Satisfied (sessionChecks u') := by
  obtain ⟨state, etag, code, detail, completedAt, activityAt, rfl⟩ := hu'
  simp only [sessionChecks, satisfied_cons, satisfied_nil, Rule.violated_range] at h hdetail ⊢
  obtain ⟨hgeneration, hsize, hcount, hobserved, hread, himpl, _, hplan, _, hevidence, _⟩ := h
  refine ⟨hgeneration, hsize, hcount, hobserved, hread, himpl, hdetail, hplan, ?_, hevidence,
    trivial⟩
  simp [providerIdCheck, hsingle]

theorem blobRules_of_edge {db : Database} {b b' : BlobModel} (h : Lawful db)
    (hb : db.blobs.get? b'.id = some b) (hsha : b'.sha256 = b.sha256)
    (hsize : b'.sizeBytes = b.sizeBytes) (hobject : b'.objectKey = b.objectKey)
    (hdetail : ∀ d ∈ b'.failureDetail, d.length ≤ 512)
    (havailable : b.state ≠ .available) (hedge : (b.state, b'.state) ∈ blobEdges) :
    Satisfied (guardBlob b b' ++ blobConstraints db b') := by
  have hchecks := h.blob_checks b (Relation.mem_of_get? hb)
  rw [satisfied_append]
  refine ⟨?_, h.blobConstraints_kept hb hsha hobject ?_⟩
  · simp [guardBlob, hsha, hsize, hobject, havailable, hedge]
  · simp only [blobChecks, satisfied_cons, Rule.violated_range, satisfied_nil] at hchecks ⊢
    rw [hsize, hobject, hsha]
    exact ⟨hchecks.1, hdetail, hchecks.2.2⟩

/-- A single-PUT session moves along an edge to a row of the same attempt. -/
theorem sessionRules_of_edge {db : Database} {u u' : UploadSessionModel} (h : Lawful db)
    (hu : db.sessions.get? u'.id = some u) (hsingle : u.strategy = .singlePut)
    (hu' : ∃ state etag code detail completedAt activityAt, u' = { u with
      state := state, etag := etag, failureCode := code, failureDetail := detail
      completedAt := completedAt, lastActivityAt := activityAt })
    (hdetail : ∀ d ∈ u'.failureDetail, d.length ≤ 512)
    (hactive : u.state.isActive = true) (hedge : (u.state, u'.state) ∈ singlePutEdges) :
    Satisfied (guardUploadSession db u u' ++ sessionConstraints db u') := by
  have hchecks := sessionChecks_singlePut (h.session_checks u (Relation.mem_of_get? hu)) hsingle
    hu' hdetail
  obtain ⟨state, etag, code, detail, completedAt, activityAt, rfl⟩ := hu'
  rw [satisfied_append]
  refine ⟨?_, h.sessionConstraints_kept hu rfl rfl rfl (fun _ => hactive) hchecks⟩
  simp only [guardUploadSession, if_pos hsingle, guardSinglePutSession, satisfied_cons,
    satisfied_nil, Rule.violated_raiseIf, Ternary.holds_of, and_true]
  refine ⟨by simp, ?_, fun hbad => hbad.2 hedge⟩
  intro hbad
  rcases hbad.1 with hstate | hstate
  · rw [hstate] at hactive
    cases hactive
  · rw [hstate] at hactive
    cases hactive

/-! ## Verification -/

theorem ends_lockUpload {s : TxState} {u : UploadSessionModel} {b : BlobModel}
    {v : DatasetVersionModel} {Q : UploadSessionModel × BlobModel × DatasetVersionModel →
      TxState → Prop} (hu : s.db.sessions.get? u.id = some u) (hsingle : u.strategy = .singlePut)
    (hb : s.db.blobs.get? u.blobId = some b)
    (hv : s.db.versions.get? u.initiatingVersionId = some v) (hQ : Q (u, b, v) s) :
    Ends (lockUpload u.id) s Q := by
  simp only [lockUpload, ends_bind, ends_fetch, ends_ofExcept, ends_pure]
  exact ⟨u, hu, (), requireSinglePutSession_ok.mpr hsingle, b, hb, v, hv, hQ⟩

theorem ends_fetchDataset {s : TxState} {v : DatasetVersionModel} {e : Failure}
    {Q : DatasetModel → TxState → Prop} (h : Lawful s.db) (hv : v ∈ s.db.versions.rows)
    (hQ : ∀ d, Q d s) : Ends (fetchDataset v e) s Q := by
  obtain ⟨d, hd⟩ := Option.isSome_iff_exists.mp (h.version_dataset v hv)
  exact ends_fetch.mpr ⟨d, hd, hQ d⟩

/-- An IN_PROGRESS attempt on a Blob without multipart sessions is verified. -/
theorem transact_markUploadVerified {u : UploadSessionModel} {b : BlobModel}
    {v : DatasetVersionModel} {etag : Option String} (h : Committed r.db)
    (hu : r.db.sessions.get? u.id = some u) (hsingle : u.strategy = .singlePut)
    (hstate : u.state = .inProgress) (hb : r.db.blobs.get? u.blobId = some b)
    (huploading : b.state = .uploading)
    (hv : r.db.versions.get? u.initiatingVersionId = some v)
    (hm : ¬HasMultipart r.db u.blobId) :
    ∃ context db, transact (markUploadVerified u.id etag) env r =
      (.ok context, ⟨db, r.later env⟩) ∧ db.blobs.get? u.blobId = some { b with
        state := .available, verifiedAt := some (env.wall 0) } := by
  have hid : b.id = u.blobId := Relation.key_of_get? hb
  have hl := h.lawful
  have hdetail : ∀ d ∈ b.failureDetail, d.length ≤ 512 := by
    have hchecks := hl.blob_checks b (Relation.mem_of_get? hb)
    simp only [blobChecks, satisfied_cons, Rule.violated_range] at hchecks
    exact hchecks.2.1
  refine transact_of_ends ?_
  rw [markUploadVerified, ends_bind]
  refine ends_lockUpload hu hsingle hb hv ?_
  have hopen : u.state ≠ .completed := by
    rw [hstate]
    simp
  simp only [if_neg hopen, ends_bind, ends_require, ends_utcNow]
  refine ⟨hstate, huploading, ?_⟩
  -- The Blob passes through VERIFYING: two statements, the second on the row of the first.
  have hb' : r.db.blobs.get? b.id = some b := hid ▸ hb
  refine @ends_flushBlob _ _ _ b { b with state := .verifying } hl hb' ?_ fun ts hts hl₁ => ?_
  · refine blobRules_of_edge hl hb' rfl rfl rfl hdetail ?_ ?_
    · rw [huploading]
      simp
    · simp [huploading, blobEdges]
  have hverifying : (r.db.blobs.replace { b with state := .verifying }).get? b.id =
      some { b with state := .verifying } :=
    Relation.get?_replace_self (t := r.db.blobs) (r := { b with state := .verifying }) hb'
  refine @ends_flushBlob _ _ _ { b with state := .verifying }
    { b with state := .available, verifiedAt := some (env.wall 0) } hl₁ hverifying ?_
    fun ts' hts' hl₂ => ?_
  · refine blobRules_of_edge hl₁ hverifying rfl rfl rfl hdetail ?_ ?_
    · simp
    · simp [blobEdges]
  have hsession : ∀ d ∈ u.failureDetail, d.length ≤ 512 := by
    have hchecks := hl.session_checks u (Relation.mem_of_get? hu)
    simp only [sessionChecks, satisfied_cons, Rule.violated_range] at hchecks
    exact hchecks.2.2.2.2.2.2.1
  refine @ends_flushSession _ _ _ u _ hl₂ hu ?_ fun ts'' hts'' hl₃ => ?_
  · refine sessionRules_of_edge hl₂ hu hsingle ⟨_, _, u.failureCode, u.failureDetail, _, _, rfl⟩
      hsession ?_ ?_
    · rw [hstate]
      rfl
    · simp [hstate, singlePutEdges]
  refine ends_fetchDataset hl₃ (Relation.mem_of_get? hv) fun d => ?_
  rw [ends_pure]
  refine ⟨?_, ?_⟩
  · simp only
    rw [← hid]
    exact Relation.get?_replace_self (r := { b with
      state := .available, verifiedAt := some (env.wall 0) }) hverifying
  · have hm' : ¬HasMultipart
        { r.db with sessions := r.db.sessions.replace { u with
            state := .completed, etag := etag, completedAt := some (env.wall 0)
            lastActivityAt := env.wall 0 } } u.blobId := by
      intro hmulti
      obtain ⟨x, hx, hxb, hxm⟩ := hmulti
      rcases Relation.mem_replace hx with rfl | ⟨hx, _⟩
      · rw [hsingle] at hxm
        cases hxm
      · exact hm ⟨x, hx, hxb, hxm⟩
    intro t ht clock _
    have htouched : t = .blob b.id ∨ t = .session u.blobId := by
      rcases List.mem_append.mp ht with ht | ht
      · rcases List.mem_append.mp ht with ht | ht
        · rcases List.mem_append.mp ht with ht | ht
          · cases ht
          · exact Or.inl (hts t ht)
        · exact Or.inl (hts' t ht)
      · exact Or.inr (hts'' t ht)
    rcases htouched with rfl | rfl
    · exact validateM2Publication_of_singlePut (hid ▸ hm')
    · exact validateM2Publication_of_singlePut hm'

end RoboLake
