import RoboLake.Registry.Accepted.SinglePut
import RoboLake.Registry.Registrations

/-! # Version calls that return

When a stored Version may move along an edge of its lifecycle, and when a Version with
complete content is finalized.
-/

namespace RoboLake

open Foundation Work Store Migrations

variable [Platform] {env : Env} {r : Registry}

/-! ## Rows of a Version -/

theorem versionRules_of_edge {db : Database} {v v' : DatasetVersionModel} (h : Lawful db)
    (hv : db.versions.get? v'.id = some v) (hsealed : v.sealedAt ≠ none)
    (hv' : ∃ state code detail verifyingAt readyAt, v' = { v with
      state := state, failureCode := code, failureDetail := detail
      verifyingAt := verifyingAt, readyAt := readyAt })
    (hdetail : ∀ d ∈ v'.failureDetail, d.length ≤ 512)
    (hedge : (v.state, v'.state) ∈ versionEdges) :
    Satisfied (guardDatasetVersion db v v' ++ versionConstraints db v') := by
  have hchecks := h.version_checks v (Relation.mem_of_get? hv)
  obtain ⟨state, code, detail, verifyingAt, readyAt, rfl⟩ := hv'
  rw [satisfied_append]
  constructor
  · have hready : v.state ≠ .ready := by
      intro hready
      rw [hready] at hedge
      simp [versionEdges] at hedge
    simp [guardDatasetVersion, hready, hsealed, hedge]
  · refine h.versionConstraints_kept hv rfl rfl rfl ?_
    simp only [versionChecks, satisfied_cons, Rule.violated_range, satisfied_nil] at hchecks ⊢
    obtain ⟨hnumber, hfiles, hlogical, hcount, hbytes, _, hrest⟩ := hchecks
    exact ⟨hnumber, hfiles, hlogical, hcount, hbytes, hdetail, hrest⟩

theorem Lawful.version_detail {db : Database} {v : DatasetVersionModel} (h : Lawful db)
    (hv : v ∈ db.versions.rows) : ∀ d ∈ v.failureDetail, d.length ≤ 512 := by
  have hchecks := h.version_checks v hv
  simp only [versionChecks, satisfied_cons, Rule.violated_range] at hchecks
  exact hchecks.2.2.2.2.2.1

/-! ## Finalization -/

/-- A Version that is still uploading is published once all of its content is AVAILABLE. -/
theorem transact_finalizeVersion {v : DatasetVersionModel} {m : Manifest} (h : Committed r.db)
    (hv : v ∈ r.db.versions.rows) (hm : Registered r.db v m)
    (havailable : ¬HasUnavailableBlob r.db v.id)
    (hstate : v.state = .draft ∨ v.state = .uploading) :
    ∃ record db, transact (finalizeVersion v.id) env r = (.ok record, ⟨db, r.later env⟩) ∧
      record.state = .ready := by
  have hl := h.lawful
  have hget : r.db.versions.get? v.id = some v := Relation.get?_of_mem hv
  have hsealed := h.sealed v hv
  have hdetail := hl.version_detail hv
  have hready : v.state ≠ .ready := by
    intro hready
    rw [hready] at hstate
    simp at hstate
  refine transact_of_ends ?_
  simp only [finalizeVersion, ends_bind, ends_fetch]
  refine ⟨v, hget, ends_fetchDataset hl hv fun d => ?_⟩
  simp only [if_neg hready, ends_bind, ends_require, ends_ofExcept, ends_select, ends_utcNow]
  refine ⟨hstate, m, hm.loads, hm.summaries, decide_eq_false havailable, ?_⟩
  -- The Version passes through VERIFYING: two statements, the second on the row of the first.
  refine @ends_flushVersion _ _ _ v { v with
    state := .verifying, verifyingAt := some (env.wall 0) } hl hget ?_ fun ts hts hl₁ => ?_
  · refine versionRules_of_edge hl hget hsealed ⟨_, _, _, _, _, rfl⟩ hdetail ?_
    rcases hstate with hstate | hstate
    · simp [hstate, versionEdges]
    · simp [hstate, versionEdges]
  have hverifying : (r.db.versions.replace { v with
      state := .verifying, verifyingAt := some (env.wall 0) }).get? v.id =
        some { v with state := .verifying, verifyingAt := some (env.wall 0) } :=
    Relation.get?_replace_self (t := r.db.versions) (r := { v with
      state := .verifying, verifyingAt := some (env.wall 0) }) hget
  refine @ends_flushVersion _ _ _ { v with
    state := .verifying, verifyingAt := some (env.wall 0) } { v with
    state := .ready, verifyingAt := some (env.wall 0), readyAt := some (env.wall 0) }
    hl₁ hverifying ?_ fun ts' hts' hl₂ => ?_
  · refine versionRules_of_edge hl₁ hverifying hsealed ⟨_, _, _, _, _, rfl⟩ hdetail ?_
    simp [versionEdges]
  rw [ends_pure]
  refine ⟨rfl, ?_⟩
  intro t ht clock _
  have htouched : t = .version v.id := by
    rcases List.mem_append.mp ht with ht | ht
    · rcases List.mem_append.mp ht with ht | ht
      · cases ht
      · exact hts t ht
    · exact hts' t ht
  subst htouched
  refine requireSealedVersion_of_sealed ?_
  have hrow : ∀ x ∈ (r.db.versions.replace { v with
      state := .verifying, verifyingAt := some (env.wall 0) }).rows, x.sealedAt ≠ none :=
    Relation.forall_replace h.sealed hsealed
  exact Relation.forall_replace hrow hsealed

/-! ## Restarts -/

def FreshKey (db : Database) (key : String) : Prop :=
  key.length ≤ 255 ∧ db.idempotency.get? (.uploadSessionCreate, key) = none

theorem idempotencyRules_of_fresh {db : Database} {key : String} {sha : Sha256Digest}
    {uploadId : UUID} (h : FreshKey db key) :
    Satisfied (idempotencyRules db (uploadBinding key sha uploadId)) := by
  have hfree : db.idempotency.get? (IdempotencyScope.uploadSessionCreate, key) = none := h.2
  have hlength : key.length ≤ 255 := h.1
  simp [idempotencyRules, uploadBinding, IdempotencyScope.isM2, Keyed.key, hfree, hlength]

theorem sessionRules_of_new {db : Database} {id versionId blobId : UUID}
    {createdAt activityAt : Timestamp}
    (hblob : (db.blobs.get? blobId).isSome = true)
    (hversion : (db.versions.get? versionId).isSome = true)
    (hinactive : ∀ u ∈ db.sessions.rows, u.blobId = blobId → u.state.isActive = false) :
    Satisfied
      (sessionConstraints db (singlePutSession id versionId blobId createdAt activityAt)) := by
  rw [sessionConstraints, satisfied_append]
  constructor
  · simp [sessionChecks, singlePutSession, multipartPlanCheck, providerIdCheck,
      verificationEvidenceCheck]
  · simp only [satisfied_cons, Rule.violated_unique, Rule.violated_foreignKey, satisfied_nil,
      and_true]
    refine ⟨by simp [singlePutSession], ?_, hblob, hversion⟩
    intro hclash
    obtain ⟨_, u, hu, _, hub, hactive⟩ := hclash
    rw [hinactive u hu hub] at hactive
    cases hactive

theorem ends_createSinglePut {s : TxState} {versionId blobId : UUID}
    {Q : UploadSessionModel → TxState → Prop} (hblob : (s.db.blobs.get? blobId).isSome = true)
    (hversion : (s.db.versions.get? versionId).isSome = true)
    (hinactive : ∀ u ∈ s.db.sessions.rows, u.blobId = blobId → u.state.isActive = false)
    (hid : s.db.sessions.get? (s.uuids 0) = none)
    (hQ : ∀ createdAt activityAt s', s'.db = { s.db with
      sessions := s.db.sessions.insert
        (singlePutSession (s.uuids 0) versionId blobId createdAt activityAt) } →
      s'.touched = s.touched ++ [.session blobId] →
      Q (singlePutSession (s.uuids 0) versionId blobId createdAt activityAt) s') :
    Ends (createSinglePut versionId blobId) s Q := by
  simp only [createSinglePut, ends_bind, ends_uuid4, ends_utcNow, ends_perform, ends_pure]
  have hrules (createdAt activityAt : Timestamp) : Satisfied (sessionConstraints s.db
      (singlePutSession (s.uuids 0) versionId blobId createdAt activityAt)) :=
    sessionRules_of_new hblob hversion hinactive
  exact ⟨_, exec_insertSession_ok.mpr ⟨⟨rfl, hrules _ _⟩, hid, rfl⟩, hQ _ _ _ rfl rfl⟩

theorem ends_bindUpload {s : TxState} {key : String} {sha : Sha256Digest} {uploadId : UUID}
    {Q : Unit → TxState → Prop} (hkey : FreshKey s.db key)
    (hQ : ∀ s', s'.db = s.db.bind (uploadBinding key sha uploadId) → s'.touched = s.touched →
      Q () s') : Ends (bindUpload key sha uploadId) s Q := by
  rw [bindUpload, ends_perform]
  exact ⟨_, exec_insertIdempotency_ok.mpr ⟨idempotencyRules_of_fresh hkey, hkey.2, rfl⟩,
    hQ _ rfl rfl⟩

/-- A FAILED Blob of a FAILED Version is restarted where every attempt on it has ended. -/
theorem transact_restartFailedUpload {v : DatasetVersionModel} {b : BlobModel} {key : String}
    {sha : Sha256Digest} (h : Committed r.db) (hv : v ∈ r.db.versions.rows)
    (hb : r.db.blobs.get? b.id = some b) (href : r.db.References v.id b.id)
    (hfailed : v.state = .failed ∧ b.state = .failed)
    (hended : ∀ u ∈ r.db.sessions.rows, u.blobId = b.id →
      u.strategy = .singlePut ∧ u.state.isActive = false)
    (hkey : FreshKey r.db key) (hid : r.db.sessions.get? (env.uuids 0) = none) :
    ∃ context db, transact (restartFailedUpload v.id b.id key sha) env r =
        (.ok context, ⟨db, r.later env⟩) ∧
      ∃ u, context.session = some u ∧ u.state = .created ∧ u.blobId = b.id := by
  have hl := h.lawful
  have hget : r.db.versions.get? v.id = some v := Relation.get?_of_mem hv
  have hsealed := h.sealed v hv
  obtain ⟨hversion, hblob⟩ := hfailed
  refine transact_of_ends ?_
  simp only [restartFailedUpload, ends_bind, ends_fetch]
  refine ⟨v, hget, b, hb, ends_fetchDataset hl hv fun d => ?_⟩
  simp only [ends_select, ends_require]
  refine ⟨decide_eq_true href, ?_⟩
  rw [db_beginTx, hkey.2]
  simp only [ends_bind, ends_select, ends_ofExcept, ends_require, requireSinglePutPrior_ok]
  refine ⟨(), ?_, ⟨hversion, hblob⟩, ?_⟩
  · intro p hp
    obtain ⟨hmem, hpb⟩ := mem_of_latestUpload hp
    exact (hended p hmem hpb).1
  refine @ends_flushBlob _ _ _ b { b with
    state := .uploading, failureCode := none, failureDetail := none } hl hb ?_
    fun ts hts hl₁ => ?_
  · refine blobRules_of_edge hl hb rfl rfl rfl ?_ ?_ ?_
    · intro d hd
      cases hd
    · rw [hblob]
      simp
    · simp [hblob, blobEdges]
  refine @ends_flushVersion _ _ _ v { v with
    state := .uploading, failureCode := none, failureDetail := none } hl₁ hget ?_
    fun ts' hts' hl₂ => ?_
  · refine versionRules_of_edge hl₁ hget hsealed ⟨_, _, _, _, _, rfl⟩ ?_ ?_
    · intro d hd
      cases hd
    · simp [hversion, versionEdges]
  have hstored : ∀ {ρ κ : Type} [Keyed ρ κ] [DecidableEq κ] {t : Relation ρ} {k : κ} {row : ρ},
      t.get? k = some row → (t.get? k).isSome = true := by
    intro ρ κ _ _ t k row hrow
    rw [hrow]
    rfl
  refine ends_createSinglePut (hstored (Relation.get?_replace_self hb))
    (hstored (Relation.get?_replace_self hget)) (fun u hu hub => (hended u hu hub).2) hid ?_
  intro createdAt activityAt s₁ hdb htouched
  refine ends_bindUpload ?_ ?_
  · rw [hdb]
    exact hkey
  · intro s₂ hdb₂ htouched₂
    rw [ends_pure]
    refine ⟨⟨_, rfl, rfl, rfl⟩, ?_⟩
    have hsingle : ¬HasMultipart s₂.db b.id := by
      intro hmulti
      obtain ⟨x, hx, hxb, hxm⟩ := hmulti
      rw [hdb₂, hdb] at hx
      rcases (Relation.mem_insert hid).mp hx with hx | rfl
      · rw [(hended x hx hxb).1] at hxm
        cases hxm
      · cases hxm
    have hsealed₂ : AllSealed s₂.db := by
      rw [hdb₂, hdb]
      exact Relation.forall_replace h.sealed hsealed
    intro t ht clock _
    rw [htouched₂, htouched] at ht
    have hcases : t = .blob b.id ∨ t = .version v.id ∨ t = .session b.id := by
      rcases List.mem_append.mp ht with ht | ht
      · rcases List.mem_append.mp ht with ht | ht
        · rcases List.mem_append.mp ht with ht | ht
          · cases ht
          · exact Or.inl (hts t ht)
        · exact Or.inr (Or.inl (hts' t ht))
      · exact Or.inr (Or.inr (List.mem_singleton.mp ht))
    rcases hcases with rfl | rfl | rfl
    · exact validateM2Publication_of_singlePut hsingle
    · exact requireSealedVersion_of_sealed hsealed₂
    · exact validateM2Publication_of_singlePut hsingle

end RoboLake
