import RoboLake.Registry.Accepted.Failures
import RoboLake.Registry.Accepted.Initiation
import RoboLake.Registry.Attended

/-! # Attempts that start

The CREATED attempt of a small Blob is started whatever state its Version is in. Small
Blobs have no multipart session, so no publication rule looks at them.
-/

namespace RoboLake

open Foundation Work Store Migrations

variable [Platform] {env : Env} {r : Registry}

/-! ## Small Blobs -/

theorem not_hasMultipart_of_small {b : BlobModel} (h : store.Reachable r)
    (hb : r.db.blobs.get? b.id = some b) (hsmall : b.sizeBytes ≤ maxSinglePutBytes) :
    ¬HasMultipart r.db b.id := by
  intro hmulti
  obtain ⟨u, hu, hub, hm⟩ := hmulti
  obtain ⟨plan, hplan⟩ := planned_of_reachable h hu hm
  obtain ⟨b', hb', hsize⟩ := hplan.blob
  rw [hub, hb] at hb'
  cases hb'
  have hlarge := plan.covers.large.1
  omega

/-- The open attempt of an UPLOADING small Blob. -/
theorem open_of_uploading {b : BlobModel} (h : store.Reachable r)
    (hb : r.db.blobs.get? b.id = some b) (hsmall : b.sizeBytes ≤ maxSinglePutBytes)
    (huploading : b.state = .uploading) :
    ∃ u ∈ r.db.sessions.rows, u.blobId = b.id ∧ u.strategy = .singlePut ∧
      (u.state = .created ∨ u.state = .inProgress) := by
  obtain ⟨u, hu, hub, hattends⟩ := attended_of_reachable h b (Relation.mem_of_get? hb)
    (by rw [huploading]; nofun) (by rw [huploading]; nofun)
  have hsingle : u.strategy = .singlePut := by
    cases hstrategy : u.strategy with
    | singlePut => rfl
    | multipart => exact absurd ⟨u, hu, hub, hstrategy⟩ (not_hasMultipart_of_small h hb hsmall)
  refine ⟨u, hu, hub, hsingle, ?_⟩
  rcases hattends with hm | hfailed | hactive
  · rw [hsingle] at hm
    cases hm
  · rw [huploading] at hfailed
    cases hfailed
  · rcases (committed_of_reachable h).lawful.session_single u hu hsingle with hs | hs | hs | hs
    · exact .inl hs
    · exact .inr hs
    · rw [hs] at hactive
      cases hactive
    · rw [hs] at hactive
      cases hactive

/-! ## Rows of a start -/

theorem ends_flush_stored {ρ κ : Type} [Keyed ρ κ] [DecidableEq κ] [DecidableEq ρ]
    {table : Database → Relation ρ} {update : ρ → Write} {row : ρ} {s : TxState}
    {Q : Unit → TxState → Prop} (hrow : (table s.db).get? (key row) = some row) (hQ : Q () s) :
    Ends (flush table update row) s Q := by
  unfold Ends flush
  rw [run_inspect, if_pos hrow]
  exact ⟨(), s, rfl, hQ⟩

theorem ends_flushStartedBlob {s : TxState} {b : BlobModel} {Q : Unit → TxState → Prop}
    (hl : Lawful s.db) (hb : s.db.blobs.get? b.id = some b)
    (hopen : b.state = .pending ∨ b.state = .uploading)
    (hQ : ∀ ts, (∀ t ∈ ts, t = .blob b.id) →
      Lawful { s.db with blobs := s.db.blobs.replace (startedBlob b) } → Q () { s with
        db := { s.db with blobs := s.db.blobs.replace (startedBlob b) }
        touched := s.touched ++ ts }) : Ends (flushBlob (startedBlob b)) s Q := by
  rcases hopen with hpending | huploading
  · have hrow : startedBlob b = { b with state := .uploading } := by
      unfold startedBlob
      rw [if_pos hpending]
    rw [hrow] at hQ ⊢
    refine @ends_flushBlob _ _ _ b { b with state := .uploading } hl hb ?_ hQ
    have hdetail := hl.blob_detail (Relation.mem_of_get? hb)
    refine blobRules_of_edge hl hb rfl rfl rfl hdetail ?_ ?_
    · rw [hpending]
      intro hclash
      cases hclash
    · simp [hpending, blobEdges]
  · have hrow : startedBlob b = b := by
      unfold startedBlob
      rw [if_neg (by rw [huploading]; intro hclash; cases hclash)]
    rw [hrow] at hQ ⊢
    refine ends_flush_stored hb ?_
    have hsame := hQ [] fun t ht => absurd ht List.not_mem_nil
    rw [Relation.replace_of_get? hb, List.append_nil] at hsame
    exact hsame hl

theorem ends_flushStartedVersion {s : TxState} {v : DatasetVersionModel}
    {Q : Unit → TxState → Prop} (hl : Lawful s.db) (hv : s.db.versions.get? v.id = some v)
    (hsealed : v.sealedAt ≠ none)
    (hQ : ∀ ts, (∀ t ∈ ts, t = .version v.id) →
      Lawful { s.db with versions := s.db.versions.replace (startedVersion v) } → Q () { s with
        db := { s.db with versions := s.db.versions.replace (startedVersion v) }
        touched := s.touched ++ ts }) : Ends (flushVersion (startedVersion v)) s Q := by
  by_cases hstart : v.state = .draft ∨ v.state = .failed
  · have hrow : startedVersion v = { v with
        state := .uploading, failureCode := none, failureDetail := none } := by
      unfold startedVersion
      rw [if_pos hstart]
    rw [hrow] at hQ ⊢
    refine @ends_flushVersion _ _ _ v { v with
      state := .uploading, failureCode := none, failureDetail := none } hl hv ?_ hQ
    refine versionRules_of_edge hl hv hsealed ⟨_, _, _, _, _, rfl⟩ ?_ ?_
    · intro d hd
      cases hd
    · rcases hstart with hstate | hstate
      · simp [hstate, versionEdges]
      · simp [hstate, versionEdges]
  · have hrow : startedVersion v = v := by
      unfold startedVersion
      rw [if_neg hstart]
    rw [hrow] at hQ ⊢
    refine ends_flush_stored hv ?_
    have hsame := hQ [] fun t ht => absurd ht List.not_mem_nil
    rw [Relation.replace_of_get? hv, List.append_nil] at hsame
    exact hsame hl

/-! ## The call -/

/-- The CREATED attempt of a small Blob is started. -/
theorem transact_markUploadInProgress {u : UploadSessionModel} {b : BlobModel}
    (h : store.Reachable r) (hu : r.db.sessions.get? u.id = some u)
    (hsingle : u.strategy = .singlePut) (hcreated : u.state = .created)
    (hb : r.db.blobs.get? u.blobId = some b) (hsmall : b.sizeBytes ≤ maxSinglePutBytes) :
    ∃ context db, transact (markUploadInProgress u.id) env r = (.ok context, ⟨db, r.later env⟩) ∧
      db.sessions.get? u.id = some { u with
        state := .inProgress, lastActivityAt := env.wall 0 } := by
  have hcommitted := committed_of_reachable h
  have hl := hcommitted.lawful
  have hmem := Relation.mem_of_get? hu
  obtain ⟨v, hv⟩ := hl.session_version.get hmem
  have hsealed := hcommitted.sealed v (Relation.mem_of_get? hv)
  have hbid : b.id = u.blobId := Relation.key_of_get? hb
  have hvid : v.id = u.initiatingVersionId := Relation.key_of_get? hv
  have hopen : b.state = .pending ∨ b.state = .uploading := by
    have hfits := (coupled_of_reachable h).fits u hmem b hb
    rw [hcreated, hsingle] at hfits
    simpa [SessionState.Fits] using hfits
  have hdetail : ∀ d ∈ u.failureDetail, d.length ≤ 512 := by
    have hchecks := hl.session_checks u hmem
    simp only [sessionChecks, satisfied_cons, Rule.violated_range] at hchecks
    exact hchecks.2.2.2.2.2.2.1
  let started : UploadSessionModel := { u with
    state := .inProgress, lastActivityAt := env.wall 0 }
  have hstarted : (r.db.sessions.replace started).get? u.id = some started :=
    Relation.get?_replace_self (r := started) hu
  have hmulti : ¬HasMultipart r.db u.blobId := by
    rw [← hbid] at hb ⊢
    exact not_hasMultipart_of_small h hb hsmall
  refine transact_of_ends ?_
  rw [markUploadInProgress, ends_bind]
  refine ends_lockUpload hu hsingle hb hv ?_
  simp only [if_pos hcreated, ends_bind, ends_utcNow]
  rw [← hbid] at hb
  rw [← hvid] at hv
  refine ends_flushStartedBlob hl hb hopen fun ts hts hl₁ => ?_
  refine ends_flushStartedVersion hl₁ hv hsealed fun ts' hts' hl₂ => ?_
  refine @ends_flushSession _ _ _ u started hl₂ hu ?_ fun ts'' hts'' hl₃ => ?_
  · refine sessionRules_of_edge hl₂ hu hsingle ⟨_, u.etag, u.failureCode, u.failureDetail,
      u.completedAt, _, rfl⟩ hdetail ?_ ?_
    · rw [hcreated]
      rfl
    · simp [started, hcreated, singlePutEdges]
  rw [ends_pure]
  simp only
  have hversion : (r.db.versions.replace (startedVersion v)).get? v.id =
      some (startedVersion v) := by
    have hold : r.db.versions.get? (key (startedVersion v)) = some v := by
      rw [key_version, startedVersion_id v]
      exact hv
    have hself := Relation.get?_replace_self hold
    rwa [key_version, startedVersion_id v] at hself
  refine @ends_fetchDataset _ _ (startedVersion v) _ _ hl₃ (Relation.mem_of_get? hversion)
    fun d => ?_
  rw [ends_pure]
  refine ⟨hstarted, ?_⟩
  intro t ht clock _
  have htouched : t = .blob b.id ∨ t = .version v.id ∨ t = .session u.blobId := by
    simp only [List.mem_append] at ht
    rcases ht with ((ht | ht) | ht) | ht
    · cases ht
    · exact .inl (hts t ht)
    · exact .inr (.inl (hts' t ht))
    · exact .inr (.inr (hts'' t ht))
  have hsingle' : ∀ id, id = u.blobId → ¬HasMultipart { r.db with
      blobs := r.db.blobs.replace (startedBlob b)
      versions := r.db.versions.replace (startedVersion v)
      sessions := r.db.sessions.replace started } id := by
    intro id hid hbad
    obtain ⟨x, hx, hxb, hxm⟩ := hbad
    rcases Relation.mem_replace hx with rfl | ⟨hx, _⟩
    · rw [show started.strategy = u.strategy from rfl, hsingle] at hxm
      cases hxm
    · exact hmulti ⟨x, hx, hxb.trans hid, hxm⟩
  rcases htouched with rfl | rfl | rfl
  · exact validateM2Publication_of_singlePut (hsingle' b.id hbid)
  · refine requireSealedVersion_of_sealed (Relation.forall_replace hcommitted.sealed ?_)
    unfold startedVersion
    split
    · exact hsealed
    · exact hsealed
  · exact validateM2Publication_of_singlePut (hsingle' u.blobId rfl)

end RoboLake
