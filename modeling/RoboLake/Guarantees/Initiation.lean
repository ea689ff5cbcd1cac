import RoboLake.Registry.Accepted.Initiation

/-! # Initiation of open generations

An open multipart session starts under its admission lease as long as its Blob has
not failed. A Blob fails only under a single-PUT session, so what decides is
whether a session was opened on a FAILED Blob.
-/

namespace RoboLake

open Foundation Store Migrations

section Initiation

variable [Platform] {env : Env} {r : Registry} {op : Operation} {db : Database}

/-! ## Blobs of open sessions -/

/-- The Blob of no active multipart session has failed. -/
def OpenBlobsAlive (db : Database) : Prop :=
  ∀ u ∈ db.sessions.rows, u.strategy = .multipart → u.state.isActive = true →
    ∀ b, db.blobs.get? u.blobId = some b → b.state ≠ .failed

/-- The call resolves an unbound request for a plan of a referenced Blob that is FAILED. -/
def OpensOnFailedBlob (r : Registry) (c : Call) : Prop :=
  ∃ requestId versionId blobId plan b,
    c.operation = .createOrResolveMultipart requestId versionId blobId plan ∧
    r.db.idempotency.get? (.multipartSessionResolve, String.ofList requestId.str) = none ∧
    r.db.References versionId blobId ∧ r.db.blobs.get? blobId = some b ∧
    b.sizeBytes = plan.plan.blobSizeBytes ∧ b.state = .failed

theorem failed_of_effect (hcoupled : Coupled r.db) (heffect : Effect env r op db) {b' : BlobModel}
    (hb' : b' ∈ db.blobs.rows) (hfailed : b'.state = .failed) :
    b' ∈ r.db.blobs.rows ∨ ∃ u ∈ r.db.sessions.rows, u.strategy = .singlePut ∧
      u.state.isActive = true ∧ u.blobId = b'.id ∧
      ∃ code detail, op = .markUploadFailed u.id code detail := by
  cases heffect with
  | versionRegistered _ _ _ _ _ hblobs _ _ =>
      rcases hblobs.fresh b' hb' with hold | ⟨_, hpending, _⟩
      · exact Or.inl hold
      · rw [hpending] at hfailed
        cases hfailed
  | uploadStarted hu hsingle hcreated hb _ =>
      rcases Relation.mem_replace hb' with rfl | ⟨hold, _⟩
      · have hfits := hcoupled.fits _ (Relation.mem_of_get? hu) _ hb
        rw [hcreated, hsingle] at hfits
        rw [startedBlob_state hfits] at hfailed
        cases hfailed
      · exact Or.inl hold
  | uploadVerified =>
      rcases Relation.mem_replace hb' with rfl | ⟨hold, _⟩
      · cases hfailed
      · exact Or.inl hold
  | uploadFailed hu hsingle hstate hb _ _ _ =>
      rcases Relation.mem_replace hb' with rfl | ⟨hold, _⟩
      · refine Or.inr ⟨_, Relation.mem_of_get? hu, hsingle, ?_, ?_, _, _, rfl⟩
        · rw [hstate]
          rfl
        · exact (Relation.key_of_get? hb).symm
      · exact Or.inl hold
  | uploadRestarted =>
      rcases Relation.mem_replace hb' with rfl | ⟨hold, _⟩
      · cases hfailed
      · exact Or.inl hold
  | providerRecorded =>
      rcases Relation.mem_replace hb' with rfl | ⟨hold, _⟩
      · cases hfailed
      · exact Or.inl hold
  | completionVerified =>
      rcases Relation.mem_replace hb' with rfl | ⟨hold, _⟩
      · cases hfailed
      · exact Or.inl hold
  | _ => exact Or.inl hb'

theorem openBlobsAlive_of_step (h : store.Reachable r) (c : Call) (halive : OpenBlobsAlive r.db)
    (hopens : ¬OpensOnFailedBlob r c) : OpenBlobsAlive (c.step r).db := by
  have hlawful := (committed_of_reachable h).lawful
  have hextends := extends_of_step c (committed_of_reachable h)
  have heffect := effect_of_step c r
  intro u' hu' hm hactive' b' hb' hfailed
  have hbid : b'.id = u'.blobId := Relation.key_of_get? hb'
  -- An active multipart row of before, on the same Blob, contradicts both ways of failing.
  have hbefore : ∀ u ∈ r.db.sessions.rows, u.strategy = .multipart → u.state.isActive = true →
      u.blobId = u'.blobId → False := by
    intro u hu hum hactive hub
    rcases failed_of_effect (coupled_of_reachable h) heffect (Relation.mem_of_get? hb') hfailed with
      hold | ⟨x, hx, hsingle, hxa, hxb, _⟩
    · have hget : r.db.blobs.get? b'.id = some b' := Relation.get?_of_mem hold
      exact halive u hu hum hactive b' (by rw [hub, ← hbid, hget]) hfailed
    · have hsame : x = u := hlawful.session_active x hx u hu u.blobId
        (activeKey_eq_some.mpr ⟨hxa, by rw [hxb, hbid, hub]⟩)
        (activeKey_eq_some.mpr ⟨hactive, rfl⟩)
      rw [hsame, hum] at hsingle
      cases hsingle
  cases session_of_effect heffect hu' with
  | kept hu => exact hbefore u' hu hm hactive' rfl
  | moved hu hactive =>
      obtain ⟨x, hx, hlater⟩ := hextends.sessions _ _ hu
      have hget : (c.step r).db.sessions.get? u'.id = some u' := Relation.get?_of_mem hu'
      rw [hget] at hx
      cases hx
      exact hbefore _ (Relation.mem_of_get? hu) (hlater.strategy.symm.trans hm) hactive
        hlater.blob.symm
  | singlePut _ hsingle _ =>
      rw [hsingle] at hm
      cases hm
  | @multipart requestId versionId blobId plan b _ hrow _ hb hsize _ hop href hkey =>
      have hblob : u'.blobId = blobId := congrArg UploadSessionModel.blobId hrow
      have hfailed' : b.state = .failed := by
        rcases failed_of_effect (coupled_of_reachable h) heffect (Relation.mem_of_get? hb')
          hfailed with hold | ⟨_, _, _, _, _, _, _, hother⟩
        · have hget : r.db.blobs.get? b'.id = some b' := Relation.get?_of_mem hold
          rw [hbid, hblob, hb] at hget
          rw [Option.some.inj hget]
          exact hfailed
        · rw [hop] at hother
          cases hother
      exact hopens ⟨requestId, versionId, blobId, plan, b, hop, hkey, href, hb, hsize, hfailed'⟩

/-! ## Initiation of an open session -/

/-- Every provider upload of the owner's is recorded while its lease is current. -/
def RecordsProvider (r : Registry) (sessionId ownerId : UUID) (epoch : Nat) : Prop :=
  ∀ env provider, provider ≠ "" →
    HoldsAdmission r.db sessionId ownerId epoch (r.now + env.ticks.headD 0) →
    ∃ r' u, transact (recordProviderUpload sessionId ownerId epoch provider) env r = (.ok (), r') ∧
      r'.db.sessions.get? sessionId = some u ∧ u.state = .inProgress

/-- The session starts under its current admission lease: initiation begins where it has not, and
the provider upload is recorded. -/
def Starts (r : Registry) (u : UploadSessionModel) : Prop :=
  ∀ ownerId epoch,
    (u.state = .initiating → RecordsProvider r u.id ownerId epoch) ∧
    (u.state = .created → ∀ env,
      HoldsAdmission r.db u.id ownerId epoch (r.now + env.ticks.headD 0) →
      ∃ r', transact (beginProviderInitiation u.id ownerId epoch) env r = (.ok (), r') ∧
        RecordsProvider r' u.id ownerId epoch)

theorem blob_of_open (h : store.Reachable r) (halive : OpenBlobsAlive r.db)
    {u : UploadSessionModel} (hu : u ∈ r.db.sessions.rows) (hm : u.strategy = .multipart)
    (hstate : u.state = .created ∨ u.state = .initiating) :
    ∃ b, r.db.blobs.get? u.blobId = some b ∧ (b.state = .pending ∨ b.state = .uploading) := by
  obtain ⟨b, hb⟩ := (committed_of_reachable h).lawful.session_blob.get hu
  have hfits := (coupled_of_reachable h).fits u hu b hb
  have hactive : u.state.isActive = true := by
    rcases hstate with hstate | hstate
    · rw [hstate]
      rfl
    · rw [hstate]
      rfl
  have hok := halive u hu hm hactive b hb
  refine ⟨b, hb, ?_⟩
  rcases hstate with hstate | hstate
  · rw [hstate] at hfits
    rcases hfits with hpending | huploading | ⟨_, hfailed⟩
    · exact Or.inl hpending
    · exact Or.inr huploading
    · exact absurd hfailed hok
  · rw [hstate] at hfits
    rcases hfits with hpending | huploading | hfailed
    · exact Or.inl hpending
    · exact Or.inr huploading
    · exact absurd hfailed hok

theorem recordsProvider_of_initiating (h : store.Reachable r) (halive : OpenBlobsAlive r.db)
    {u : UploadSessionModel} (hu : r.db.sessions.get? u.id = some u) (hm : u.strategy = .multipart)
    (hstate : u.state = .initiating) (ownerId : UUID) (epoch : Nat) :
    RecordsProvider r u.id ownerId epoch := by
  intro env provider hprovider hlease
  obtain ⟨b, hb, hblob⟩ := blob_of_open h halive (Relation.mem_of_get? hu) hm (Or.inr hstate)
  obtain ⟨db, activityAt, hcall, hsession⟩ :=
    transact_recordProviderUpload h hu hm hstate hb hblob hprovider hlease
  exact ⟨_, _, hcall, hsession, rfl⟩

theorem starts_of_open (h : store.Reachable r) (halive : OpenBlobsAlive r.db)
    {u : UploadSessionModel} (hu : u ∈ r.db.sessions.rows) (hm : u.strategy = .multipart) :
    Starts r u := by
  intro ownerId epoch
  have hget : r.db.sessions.get? u.id = some u := Relation.get?_of_mem hu
  constructor
  · intro hstate
    exact recordsProvider_of_initiating h halive hget hm hstate ownerId epoch
  · intro hstate env hlease
    obtain ⟨db, startedAt, activityAt, hcall, hsession⟩ :=
      transact_beginProviderInitiation h hget hm hstate hlease
    refine ⟨_, hcall, ?_⟩
    -- The call that begins is a step, and it opens no session.
    have hop : operationTx (.beginProviderInitiation u.id ownerId epoch) =
        beginProviderInitiation u.id ownerId epoch := rfl
    have hstep : Call.step ⟨.beginProviderInitiation u.id ownerId epoch, env⟩ r =
        ⟨db, r.later env⟩ := by
      rw [Call.step, hop, hcall]
    have hnext : store.Reachable ⟨db, r.later env⟩ :=
      hstep ▸ h.step ⟨.beginProviderInitiation u.id ownerId epoch, env⟩
    have halive' : OpenBlobsAlive (Call.step ⟨.beginProviderInitiation u.id ownerId epoch, env⟩
        r).db := by
      apply openBlobsAlive_of_step h _ halive
      intro hopens
      obtain ⟨_, _, _, _, _, hother, _⟩ := hopens
      cases hother
    rw [hstep] at halive'
    exact @recordsProvider_of_initiating _ ⟨db, r.later env⟩ hnext halive' { u with
      state := .initiating, initiationStartedAt := some startedAt
      lastActivityAt := activityAt } hsession hm rfl ownerId epoch

/-- In a run that opens no session on a FAILED Blob, every open multipart session has a Blob in
PENDING or UPLOADING and starts under its current admission lease. -/
theorem open_generations_start {calls : List Call}
    (h : ∀ e ∈ store.steps store.start calls, ¬OpensOnFailedBlob e.1 e.2) :
    ∀ r ∈ store.visited store.start calls, ∀ u ∈ r.db.sessions.rows, u.strategy = .multipart →
      u.state = .created ∨ u.state = .initiating →
      (∃ b, r.db.blobs.get? u.blobId = some b ∧ (b.state = .pending ∨ b.state = .uploading)) ∧
        Starts r u := by
  intro r hr u hu hm hstate
  have hreachable := Machine.reachable_of_mem_visited store.reachable_start hr
  have hstart : OpenBlobsAlive store.start.db := fun u hu => by cases hu
  have halive : OpenBlobsAlive r.db :=
    Machine.forall_visited (P := fun r => OpenBlobsAlive r.db)
      (G := fun r c => ¬OpensOnFailedBlob r c)
      (fun _ c hr halive hok => openBlobsAlive_of_step hr c halive hok) store.reachable_start hstart
      h r hr
  exact ⟨blob_of_open hreachable halive hu hm hstate, starts_of_open hreachable halive hu hm⟩

end Initiation

namespace Sample

/-- A single-PUT attempt `700` fails the file's Blob, and session `900` is opened on it. -/
def failedBlob : List Call :=
  registration ++ [⟨.prepareUpload 200 fileDigest "put" manifestDigest, env 7⟩,
    ⟨.markUploadInProgress 700, env 8⟩,
    ⟨.markUploadFailed 700 .storedObjectMismatch "mismatch", env 8⟩,
    ⟨.createOrResolveMultipart (requestId 1) 200 201 plan, env 9⟩]

set_option maxRecDepth 100000 in
/-- The session that is opened on the FAILED Blob. -/
theorem sample_generation_is_stranded :
    ¬∀ r, store.Reachable r → ∀ u ∈ r.db.sessions.rows, u.strategy = .multipart →
      u.state = .created ∨ u.state = .initiating →
      (∃ b, r.db.blobs.get? u.blobId = some b ∧ (b.state = .pending ∨ b.state = .uploading)) ∧
        Starts r u := by
  intro hall
  have hfacts : ((store.runFrom store.start failedBlob).db.sessions.get? 900).any (fun u =>
      u.strategy = .multipart ∧ u.state = .created ∧ u.blobId = 201) = true ∧
      ((store.runFrom store.start failedBlob).db.blobs.get? 201).all (fun b =>
        b.state = .failed) = true := by
    decide +kernel
  obtain ⟨hsession, hblob⟩ := hfacts
  obtain ⟨u, hu, hfields⟩ := (Option.any_eq_true _ _).mp hsession
  obtain ⟨hm, hstate, hub⟩ := of_decide_eq_true hfields
  obtain ⟨⟨b, hb, hopen⟩, _⟩ :=
    hall _ ⟨failedBlob, rfl⟩ u (Relation.mem_of_get? hu) hm (Or.inl hstate)
  rw [hub] at hb
  rw [hb] at hblob
  have hfailed : b.state = .failed := of_decide_eq_true hblob
  rw [hfailed] at hopen
  rcases hopen with hopen | hopen
  · cases hopen
  · cases hopen

set_option maxRecDepth 100000 in
/-- The session of a fresh Blob starts. -/
theorem sample_generation_starts :
    ∃ u, (store.runFrom store.start (registration ++ [resolution])).db.sessions.get? 300 = some u ∧
      Starts (store.runFrom store.start (registration ++ [resolution])) u := by
  have hfacts : ((store.runFrom store.start (registration ++ [resolution])).db.sessions.get?
      300).any (fun u => u.strategy = .multipart ∧ u.state = .created) = true ∧
      ((store.runFrom store.start registration).db.blobs.get? 201).all (fun b =>
        b.state = .pending) = true := by
    rw [runFrom_resolution]
    decide +kernel
  obtain ⟨hsession, hblob⟩ := hfacts
  obtain ⟨u, hu, hfields⟩ := (Option.any_eq_true _ _).mp hsession
  obtain ⟨hm, hstate⟩ := of_decide_eq_true hfields
  have hopens : ∀ e ∈ store.steps store.start (registration ++ [resolution]),
      ¬OpensOnFailedBlob e.1 e.2 := by
    simp only [registration, resolution, List.cons_append, List.nil_append, Machine.steps,
      List.forall_mem_cons]
    refine ⟨?_, ?_, ?_, fun e he => by cases he⟩
    · intro hopen
      obtain ⟨_, _, _, _, _, hother, _⟩ := hopen
      cases hother
    · intro hopen
      obtain ⟨_, _, _, _, _, hother, _⟩ := hopen
      cases hother
    · intro hopen
      obtain ⟨_, _, blobId, _, b, hop, _, _, hb, _, hfailed⟩ := hopen
      obtain ⟨_, _, hid, _⟩ := Operation.createOrResolveMultipart.inj hop
      rw [← hid] at hb
      have hpending : b.state = .pending := by
        have hget : (store.runFrom store.start registration).db.blobs.get? 201 = some b := hb
        rw [hget] at hblob
        exact of_decide_eq_true hblob
      rw [hpending] at hfailed
      cases hfailed
  refine ⟨u, hu, ?_⟩
  exact (open_generations_start hopens _ (Machine.runFrom_mem_visited _ _) u
    (Relation.mem_of_get? hu)
    hm (Or.inl hstate)).2

end Sample

end RoboLake
