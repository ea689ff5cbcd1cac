import RoboLake.Registry.Accepted.Versions
import RoboLake.Guarantees.States

/-! # Finalization and repair

A Version is moved by the attempts on any of its Blobs, and a Blob is shared by
Versions. So a Version can stay FAILED beside complete content, and a Blob can stay
FAILED without a FAILED Version to restart it from. The steps that lead there are
named below; without them neither happens.
-/

namespace RoboLake

open Foundation Work Store Migrations

section Finalization

variable [Platform] {env : Env} {r : Registry} {op : Operation} {db : Database}

/-! ## States of Versions -/

/-- No Version is between its verification and its publication. -/
def VersionsSettled (db : Database) : Prop := ∀ v ∈ db.versions.rows, v.state ≠ .verifying

theorem versionsSettled_of_effect (heffect : Effect env r op db) (h : VersionsSettled r.db) :
    VersionsSettled db := by
  cases heffect with
  | versionRegistered _ _ hv hfree =>
      refine Relation.forall_insert h hfree ?_
      rw [hv]
      nofun
  | uploadStarted _ _ _ _ hv =>
      refine Relation.forall_replace h ?_
      unfold startedVersion
      split
      · nofun
      · exact h _ (Relation.mem_of_get? hv)
  | uploadFailed => exact Relation.forall_replace h nofun
  | uploadRestarted => exact Relation.forall_replace h nofun
  | versionFinalized => exact Relation.forall_replace h nofun
  | _ => exact h

theorem versionsSettled_of_reachable (h : store.Reachable r) : VersionsSettled r.db := by
  have hinitial : VersionsSettled Registry.initial.db := by
    intro v hv
    cases hv
  exact reachable_induction (I := fun r => VersionsSettled r.db) hinitial
    (fun _ _ _ _ _ _ _ heffect hr => versionsSettled_of_effect heffect hr) h

/-! ## Complete content -/

def ContentAvailable (db : Database) (versionId : UUID) : Prop :=
  ∀ b ∈ db.blobs.rows, db.References versionId b.id → b.state = .available

theorem not_hasUnavailableBlob {versionId : UUID} (h : ContentAvailable db versionId) :
    ¬HasUnavailableBlob db versionId := by
  intro hbad
  obtain ⟨b, hb, hstate⟩ := hbad
  obtain ⟨e, he, hget⟩ := List.mem_filterMap.mp hb
  obtain ⟨he, hversion⟩ := Database.mem_entriesOf.mp he
  have hid : b.id = e.blobId := Relation.key_of_get? hget
  exact hstate (h b (Relation.mem_of_get? hget) ⟨e, he, hversion, hid.symm⟩)

def ReturnsReady (r : Registry) (env : Env) (versionId : UUID) : Prop :=
  ∃ record, (transact (finalizeVersion versionId) env r).1 = .ok record ∧ record.state = .ready

/-- A Version with complete content is finalized exactly while it is not FAILED. -/
theorem returnsReady_iff (h : store.Reachable r) {v : DatasetVersionModel}
    (hv : v ∈ r.db.versions.rows) (havailable : ContentAvailable r.db v.id) (env : Env) :
    ReturnsReady r env v.id ↔ v.state ≠ .failed := by
  have hcommitted := committed_of_reachable h
  have hget : r.db.versions.get? v.id = some v := Relation.get?_of_mem hv
  have hcomplete := not_hasUnavailableBlob havailable
  constructor
  · intro hready hfailed
    obtain ⟨record, hvalue, hstate⟩ := hready
    obtain ⟨s, hrun, _⟩ := returned_of_transact hvalue
    simp only [finalizeVersion, fetchDataset, run_fetch_bind_ok] at hrun
    obtain ⟨v', hv', d, _, hrun⟩ := hrun
    rw [db_beginTx, hget] at hv'
    cases hv'
    simp [hfailed, run_require_bind_ok] at hrun
  · intro hstate
    cases hcase : v.state with
    | draft =>
        obtain ⟨m, hm⟩ := registered_of_reachable h v hv
        have hfinal : ∃ record db, transact (finalizeVersion v.id) env r =
            (.ok record, ⟨db, r.later env⟩) ∧ record.state = .ready :=
          transact_finalizeVersion hcommitted hv hm hcomplete (Or.inl hcase)
        obtain ⟨record, _, hcall, hready⟩ := hfinal
        exact ⟨record, congrArg Prod.fst hcall, hready⟩
    | uploading =>
        obtain ⟨m, hm⟩ := registered_of_reachable h v hv
        have hfinal : ∃ record db, transact (finalizeVersion v.id) env r =
            (.ok record, ⟨db, r.later env⟩) ∧ record.state = .ready :=
          transact_finalizeVersion hcommitted hv hm hcomplete (Or.inr hcase)
        obtain ⟨record, _, hcall, hready⟩ := hfinal
        exact ⟨record, congrArg Prod.fst hcall, hready⟩
    | verifying => exact absurd hcase (versionsSettled_of_reachable h v hv)
    | ready =>
        obtain ⟨d, hd⟩ := hcommitted.lawful.version_dataset.get hv
        have hread : run (finalizeVersion v.id) (beginTx env r) =
            .ok (versionRecord v d.name, beginTx env r) := by
          simp only [finalizeVersion, fetchDataset]
          refine run_fetch_bind_ok.mpr ⟨v, hget, run_fetch_bind_ok.mpr ⟨d, hd, ?_⟩⟩
          rw [if_pos hcase]
          rfl
        exact ⟨versionRecord v d.name, congrArg Prod.fst (transact_of_read hread), hcase⟩
    | failed => exact absurd hcase hstate

/-! ## What one step does to failures -/

def Operation.verifies : Operation → Option UUID
  | .markUploadVerified sessionId _ => some sessionId
  | .recordVerifiedCompletion claim _ => some claim.sessionId
  | _ => none

/-- The call starts an attempt of the Version or restarts one of its Blobs under an unused key. -/
def Reopens (r : Registry) (op : Operation) (versionId : UUID) : Prop :=
  (∃ u, op = .markUploadInProgress u.id ∧ r.db.sessions.get? u.id = some u ∧
    u.strategy = .singlePut ∧ u.state = .created ∧ u.initiatingVersionId = versionId) ∨
  ∃ b key sha, op = .restartFailedUpload versionId b.id key sha ∧
    r.db.blobs.get? b.id = some b ∧ b.state = .failed ∧ r.db.References versionId b.id ∧
      r.db.idempotency.get? (.uploadSessionCreate, key) = none

theorem reopens_unique {versionId versionId' : UUID} (h : Reopens r op versionId)
    (h' : Reopens r op versionId') : versionId = versionId' := by
  rcases h with ⟨u, hop, hu, _, _, hversion⟩ | ⟨b, key, sha, hop, _⟩
  · rcases h' with ⟨u', hop', hu', _, _, hversion'⟩ | ⟨_, _, _, hop', _⟩
    · rw [hop, Operation.markUploadInProgress.injEq] at hop'
      rw [← hop', hu] at hu'
      cases hu'
      rw [← hversion, ← hversion']
    · rw [hop] at hop'
      cases hop'
  · rcases h' with ⟨_, hop', _⟩ | ⟨_, _, _, hop', _⟩
    · rw [hop] at hop'
      cases hop'
    · rw [hop, Operation.restartFailedUpload.injEq] at hop'
      exact hop'.1

def Restarts (op : Operation) (blobId : UUID) : Prop :=
  ∃ versionId key sha, op = .restartFailedUpload versionId blobId key sha

theorem failedVersion_of_effect (heffect : Effect env r op db) (hcoupled : Coupled r.db)
    {v : DatasetVersionModel} (hv : v ∈ db.versions.rows) (hfailed : v.state = .failed) :
    v ∈ r.db.versions.rows ∨
      ∃ b ∈ db.blobs.rows, b.state = .failed ∧ r.db.References v.id b.id := by
  cases heffect with
  | versionRegistered _ _ hv' hfree =>
      rcases (Relation.mem_insert hfree).mp hv with hv | rfl
      · exact Or.inl hv
      · rw [hv'] at hfailed
        cases hfailed
  | uploadStarted =>
      rcases Relation.mem_replace hv with rfl | ⟨hv, _⟩
      · unfold startedVersion at hfailed
        split at hfailed
        · cases hfailed
        · rename_i hother
          exact absurd (Or.inr hfailed) hother
      · exact Or.inl hv
  | @uploadFailed u b v' code detail _ hu _ _ hb _ hv' =>
      rcases Relation.mem_replace hv with rfl | ⟨hv, _⟩
      · right
        have hbid : b.id = u.blobId := Relation.key_of_get? hb
        have hvid : v'.id = u.initiatingVersionId := Relation.key_of_get? hv'
        have hstored : r.db.blobs.get? b.id = some b := Relation.get?_key hb
        refine ⟨{ b with
          state := .failed, failureCode := some code, failureDetail := some detail }, ?_, rfl, ?_⟩
        · exact Relation.mem_of_get? (Relation.get?_replace_self (r := { b with
            state := .failed, failureCode := some code, failureDetail := some detail }) hstored)
        · have href := hcoupled.references u (Relation.mem_of_get? hu)
          rwa [← hbid, ← hvid] at href
      · exact Or.inl hv
  | uploadRestarted =>
      rcases Relation.mem_replace hv with rfl | ⟨hv, _⟩
      · cases hfailed
      · exact Or.inl hv
  | versionFinalized =>
      rcases Relation.mem_replace hv with rfl | ⟨hv, _⟩
      · cases hfailed
      · exact Or.inl hv
  | _ => exact Or.inl hv

/-- A FAILED Version stays as it is until the call reopens it. -/
theorem failed_or_reopened (heffect : Effect env r op db) {v : DatasetVersionModel}
    (hv : v ∈ r.db.versions.rows) (hfailed : v.state = .failed) :
    v ∈ db.versions.rows ∨ Reopens r op v.id := by
  have hget : r.db.versions.get? v.id = some v := Relation.get?_of_mem hv
  cases heffect with
  | versionRegistered _ _ _ hfree => exact Or.inl (Relation.mem_insert_of_mem hfree hv)
  | @uploadStarted u b v' now hu hsingle hcreated _ hv' =>
      have hvid : v'.id = u.initiatingVersionId := Relation.key_of_get? hv'
      have hkey : (startedVersion v').id = v'.id := startedVersion_id v'
      by_cases hid : v.id = v'.id
      · exact Or.inr (Or.inl ⟨u, rfl, hu, hsingle, hcreated, by rw [hid, hvid]⟩)
      · refine Or.inl (Relation.mem_replace_of_ne hv ?_)
        rw [key_version, key_version, hkey]
        exact hid
  | @uploadFailed u b v' code detail now hu _ _ hb _ hv' hversion =>
      refine Or.inl (Relation.mem_replace_of_ne hv ?_)
      intro hid
      have hsame : some v = some v' := by
        rw [← hget, show v.id = v'.id from hid]
        exact Relation.get?_key hv'
      cases hsame
      rw [hversion] at hfailed
      cases hfailed
  | @uploadRestarted v' b key sha _ _ _ hb href hkey _ hblob =>
      by_cases hid : v.id = v'.id
      · rw [hid]
        exact Or.inr (Or.inr ⟨b, key, sha, rfl, hb, hblob, href, hkey⟩)
      · exact Or.inl (Relation.mem_replace_of_ne hv hid)
  | versionFinalized hv' hstate =>
      refine Or.inl (Relation.mem_replace_of_ne hv ?_)
      intro hid
      have hsame : some v = _ := hget.symm.trans ((congrArg r.db.versions.get? hid).trans hv')
      cases hsame
      rw [hfailed] at hstate
      simp at hstate
  | _ => exact Or.inl hv

theorem startedBlob_uploading {u : UploadSessionModel} {b : BlobModel} (hcoupled : Coupled r.db)
    (hu : r.db.sessions.get? u.id = some u) (hsingle : u.strategy = .singlePut)
    (hcreated : u.state = .created) (hb : r.db.blobs.get? u.blobId = some b) :
    (startedBlob b).state = .uploading := by
  have hfits := hcoupled.fits u (Relation.mem_of_get? hu) b hb
  rw [hcreated, hsingle] at hfits
  exact startedBlob_state hfits

theorem unavailable_of_effect (heffect : Effect env r op db) (hcoupled : Coupled r.db)
    {b : BlobModel} (hb : b ∈ r.db.blobs.rows) (hstate : b.state ≠ .available) :
    (∃ b' ∈ db.blobs.rows, b'.id = b.id ∧ b'.state ≠ .available) ∨
      ∃ sessionId u, op.verifies = some sessionId ∧ r.db.sessions.get? sessionId = some u ∧
        u.blobId = b.id := by
  have hkept {k : UUID} {row old : BlobModel} (hold : r.db.blobs.get? k = some old)
      (hid : row.id = old.id) (hrow : row.state ≠ .available) :
      ∃ b' ∈ (r.db.blobs.replace row).rows, b'.id = b.id ∧ b'.state ≠ .available := by
    have hstored : r.db.blobs.get? row.id = some old := hid ▸ Relation.get?_key hold
    by_cases hsame : b.id = row.id
    · exact ⟨row, Relation.mem_of_get? (Relation.get?_replace_self (r := row) hstored),
        hsame.symm, hrow⟩
    · exact ⟨b, Relation.mem_replace_of_ne hb hsame, rfl, hstate⟩
  cases heffect with
  | versionRegistered _ _ _ _ _ hblobs =>
      obtain ⟨b', hb', rfl⟩ := hblobs.kept _ b (Relation.get?_of_mem hb)
      exact Or.inl ⟨b, Relation.mem_of_get? hb', rfl, hstate⟩
  | @uploadStarted u b' v now hu hsingle hcreated hb' =>
      have hrow : (startedBlob b').state ≠ .available := by
        rw [startedBlob_uploading hcoupled hu hsingle hcreated hb']
        nofun
      exact Or.inl (hkept hb' (startedBlob_id b') hrow)
  | uploadFailed _ _ _ hb' => exact Or.inl (hkept hb' rfl nofun)
  | uploadRestarted _ hb' => exact Or.inl (hkept hb' rfl nofun)
  | providerRecorded _ _ _ _ hb' => exact Or.inl (hkept hb' rfl nofun)
  | @uploadVerified u b' v etag now hu _ _ hb' =>
      have hid : b'.id = u.blobId := Relation.key_of_get? hb'
      by_cases hsame : b.id = b'.id
      · exact Or.inr ⟨u.id, u, rfl, hu, by rw [hsame, hid]⟩
      · exact Or.inl ⟨b, Relation.mem_replace_of_ne hb hsame, rfl, hstate⟩
  | @completionVerified claim evidence u l b' now hu _ _ _ _ hb' =>
      have hid : b'.id = u.blobId := Relation.key_of_get? hb'
      by_cases hsame : b.id = b'.id
      · exact Or.inr ⟨claim.sessionId, u, rfl, hu, by rw [hsame, hid]⟩
      · exact Or.inl ⟨b, Relation.mem_replace_of_ne hb hsame, rfl, hstate⟩
  | _ => exact Or.inl ⟨b, hb, rfl, hstate⟩

theorem failedBlob_of_effect (heffect : Effect env r op db) (hcoupled : Coupled r.db)
    {b : BlobModel} (hb : b ∈ db.blobs.rows) (hfailed : b.state = .failed) :
    (b ∈ r.db.blobs.rows ∧ (db.versions = r.db.versions ∨ ¬Restarts op b.id)) ∨
      ∃ v ∈ db.versions.rows, v.state = .failed ∧ r.db.References v.id b.id := by
  cases heffect with
  | versionRegistered _ _ _ _ _ hblobs =>
      rcases hblobs.fresh b hb with hb | ⟨_, hpending, _⟩
      · exact Or.inl ⟨hb, Or.inr nofun⟩
      · rw [hpending] at hfailed
        cases hfailed
  | @uploadStarted u b' v now hu hsingle hcreated hb' =>
      rcases Relation.mem_replace hb with rfl | ⟨hb, _⟩
      · rw [startedBlob_uploading hcoupled hu hsingle hcreated hb'] at hfailed
        cases hfailed
      · exact Or.inl ⟨hb, Or.inr nofun⟩
  | uploadVerified =>
      rcases Relation.mem_replace hb with rfl | ⟨hb, _⟩
      · cases hfailed
      · exact Or.inl ⟨hb, Or.inr nofun⟩
  | @uploadFailed u b' v code detail now hu _ _ hb' _ hv =>
      rcases Relation.mem_replace hb with rfl | ⟨hb, _⟩
      · right
        have hbid : b'.id = u.blobId := Relation.key_of_get? hb'
        have hvid : v.id = u.initiatingVersionId := Relation.key_of_get? hv
        have hstored : r.db.versions.get? v.id = some v := Relation.get?_key hv
        have href := hcoupled.references u (Relation.mem_of_get? hu)
        rw [← hbid, ← hvid] at href
        refine ⟨{ v with
          state := .failed, verifyingAt := some now, failureCode := some code
          failureDetail := some detail }, ?_, rfl, href⟩
        exact Relation.mem_of_get? (Relation.get?_replace_self (r := { v with
          state := .failed, verifyingAt := some now, failureCode := some code
          failureDetail := some detail }) hstored)
      · exact Or.inl ⟨hb, Or.inr nofun⟩
  | @uploadRestarted v b' key sha =>
      rcases Relation.mem_replace hb with rfl | ⟨hb, hne⟩
      · cases hfailed
      · refine Or.inl ⟨hb, Or.inr ?_⟩
        rintro ⟨_, _, _, hop⟩
        simp only [Operation.restartFailedUpload.injEq] at hop
        exact hne hop.2.1.symm
  | versionFinalized => exact Or.inl ⟨hb, Or.inr nofun⟩
  | providerRecorded =>
      rcases Relation.mem_replace hb with rfl | ⟨hb, _⟩
      · cases hfailed
      · exact Or.inl ⟨hb, Or.inr nofun⟩
  | completionVerified =>
      rcases Relation.mem_replace hb with rfl | ⟨hb, _⟩
      · cases hfailed
      · exact Or.inl ⟨hb, Or.inr nofun⟩
  | _ => exact Or.inl ⟨hb, Or.inl rfl⟩

/-! ## Complete content of FAILED Versions -/

/-- The call verifies the last missing Blob of a FAILED Version. -/
def CompletesFailed (r : Registry) (c : Call) : Prop :=
  ∃ sessionId u, c.operation.verifies = some sessionId ∧
    r.db.sessions.get? sessionId = some u ∧ ∃ v ∈ r.db.versions.rows, v.state = .failed ∧
      r.db.References v.id u.blobId ∧ ∀ b ∈ r.db.blobs.rows, r.db.References v.id b.id →
        b.id ≠ u.blobId → b.state = .available

def FailedIncomplete (db : Database) : Prop :=
  ∀ v ∈ db.versions.rows, v.state = .failed → ¬ContentAvailable db v.id

/-- Only the verification of its last missing Blob completes a FAILED Version. -/
theorem failedIncomplete_of_step (h : store.Reachable r) {c : Call}
    (hstep : ¬CompletesFailed r c) (hr : FailedIncomplete r.db) :
    FailedIncomplete (c.step r).db := by
  have hcoupled := coupled_of_reachable h
  have hextends := extends_of_step c (committed_of_reachable h)
  have heffect := effect_of_step c r
  intro v hv hfailed havailable
  rcases failedVersion_of_effect heffect hcoupled hv hfailed with hold | ⟨b, hb, hbad, href⟩
  · have hmissing := hr v hold hfailed
    unfold ContentAvailable at hmissing
    push Not at hmissing
    obtain ⟨b, hb, href, hstate⟩ := hmissing
    -- A missing Blob other than the verified one is still missing.
    have hstill : ∀ b ∈ r.db.blobs.rows, r.db.References v.id b.id → b.state ≠ .available →
        ∃ sessionId u, c.operation.verifies = some sessionId ∧
          r.db.sessions.get? sessionId = some u ∧ u.blobId = b.id := by
      intro b hb href hstate
      rcases unavailable_of_effect heffect hcoupled hb hstate with
        ⟨b', hb', hid, hstate'⟩ | hverified
      · have href' := References.extends hextends href
        rw [← hid] at href'
        exact absurd (havailable b' hb' href') hstate'
      · exact hverified
    obtain ⟨sessionId, u, hop, hu, hub⟩ := hstill b hb href hstate
    refine hstep ⟨sessionId, u, hop, hu, v, hold, hfailed, by rw [hub]; exact href, ?_⟩
    intro b' hb' href' hne
    by_contra hstate'
    obtain ⟨sessionId', u', hop', hu', hub'⟩ := hstill b' hb' href' hstate'
    rw [hop] at hop'
    cases hop'
    rw [hu] at hu'
    cases hu'
    exact hne hub'.symm
  · have hstate := havailable b hb (References.extends hextends href)
    rw [hbad] at hstate
    cases hstate

theorem failedIncomplete_of_run {calls : List Call}
    (hsteps : ∀ e ∈ store.steps store.start calls, ¬CompletesFailed e.1 e.2) :
    FailedIncomplete (store.runFrom store.start calls).db := by
  have hinitial : FailedIncomplete store.start.db := by
    intro v hv
    cases hv
  have hvisited := Machine.forall_visited (P := fun r => FailedIncomplete r.db)
    (G := fun r c => ¬CompletesFailed r c)
    (fun _ _ h hr hstep => failedIncomplete_of_step h hstep hr)
    store.reachable_start hinitial hsteps
  exact hvisited _ (store.runFrom_mem_visited _ _)

/-- A Version with complete content is finalized unless it is FAILED, and no Version is in a run
without a step that verifies the last missing Blob of a FAILED Version. -/
theorem complete_versions_finalize :
    (∀ r, store.Reachable r → ∀ v ∈ r.db.versions.rows, ContentAvailable r.db v.id → ∀ env,
      (ReturnsReady r env v.id ↔ v.state ≠ .failed)) ∧
    ∀ calls, (∀ e ∈ store.steps store.start calls, ¬CompletesFailed e.1 e.2) →
      ∀ v ∈ (store.runFrom store.start calls).db.versions.rows,
        ContentAvailable (store.runFrom store.start calls).db v.id →
          ∀ env, ReturnsReady (store.runFrom store.start calls) env v.id := by
  constructor
  · intro r h v hv havailable env
    exact returnsReady_iff h hv havailable env
  · intro calls hsteps v hv havailable env
    refine (returnsReady_iff ⟨calls, rfl⟩ hv havailable env).mpr ?_
    intro hfailed
    exact failedIncomplete_of_run hsteps v hv hfailed havailable

/-! ## FAILED Blobs beside FAILED Versions -/

/-- The call takes a Version out of FAILED that some other FAILED Blob has alone. -/
def Orphans (r : Registry) (c : Call) : Prop :=
  ∃ v ∈ r.db.versions.rows, v.state = .failed ∧ Reopens r c.operation v.id ∧
    ∃ b ∈ r.db.blobs.rows, b.state = .failed ∧ ¬Restarts c.operation b.id ∧
      ∀ v' ∈ r.db.versions.rows, v'.state = .failed → r.db.References v'.id b.id → v'.id = v.id

def HasFailedVersion (db : Database) (blobId : UUID) : Prop :=
  ∃ v ∈ db.versions.rows, v.state = .failed ∧ db.References v.id blobId

def FailuresShared (db : Database) : Prop :=
  ∀ b ∈ db.blobs.rows, b.state = .failed → HasFailedVersion db b.id

theorem failuresShared_of_step (h : store.Reachable r) {c : Call} (hstep : ¬Orphans r c)
    (hr : FailuresShared r.db) : FailuresShared (c.step r).db := by
  have hcoupled := coupled_of_reachable h
  have hextends := extends_of_step c (committed_of_reachable h)
  have heffect := effect_of_step c r
  intro b hb hfailed
  rcases failedBlob_of_effect heffect hcoupled hb hfailed with ⟨hold, hversions⟩ | hnew
  · obtain ⟨v, hv, hvfailed, href⟩ := hr b hold hfailed
    rcases hversions with hsame | hrestarts
    · exact ⟨v, by rw [hsame]; exact hv, hvfailed, References.extends hextends href⟩
    rcases failed_or_reopened heffect hv hvfailed with hkept | hreopens
    · exact ⟨v, hkept, hvfailed, References.extends hextends href⟩
    -- The Version is taken out of FAILED, so another one has the Blob too.
    · by_contra hnone
      apply hstep
      refine ⟨v, hv, hvfailed, hreopens, b, hold, hfailed, hrestarts, ?_⟩
      intro v' hv' hvfailed' href'
      rcases failed_or_reopened heffect hv' hvfailed' with hkept | hreopens'
      · exact absurd ⟨v', hkept, hvfailed', References.extends hextends href'⟩ hnone
      · exact reopens_unique hreopens' hreopens
  · obtain ⟨v, hv, hvfailed, href⟩ := hnew
    exact ⟨v, hv, hvfailed, References.extends hextends href⟩

/-! ## Runs of the first milestone -/

/-- The operations of the first milestone: registration, single-PUT attempts, publication and the
readers. -/
def Operation.isM1 : Operation → Bool
  | .createDataset _ _ _ => true
  | .registerVersion _ _ _ _ => true
  | .resolveVersion _ _ => true
  | .getManifest _ => true
  | .getStatus _ => true
  | .getDownloadEntry _ _ => true
  | .prepareUpload _ _ _ _ => true
  | .getUpload _ => true
  | .markUploadInProgress _ => true
  | .markUploadVerified _ _ => true
  | .markUploadFailed _ _ _ => true
  | .restartFailedUpload _ _ _ _ => true
  | .finalizeVersion _ => true
  | _ => false

def AllSinglePut (db : Database) : Prop := ∀ u ∈ db.sessions.rows, u.strategy = .singlePut

theorem allSinglePut_of_effect (heffect : Effect env r op db) (hm1 : op.isM1 = true)
    (h : AllSinglePut r.db) : AllSinglePut db := by
  cases heffect with
  | idle => exact h
  | datasetFound => exact h
  | datasetCreated => exact h
  | versionFound => exact h
  | versionRegistered => exact h
  | uploadBound => exact h
  | sessionOpened _ _ _ _ hfree => exact Relation.forall_insert h hfree rfl
  | uploadStarted _ hsingle => exact Relation.forall_replace h hsingle
  | uploadVerified _ hsingle => exact Relation.forall_replace h hsingle
  | uploadFailed _ hsingle => exact Relation.forall_replace h hsingle
  | uploadRestarted _ _ _ _ _ _ hfree => exact Relation.forall_insert h hfree rfl
  | versionFinalized => exact h
  | _ => cases hm1

/-- A restart of the Blob from the Version succeeds under every fresh key. -/
def Restartable (r : Registry) (versionId blobId : UUID) : Prop :=
  ∀ env key sha, FreshKey r.db key → r.db.sessions.get? (env.uuids 0) = none →
    ∃ context u, (transact (restartFailedUpload versionId blobId key sha) env r).1 = .ok context ∧
      context.session = some u ∧ u.state = .created ∧ u.blobId = blobId

theorem restartable_of_failed (h : store.Reachable r) (hsingle : AllSinglePut r.db)
    {v : DatasetVersionModel} {b : BlobModel} (hv : v ∈ r.db.versions.rows)
    (hb : b ∈ r.db.blobs.rows) (hfailed : v.state = .failed ∧ b.state = .failed)
    (href : r.db.References v.id b.id) : Restartable r v.id b.id := by
  intro env key sha hkey hid
  have hget : r.db.blobs.get? b.id = some b := Relation.get?_of_mem hb
  have hended : ∀ u ∈ r.db.sessions.rows, u.blobId = b.id →
      u.strategy = .singlePut ∧ u.state.isActive = false := by
    intro u hu hub
    refine ⟨hsingle u hu, inactive_of_failed h hu (hsingle u hu) ?_ hfailed.2⟩
    rw [hub]
    exact hget
  obtain ⟨context, _, hcall, u, hsession, hcreated, hblob⟩ :=
    @transact_restartFailedUpload _ env r v b key sha (committed_of_reachable h) hv hget href
      hfailed hended hkey hid
  exact ⟨context, u, congrArg Prod.fst hcall, hsession, hcreated, hblob⟩

/-- In a run of the first milestone that takes no Version out of FAILED away from another FAILED
Blob, every FAILED Blob has a FAILED Version from which it is restarted. -/
theorem failed_blobs_stay_repairable {calls : List Call}
    (hm1 : ∀ c ∈ calls, c.operation.isM1 = true)
    (hsteps : ∀ e ∈ store.steps store.start calls, ¬Orphans e.1 e.2) :
    ∀ b ∈ (store.runFrom store.start calls).db.blobs.rows, b.state = .failed →
      ∃ v ∈ (store.runFrom store.start calls).db.versions.rows, v.state = .failed ∧
        (store.runFrom store.start calls).db.References v.id b.id ∧
        Restartable (store.runFrom store.start calls) v.id b.id := by
  have hinitial : FailuresShared store.start.db ∧ AllSinglePut store.start.db := by
    constructor
    · intro b hb
      cases hb
    · intro u hu
      cases hu
  have hok : ∀ e ∈ store.steps store.start calls, e.2.operation.isM1 = true ∧ ¬Orphans e.1 e.2 :=
    fun e he => ⟨hm1 e.2 (Machine.mem_of_mem_steps he).2, hsteps e he⟩
  have hvisited := Machine.forall_visited
    (P := fun r => FailuresShared r.db ∧ AllSinglePut r.db)
    (G := fun r c => c.operation.isM1 = true ∧ ¬Orphans r c)
    (fun r c h hr hstep => ⟨failuresShared_of_step h hstep.2 hr.1,
      allSinglePut_of_effect (effect_of_step c r) hstep.1 hr.2⟩)
    store.reachable_start hinitial hok
  obtain ⟨hshared, hsingle⟩ := hvisited _ (store.runFrom_mem_visited _ _)
  intro b hb hfailed
  obtain ⟨v, hv, hvfailed, href⟩ := hshared b hb hfailed
  exact ⟨v, hv, hvfailed, href, restartable_of_failed ⟨calls, rfl⟩ hsingle hv hb
    ⟨hvfailed, hfailed⟩ href⟩

end Finalization

end RoboLake

namespace RoboLake.Pair

open Foundation Work Store Migrations

/-! ## A registry of two manifests

The files `a` and `b` hold their own name. One manifest lists the first of them, the
other lists both. The platform gives SHA-256 on the files, on the two manifests and on the
uploads in the Versions `200` and `300`, and reads the manifests back.
-/

def firstDigest : Sha256Digest :=
  Sample.digest 0xca978112ca1bbdcafac231b39a23dc4da786eff8147c4e72b9807785afee48bb

def secondDigest : Sha256Digest :=
  Sample.digest 0x3e23e8160039594a33894f6564e1b1348bbd7a0088d42c4acb73eeaed59c009d

def singleDigest : Sha256Digest :=
  Sample.digest 0x7a0272d121c0b7fa83230839c7af5ca7060dee29b3248f67e6fa0698a1092cf3

def pairDigest : Sha256Digest :=
  Sample.digest 0x7c96015665b8414af40e7602e5bfb1492bb63ac7e1631997c32df075e2065d48

/-- The upload of a file in a Version, by the low byte of its id and the first of the digest. -/
def uploadDigest : UInt8 → UInt8 → Sha256Digest
  | 200, 202 => Sample.digest 0xa0ffbbc5ae08ee209b09ff2dfe00bc1286fffda32cac0d6a1d72ea0871992c3a
  | 200, _ => Sample.digest 0x52a20ac50c8196ceed3e344df112a99317b8926e75934a63a5efbf8b7242055e
  | _, 202 => Sample.digest 0xa71d94dc9070ec1f832096e4828baf3622487382b58706d1fb941c39ef0ae1ec
  | _, _ => Sample.digest 0x8e65a5b99c3165459ddb0792cee204b411b1dfc9e9d66390d1d47d0fb7aec8d1

def hashText (data : Bytes) : Sha256Digest :=
  match data.length with
  | 1 => if data = [97] then firstDigest else secondDigest
  | 64 => uploadDigest (data.getD 23 0) (data.getD 32 0)
  | 145 => singleDigest
  | _ => pairDigest

def fileJson (name : String) (digest : Sha256Digest) : Json :=
  .object [(text "relative_path", .str (text name)), (text "size_bytes", .int 1),
    (text "sha256", .str (asciiText (asciiChars digest.value)))]

def manifestJson (files : List Json) : Json :=
  .object [(text "schema_version", .int 1), (text "entries", .list files)]

scoped instance platform : Platform where
  sha256 := hashText
  nfc := id
  nfc_nfc := Sample.platform.nfc_nfc
  casefold := id
  isalpha c := (65 ≤ c.val && c.val ≤ 90) || (97 ≤ c.val && c.val ≤ 122)
  jsonLoads data :=
    if data.length = 145 then .ok (manifestJson [fileJson "a" firstDigest])
    else .ok (manifestJson [fileJson "a" firstDigest, fileJson "b" secondDigest])
  jsonClosed _ := []

set_option maxRecDepth 100000 in
def firstPath : RelativePath := ⟨text "a", rfl, by decide +kernel⟩

set_option maxRecDepth 100000 in
def secondPath : RelativePath := ⟨text "b", rfl, by decide +kernel⟩

set_option maxRecDepth 100000 in
def name : DatasetName := ⟨text "d", rfl, @DatasetName.safe Sample.platform Sample.name⟩

def single : Manifest where
  entries := [⟨firstPath, 1, firstDigest⟩]
  canonicalBytes := Manifest.canonicalJson [⟨firstPath, 1, firstDigest⟩]
  sha256 := singleDigest

def pair : Manifest where
  entries := [⟨firstPath, 1, firstDigest⟩, ⟨secondPath, 1, secondDigest⟩]
  canonicalBytes :=
    Manifest.canonicalJson [⟨firstPath, 1, firstDigest⟩, ⟨secondPath, 1, secondDigest⟩]
  sha256 := pairDigest

open Sample (env)

/-- Attempts on both Blobs of Version `200` are prepared; the first fails, then the second
starts. -/
def orphaned : List Call :=
  [⟨.createDataset name "dataset" pairDigest, env 1⟩,
   ⟨.registerVersion 100 pair "version" pairDigest, env 2⟩,
   ⟨.prepareUpload 200 firstDigest "first" (uploadDigest 200 202), env 3⟩,
   ⟨.prepareUpload 200 secondDigest "second" (uploadDigest 200 62), env 4⟩,
   ⟨.markUploadInProgress 300, env 5⟩,
   ⟨.markUploadFailed 300 .storedObjectMismatch "The object differs.", env 6⟩,
   ⟨.markUploadInProgress 400, env 7⟩]

/-- Version `200` has the first file, Version `300` both. Each fails with an attempt of its own,
and the first file is then restarted from Version `300` and verified. -/
def stranded : List Call :=
  [⟨.createDataset name "dataset" pairDigest, env 1⟩,
   ⟨.registerVersion 100 single "single" singleDigest, env 2⟩,
   ⟨.registerVersion 100 pair "pair" pairDigest, env 3⟩,
   ⟨.prepareUpload 200 firstDigest "first" (uploadDigest 200 202), env 4⟩,
   ⟨.markUploadInProgress 400, env 5⟩,
   ⟨.markUploadFailed 400 .storedObjectMismatch "The object differs.", env 6⟩,
   ⟨.prepareUpload 300 secondDigest "second" (uploadDigest 44 62), env 7⟩,
   ⟨.markUploadInProgress 700, env 8⟩,
   ⟨.markUploadFailed 700 .storedObjectMismatch "The object differs.", env 9⟩,
   ⟨.restartFailedUpload 300 201 "restart" (uploadDigest 44 202), env 10⟩,
   ⟨.markUploadInProgress 1000, env 11⟩,
   ⟨.markUploadVerified 1000 none, env 12⟩]

/-- The attempt of Version `200` fails and is restarted and verified. -/
def repaired : List Call :=
  [⟨.createDataset name "dataset" pairDigest, env 1⟩,
   ⟨.registerVersion 100 single "single" singleDigest, env 2⟩,
   ⟨.prepareUpload 200 firstDigest "first" (uploadDigest 200 202), env 3⟩,
   ⟨.markUploadInProgress 300, env 4⟩,
   ⟨.markUploadFailed 300 .storedObjectMismatch "The object differs.", env 5⟩,
   ⟨.restartFailedUpload 200 201 "restart" (uploadDigest 200 202), env 6⟩,
   ⟨.markUploadInProgress 600, env 7⟩,
   ⟨.markUploadVerified 600 none, env 8⟩]

set_option maxRecDepth 100000 in
/-- The FAILED Version `200` has complete content and is not finalized. -/
theorem pair_version_is_stranded :
    ¬∀ r, store.Reachable r → ∀ v ∈ r.db.versions.rows, ContentAvailable r.db v.id →
      ∀ env, ReturnsReady r env v.id := by
  intro hall
  have hfacts : ((store.runFrom store.start stranded).db.versions.get? 200).any (fun v =>
      v.id = 200 ∧ v.state = .failed) = true ∧
      ∀ b ∈ (store.runFrom store.start stranded).db.blobs.rows,
        (store.runFrom store.start stranded).db.References 200 b.id → b.state = .available := by
    decide +kernel
  obtain ⟨hversion, havailable⟩ := hfacts
  obtain ⟨v, hv, hfacts⟩ := (Option.any_eq_true _ _).mp hversion
  obtain ⟨hid, hfailed⟩ := of_decide_eq_true hfacts
  have hreachable : store.Reachable (store.runFrom store.start stranded) := ⟨stranded, rfl⟩
  have hmem := Relation.mem_of_get? hv
  have hcontent : ContentAvailable (store.runFrom store.start stranded).db v.id := by
    rw [hid]
    exact havailable
  have hready := hall _ hreachable v hmem hcontent (env 13)
  exact (returnsReady_iff hreachable hmem hcontent (env 13)).mp hready hfailed

set_option maxRecDepth 100000 in
/-- A Version whose only attempt failed is restarted, and is finalized once its content is
verified. -/
theorem pair_version_is_repaired :
    ∃ v ∈ (store.runFrom store.start repaired).db.versions.rows,
      ReturnsReady (store.runFrom store.start repaired) (env 9) v.id := by
  have hsteps : ∀ e ∈ store.steps store.start repaired, e.2.operation.verifies = none ∨
      ∀ v ∈ e.1.db.versions.rows, v.state ≠ .failed := by
    decide +kernel
  have hfacts : (store.runFrom store.start repaired).db.versions.rows ≠ [] ∧
      ∀ b ∈ (store.runFrom store.start repaired).db.blobs.rows, b.state = .available := by
    decide +kernel
  obtain ⟨hversion, havailable⟩ := hfacts
  obtain ⟨v, hv⟩ := List.exists_mem_of_ne_nil _ hversion
  refine ⟨v, hv, complete_versions_finalize.2 repaired ?_ v hv (fun b hb _ => havailable b hb) _⟩
  rintro e he ⟨_, _, hverifies, _, v', hv', hfailed, _⟩
  rcases hsteps e he with hnone | hversions
  · rw [hnone] at hverifies
    cases hverifies
  · exact hversions v' hv' hfailed

set_option maxRecDepth 100000 in
/-- The FAILED first Blob has no FAILED Version. -/
theorem pair_blob_is_orphaned :
    ¬∀ calls : List Call, (∀ c ∈ calls, c.operation.isM1 = true) →
      ∀ b ∈ (store.runFrom store.start calls).db.blobs.rows, b.state = .failed →
        ∃ v ∈ (store.runFrom store.start calls).db.versions.rows, v.state = .failed ∧
          (store.runFrom store.start calls).db.References v.id b.id := by
  intro hall
  have hfacts : (∃ b ∈ (store.runFrom store.start orphaned).db.blobs.rows, b.state = .failed) ∧
      ∀ v ∈ (store.runFrom store.start orphaned).db.versions.rows, v.state ≠ .failed := by
    decide +kernel
  obtain ⟨⟨b, hb, hfailed⟩, hversions⟩ := hfacts
  obtain ⟨v, hv, hvfailed, _⟩ := hall orphaned (by decide) b hb hfailed
  exact hversions v hv hvfailed

set_option maxRecDepth 100000 in
/-- Before the second attempt starts, the failed Blob has its Version. -/
theorem pair_blob_is_repairable :
    ∃ b ∈ (store.runFrom store.start (orphaned.take 6)).db.blobs.rows, b.state = .failed ∧
      ∃ v ∈ (store.runFrom store.start (orphaned.take 6)).db.versions.rows, v.state = .failed ∧
        (store.runFrom store.start (orphaned.take 6)).db.References v.id b.id ∧
        Restartable (store.runFrom store.start (orphaned.take 6)) v.id b.id := by
  have hversions : ∀ e ∈ store.steps store.start (orphaned.take 6),
      ∀ v ∈ e.1.db.versions.rows, v.state ≠ .failed := by
    decide +kernel
  have hfailed : ∃ b ∈ (store.runFrom store.start (orphaned.take 6)).db.blobs.rows,
      b.state = .failed := by
    decide +kernel
  obtain ⟨b, hb, hstate⟩ := hfailed
  refine ⟨b, hb, hstate, failed_blobs_stay_repairable (by decide) ?_ b hb hstate⟩
  rintro e he ⟨v, hv, hfailed, _⟩
  exact hversions e he v hv hfailed

end RoboLake.Pair
