import RoboLake.Registry.Reachable
import RoboLake.Foundation.Journal

/-! # What the operations flush

Most programs never update a session or a part. The others read the row they update,
so what they write beside it is known: which of them reopens completion work, resets
a part or moves the phase.
-/

namespace RoboLake

open Foundation Work Store

variable [Platform]

/-! ## Quiet programs -/

/-- The write updates neither a session nor a part. -/
def Write.IsQuiet : Write → Prop
  | .updateSession _ => False
  | .updatePart _ => False
  | _ => True

def Quiet {α : Type} (p : Tx α) : Prop := ∀ s, Issues (fun _ w => Write.IsQuiet w) p s

section Rules

variable {α β : Type} {P : TxState → Write → Prop} {s : TxState}

theorem exec_tick : (exec Write.tick s : Except Failure TxState) = .ok s.ticked := rfl

theorem exec_glance : (exec Write.glance s : Except Failure TxState) = .ok s.glanced := rfl

theorem exec_draw : (exec Write.draw s : Except Failure TxState) = .ok s.drawn := rfl

@[simp] theorem issues_clockTimestamp_bind {f : Timestamp → Tx α} :
    Issues P (clockTimestamp >>= f) s ↔ P s .tick ∧ Issues P (f s.ticked.now) s.ticked := by
  change Issues P (write .tick (inspect fun s => f s.now)) s ↔ _
  simp only [issues_write, exec_tick, Except.ok.injEq, forall_eq', issues_inspect]

@[simp] theorem issues_utcNow_bind {f : Timestamp → Tx α} :
    Issues P (utcNow >>= f) s ↔ P s .glance ∧ Issues P (f (s.wall 0)) s.glanced := by
  change Issues P (write .glance (f (s.wall 0))) s ↔ _
  simp only [issues_write, exec_glance, Except.ok.injEq, forall_eq']

@[simp] theorem issues_uuid4_bind {f : UUID → Tx α} :
    Issues P (uuid4 >>= f) s ↔ P s .draw ∧ Issues P (f (s.uuids 0)) s.drawn := by
  change Issues P (write .draw (f (s.uuids 0))) s ↔ _
  simp only [issues_write, exec_draw, Except.ok.injEq, forall_eq']

theorem issues_flush_bind {ρ κ : Type} [Keyed ρ κ] [DecidableEq κ] [DecidableEq ρ]
    {table : Database → Relation ρ} {update : ρ → Write} {row : ρ} {f : Unit → Tx α} :
    Issues P (flush table update row >>= f) s ↔
      ((table s.db).get? (key row) = some row → Issues P (f ()) s) ∧
      ((table s.db).get? (key row) ≠ some row → ∀ s', execWrite (update row) s = .ok s' →
        P s (update row) ∧ Issues P (f ()) s') := by
  change Issues P ((if (table s.db).get? (key row) = some row then done ()
    else perform (update row)) >>= f) s ↔ _
  by_cases hrow : (table s.db).get? (key row) = some row
  · simp only [hrow, ne_eq, not_true, false_implies, and_true, true_implies]
    exact issues_pure_bind
  · simp only [hrow, ne_eq, not_false_eq_true, false_implies, true_and, true_implies]
    exact issues_perform_bind

theorem quiet_bind {p : Tx α} {f : α → Tx β} (hp : Quiet p) (hf : ∀ a, Quiet (f a)) :
    Quiet (p >>= f) := by
  intro s
  rw [issues_bind]
  exact ⟨hp s, fun a s' _ => hf a s'⟩

theorem quiet_flush {ρ κ : Type} [Keyed ρ κ] [DecidableEq κ] [DecidableEq ρ]
    {table : Database → Relation ρ} {update : ρ → Write} {row : ρ} (h : (update row).IsQuiet) :
    Quiet (flush table update row) := by
  intro s
  rw [flush, issues_inspect]
  split
  · exact issues_done
  · rw [issues_perform]
    exact fun _ _ => h

theorem quiet_flushVersion (row : DatasetVersionModel) : Quiet (flushVersion row) :=
  quiet_flush trivial

theorem quiet_flushBlob (row : BlobModel) : Quiet (flushBlob row) := quiet_flush trivial

theorem quiet_flushAdmissionLease (row : MultipartAdmissionLeaseModel) :
    Quiet (flushAdmissionLease row) :=
  quiet_flush trivial

theorem quiet_flushCompletionLease (row : MultipartCompletionLeaseModel) :
    Quiet (flushCompletionLease row) :=
  quiet_flush trivial

end Rules

/-! ## Quiet operations -/

theorem quiet_createDataset (name : DatasetName) (key : String) (sha : Sha256Digest) :
    Quiet (createDataset name key sha) := by
  intro s
  unfold createDataset
  rw [issues_select_bind]
  cases s.db.idempotency.get? (.datasetCreate, key) with
  | some replay => simp
  | none =>
      simp only [issues_select_bind]
      cases s.db.datasets.rows.find? fun d => d.name = name with
      | some model => simp [Write.IsQuiet]
      | none => simp [Write.IsQuiet]

theorem quiet_registerEntry (versionId : UUID) (item : ManifestEntry × Nat) :
    Quiet (registerEntry versionId item) := by
  apply quiet_bind
  · intro s
    unfold getOrCreateBlob
    simp only [issues_uuid4_bind, issues_select_bind]
    refine ⟨trivial, ?_⟩
    cases s.drawn.db.blobs.rows.find? fun b => b.sha256 = item.1.sha256 with
    | some blob => simp
    | none => simp [Write.IsQuiet]
  · intro blob s
    simp [Write.IsQuiet]

theorem quiet_sealVersion (datasetId : UUID) (canonical : Manifest) :
    Quiet (sealVersion datasetId canonical) := by
  intro s
  unfold sealVersion
  simp only [issues_select_bind, issues_uuid4_bind, issues_perform_bind]
  refine ⟨trivial, fun s₁ _ => ⟨trivial, ?_⟩⟩
  refine quiet_bind (fun _ => issues_forEach (quiet_registerEntry _)) ?_ s₁
  intro _ s₂
  rw [issues_utcNow_bind]
  exact ⟨trivial, quiet_bind (quiet_flushVersion _) (fun _ _ => issues_pure) _⟩

theorem quiet_registerVersion (datasetId : UUID) (manifest : Manifest) (key : String)
    (sha : Sha256Digest) : Quiet (registerVersion datasetId manifest key sha) := by
  intro s
  unfold registerVersion
  simp only [issues_ofExcept_bind, issues_require_bind, issues_fetch_bind, issues_select_bind]
  intro canonical _ _ dataset _
  cases s.db.idempotency.get? (.versionRegister, key) with
  | some replay => simp
  | none =>
      simp only [issues_select_bind]
      cases s.db.versions.rows.find? fun v =>
          v.datasetId = datasetId ∧ v.manifestSha256 = canonical.sha256 with
      | some version => simp [Write.IsQuiet]
      | none =>
          apply quiet_bind (quiet_sealVersion datasetId canonical)
          intro version s₁
          simp [Write.IsQuiet]

theorem quiet_resolveVersion (name : DatasetName) (number : Nat) :
    Quiet (resolveVersion name number) := by
  intro s
  simp [resolveVersion]

theorem quiet_getManifest (versionId : UUID) : Quiet (getManifest versionId) := by
  intro s
  simp [getManifest]

theorem quiet_getDownloadEntry (versionId : UUID) (ordinal : Nat) :
    Quiet (getDownloadEntry versionId ordinal) := by
  intro s
  simp [getDownloadEntry]

theorem quiet_getStatus (versionId : UUID) : Quiet (getStatus versionId) := by
  intro s
  simp [getStatus]

theorem quiet_createSinglePut (versionId blobId : UUID) :
    Quiet (createSinglePut versionId blobId) := by
  intro s
  simp [createSinglePut, Write.IsQuiet]

theorem quiet_bindUpload (key : String) (sha : Sha256Digest) (uploadId : UUID) :
    Quiet (bindUpload key sha uploadId) := by
  intro s
  simp [bindUpload, Write.IsQuiet]

theorem quiet_prepareUpload (versionId : UUID) (digest : Sha256Digest) (key : String)
    (sha : Sha256Digest) : Quiet (prepareUpload versionId digest key sha) := by
  intro s
  unfold prepareUpload fetchDataset
  simp only [issues_fetch_bind]
  intro version _ dataset _ blob _
  split
  · exact issues_pure
  · rw [issues_select_bind]
    cases s.db.idempotency.get? (.uploadSessionCreate, key) with
    | some replay => simp
    | none =>
        rw [issues_select_bind]
        refine quiet_bind ?_ ?_ s
        · unfold uploadToBind
          split
          · exact fun _ => issues_pure
          · split
            · exact quiet_createSinglePut versionId blob.id
            · exact fun _ => issues_fetch
        · intro upload s₁
          rw [issues_ofExcept_bind]
          intro _ _
          exact quiet_bind (quiet_bindUpload key sha upload.id) (fun _ _ => issues_pure) s₁

theorem quiet_getUpload (sessionId : UUID) : Quiet (getUpload sessionId) := by
  intro s
  simp [getUpload, fetchDataset]

theorem quiet_restartFailedUpload (versionId blobId : UUID) (key : String) (sha : Sha256Digest) :
    Quiet (restartFailedUpload versionId blobId key sha) := by
  intro s
  unfold restartFailedUpload fetchDataset
  simp only [issues_fetch_bind, issues_select_bind, issues_require_bind]
  intro version _ blob _ dataset _ _
  cases s.db.idempotency.get? (.uploadSessionCreate, key) with
  | some replay => simp
  | none =>
      simp only [issues_select_bind, issues_ofExcept_bind, issues_require_bind]
      intro _ _ _
      refine quiet_bind (quiet_flushBlob _) ?_ s
      intro _
      apply quiet_bind (quiet_flushVersion _)
      intro _
      apply quiet_bind (quiet_createSinglePut versionId blobId)
      intro upload
      exact quiet_bind (quiet_bindUpload key sha upload.id) (fun _ _ => issues_pure)

theorem quiet_finalizeVersion (versionId : UUID) : Quiet (finalizeVersion versionId) := by
  intro s
  unfold finalizeVersion fetchDataset
  simp only [issues_fetch_bind]
  intro version _ dataset _
  split
  · exact issues_pure
  · simp only [issues_require_bind, issues_ofExcept_bind, issues_select_bind, issues_utcNow_bind]
    intro _ canonical _ _ _
    refine ⟨trivial, quiet_bind (quiet_flushVersion _) ?_ _⟩
    intro _
    exact quiet_bind (quiet_flushVersion _) (fun _ _ => issues_pure)

theorem quiet_loadMultipartContext (upload : UploadSessionModel) :
    Quiet (loadMultipartContext upload) := by
  intro s
  simp [loadMultipartContext]

theorem quiet_sessionToResolve (versionId blobId : UUID) (plan : HashedMultipartPlan)
    (active : Option UploadSessionModel) :
    Quiet (sessionToResolve versionId blobId plan active) := by
  intro s
  cases active with
  | some upload => simp [sessionToResolve]
  | none =>
      simp only [sessionToResolve, createMultipart, issues_select_bind, issues_utcNow_bind,
        issues_uuid4_bind, issues_perform_bind]
      refine ⟨trivial, trivial, fun s₁ _ => ⟨trivial, ?_⟩⟩
      refine quiet_bind (fun _ => issues_forEach ?_) (fun _ _ => issues_pure) s₁
      intro part s₂
      simp [Write.IsQuiet]

theorem quiet_createOrResolveMultipart (requestId versionId blobId : UUID)
    (plan : HashedMultipartPlan) :
    Quiet (createOrResolveMultipart requestId versionId blobId plan) := by
  intro s
  unfold createOrResolveMultipart
  rw [issues_select_bind]
  cases s.db.idempotency.get? (.multipartSessionResolve, String.ofList requestId.str) with
  | some replay => simp [replayMultipartContext, loadMultipartContext]
  | none =>
      simp only [issues_fetch_bind, issues_select_bind, issues_require_bind]
      intro blob _ version _ _ _
      apply quiet_bind (quiet_sessionToResolve _ _ _ _)
      intro upload s₁
      rw [issues_perform_bind]
      exact fun s₂ _ => ⟨trivial, quiet_loadMultipartContext upload s₂⟩

theorem quiet_getMultipart (sessionId : UUID) : Quiet (getMultipart sessionId) := by
  intro s
  simp [getMultipart, loadMultipartContext]

theorem quiet_admitInvocation (invocationId sessionId : UUID) (ttlSeconds capacity : Int)
    (now : Timestamp) (lease : Option MultipartAdmissionLeaseModel) :
    Quiet (admitInvocation invocationId sessionId ttlSeconds capacity now lease) := by
  intro s
  unfold admitInvocation
  split
  · simp only [issues_require_bind, issues_ofExcept_bind]
    intro _ expiresAt _
    exact quiet_bind (quiet_flushAdmissionLease _) (fun _ _ => issues_pure) s
  · simp only [issues_select_bind, issues_require_bind]
    intro _
    cases lease with
    | none => simp [grantAdmission, Write.IsQuiet]
    | some lease =>
        simp only [grantAdmission, issues_uuid4_bind, issues_ofExcept_bind]
        refine ⟨trivial, fun expiresAt _ => ?_⟩
        exact quiet_bind (quiet_flushAdmissionLease _) (fun _ _ => issues_pure) _

theorem quiet_acquireMultipartLease (requestId invocationId sessionId : UUID)
    (ttlSeconds capacity : Int) :
    Quiet (acquireMultipartLease requestId invocationId sessionId ttlSeconds capacity) := by
  intro s
  unfold acquireMultipartLease
  simp only [issues_require_bind, issues_select_bind]
  intro _
  cases s.db.idempotency.get? (.multipartAdmissionAcquire, String.ofList requestId.str) with
  | some replay => simp
  | none =>
      simp only [issues_fetch_bind, issues_require_bind, issues_clockTimestamp_bind,
        issues_select_bind]
      intro upload _ _
      refine ⟨trivial, quiet_bind (quiet_admitInvocation _ _ _ _ _ _) ?_ _⟩
      intro lease s₁
      simp [Write.IsQuiet]

theorem quiet_releaseMultipartLease (sessionId ownerId : UUID) (epoch : Nat) :
    Quiet (releaseMultipartLease sessionId ownerId epoch) := by
  intro s
  simp [releaseMultipartLease, endAdmission, Write.IsQuiet]

theorem quiet_claimCompletion (ownerInstanceId : UUID) (ttlSeconds capacity : Int) :
    Quiet (claimCompletion ownerInstanceId ttlSeconds capacity) := by
  intro s
  unfold claimCompletion
  simp only [issues_require_bind, issues_clockTimestamp_bind, issues_select_bind]
  refine fun _ => ⟨trivial, ?_⟩
  split
  · exact issues_pure
  · rw [issues_select_bind]
    split
    · exact issues_pure
    · simp only [issues_select_bind, issues_ofExcept_bind]
      intro expiresAt _
      split
      · simp [Write.IsQuiet]
      · apply quiet_bind (quiet_flushCompletionLease _)
        intro _ s₁
        simp

theorem quiet_renewCompletionLease (sessionId ownerInstanceId : UUID) (epoch : Nat)
    (ttlSeconds : Int) :
    Quiet (renewCompletionLease sessionId ownerInstanceId epoch ttlSeconds) := by
  intro s
  simp [renewCompletionLease, Write.IsQuiet]

end RoboLake
