import RoboLake.Infrastructure.Store.Registry

/-! # Single-PUT and publication operations of the store -/

namespace RoboLake

open Foundation Work

/-! ## Upload contexts -/

def requireSinglePutSession (model : UploadSessionModel) : Except Failure Unit :=
  if model.strategy ≠ .singlePut then
    .error (illegalTransition
      "M1 single-PUT operation cannot use a MULTIPART UploadSession.")
  else .ok ()

theorem requireSinglePutSession_ok {model : UploadSessionModel} {u : Unit} :
    requireSinglePutSession model = .ok u ↔ model.strategy = .singlePut := by
  unfold requireSinglePutSession
  by_cases h : model.strategy = .singlePut <;> simp [h]

def requireSinglePutPrior : Option UploadSessionModel → Except Failure Unit
  | some prior => requireSinglePutSession prior
  | none => .ok ()

theorem requireSinglePutPrior_ok {prior : Option UploadSessionModel} {u : Unit} :
    requireSinglePutPrior prior = .ok u ↔ ∀ p, prior = some p → p.strategy = .singlePut := by
  cases prior with
  | none => simp [requireSinglePutPrior]
  | some p => simp [requireSinglePutPrior, requireSinglePutSession_ok]

variable [Platform]

def uploadSessionRecord (model : UploadSessionModel) : UploadSessionRecord where
  id := model.id
  blobId := model.blobId
  initiatingVersionId := model.initiatingVersionId
  state := model.state
  etag := model.etag

/-- The context of one attempt; every caller has already required a single-PUT session. -/
def uploadContext (version : DatasetVersionModel) (datasetName : DatasetName) (blob : BlobModel)
    (upload : Option UploadSessionModel) : UploadContext where
  version := versionRecord version datasetName
  blob := blobRecord blob
  session := upload.map uploadSessionRecord

namespace Store

def fetchDataset (version : DatasetVersionModel) (e : Failure) : Tx DatasetModel :=
  fetch (fun s => s.db.datasets.get? version.datasetId) e

def referencedBlob (db : Database) (versionId : UUID) (digest : Sha256Digest) : Option BlobModel :=
  (Migrations.entryBlobs db versionId).find? fun b => b.sha256 = digest

/-- The Blob's session in CREATED or IN_PROGRESS; the active index admits one. -/
def activeUpload (db : Database) (blobId : UUID) : Option UploadSessionModel :=
  (db.sessionsOf blobId).find? fun u => u.state = .created ∨ u.state = .inProgress

/-- The Blob's session of greatest creation time; the ordering does not break ties. -/
def latestUpload (s : TxState) (blobId : UUID) : Option UploadSessionModel :=
  let sessions := s.db.sessionsOf blobId
  let latest := sessions.filter fun u => sessions.all fun x => x.createdAt ≤ u.createdAt
  latest[s.pick % latest.length]?

def singlePutSession (id versionId blobId : UUID) (createdAt lastActivityAt : Timestamp) :
    UploadSessionModel where
  id := id
  blobId := blobId
  initiatingVersionId := versionId
  strategy := .singlePut
  state := .created
  createdAt := createdAt
  lastActivityAt := lastActivityAt

def createSinglePut (versionId blobId : UUID) : Tx UploadSessionModel := do
  let id ← uuid4
  let createdAt ← utcNow
  let lastActivityAt ← utcNow
  let upload := singlePutSession id versionId blobId createdAt lastActivityAt
  perform (.insertSession upload)
  pure upload

def uploadBinding (idempotencyKey : String) (requestSha256 : Sha256Digest) (uploadId : UUID) :
    IdempotencyRecordModel where
  scope := .uploadSessionCreate
  key := idempotencyKey
  requestSha256 := requestSha256
  resourceType := some "upload-session"
  resourceId := some uploadId
  httpStatus := some 200
  responseJson := some (.upload uploadId)

def bindUpload (idempotencyKey : String) (requestSha256 : Sha256Digest) (uploadId : UUID) :
    Tx Unit :=
  perform (.insertIdempotency (uploadBinding idempotencyKey requestSha256 uploadId))

/-- The attempt a fresh key binds: the active one, a new one, or the latest. -/
def uploadToBind (versionId : UUID) (blob : BlobModel) :
    Option UploadSessionModel → Tx UploadSessionModel
  | some upload => pure upload
  | none =>
      if blob.state = .pending then createSinglePut versionId blob.id
      else fetch (fun s => latestUpload s blob.id)
        (contentConflict "Blob state has no recoverable upload session.")

/-- Create or reuse one file-level upload attempt for referenced content. -/
def prepareUpload (versionId : UUID) (digest : Sha256Digest) (idempotencyKey : String)
    (requestSha256 : Sha256Digest) : Tx UploadContext := do
  let version ← fetch (fun s => s.db.versions.get? versionId)
    (notFound "DatasetVersion does not exist.")
  let dataset ← fetchDataset version (notFound "Dataset does not exist.")
  let blob ← fetch (fun s => referencedBlob s.db versionId digest)
    (notFound "Blob is not referenced by this DatasetVersion.")
  if blob.state = .available then
    pure (uploadContext version dataset.name blob none)
  else
    let replay ← select fun s => s.db.idempotency.get? (.uploadSessionCreate, idempotencyKey)
    match replay with
    | some replay =>
        require (replay.requestSha256 = requestSha256) (idempotencyConflict
          "Idempotency key was already used for a different upload request.")
        let resourceId ← fetch (fun _ => replay.resourceId)
          (idempotencyConflict "Idempotency record has no upload session.")
        let upload ← fetch (fun s => s.db.sessions.get? resourceId)
          (idempotencyConflict "Idempotency upload session is unavailable.")
        ofExcept (requireSinglePutSession upload)
        pure (uploadContext version dataset.name blob (some upload))
    | none =>
        let active ← select fun s => activeUpload s.db blob.id
        let upload ← uploadToBind versionId blob active
        ofExcept (requireSinglePutSession upload)
        bindUpload idempotencyKey requestSha256 upload.id
        pure (uploadContext version dataset.name blob (some upload))

def getUpload (sessionId : UUID) : Tx UploadContext := do
  let upload ← fetch (fun s => s.db.sessions.get? sessionId)
    (notFound "UploadSession does not exist.")
  ofExcept (requireSinglePutSession upload)
  let blob ← fetch (fun s => s.db.blobs.get? upload.blobId)
    (contentConflict "UploadSession registry context is incomplete.")
  let version ← fetch (fun s => s.db.versions.get? upload.initiatingVersionId)
    (contentConflict "UploadSession registry context is incomplete.")
  let dataset ← fetchDataset version
    (contentConflict "UploadSession Dataset is unavailable.")
  pure (uploadContext version dataset.name blob (some upload))

/-! ## Lifecycle of one attempt -/

def lockUpload (sessionId : UUID) :
    Tx (UploadSessionModel × BlobModel × DatasetVersionModel) := do
  let upload ← fetch (fun s => s.db.sessions.get? sessionId)
    (notFound "UploadSession does not exist.")
  ofExcept (requireSinglePutSession upload)
  let blob ← fetch (fun s => s.db.blobs.get? upload.blobId)
    (contentConflict "UploadSession registry context is incomplete.")
  let version ← fetch (fun s => s.db.versions.get? upload.initiatingVersionId)
    (contentConflict "UploadSession registry context is incomplete.")
  pure (upload, blob, version)

def startedBlob (blob : BlobModel) : BlobModel :=
  if blob.state = .pending then { blob with state := .uploading } else blob

omit [Platform] in
theorem startedBlob_id (blob : BlobModel) : (startedBlob blob).id = blob.id := by
  unfold startedBlob
  split <;> rfl

def startedVersion (version : DatasetVersionModel) : DatasetVersionModel :=
  if version.state = .draft ∨ version.state = .failed then
    { version with state := .uploading, failureCode := none, failureDetail := none }
  else version

omit [Platform] in
theorem startedVersion_id (v : DatasetVersionModel) : (startedVersion v).id = v.id := by
  unfold startedVersion
  split
  · rfl
  · rfl

/-- Atomically start a CREATED single-PUT attempt. -/
def markUploadInProgress (sessionId : UUID) : Tx UploadContext := do
  let (upload, blob, version) ← lockUpload sessionId
  let (upload, blob, version) ←
    if upload.state = .created then do
      let now ← utcNow
      let started := { upload with state := .inProgress, lastActivityAt := now }
      flushBlob (startedBlob blob)
      flushVersion (startedVersion version)
      flushSession started
      pure (started, startedBlob blob, startedVersion version)
    else do
      require (upload.state = .inProgress)
        (illegalTransition "Only a CREATED upload session can be started.")
      pure (upload, blob, version)
  let dataset ← fetchDataset version
    (contentConflict "UploadSession Dataset is unavailable.")
  pure (uploadContext version dataset.name blob (some upload))

/-- Atomically attest one Blob and complete its active attempt. -/
def markUploadVerified (sessionId : UUID) (etag : Option String) : Tx UploadContext := do
  let (upload, blob, version) ← lockUpload sessionId
  if upload.state = .completed then
    let dataset ← fetchDataset version
      (contentConflict "UploadSession Dataset is unavailable.")
    pure (uploadContext version dataset.name blob (some upload))
  else
    require (upload.state = .inProgress)
      (illegalTransition "Only an IN_PROGRESS upload can be verified.")
    require (blob.state = .uploading)
      (illegalTransition "Only an UPLOADING Blob can be verified.")
    let now ← utcNow
    flushBlob { blob with state := .verifying }
    let available := { blob with state := .available, verifiedAt := some now }
    let completed := { upload with
      state := .completed
      etag := etag
      completedAt := some now
      lastActivityAt := now }
    flushBlob available
    flushSession completed
    let dataset ← fetchDataset version
      (contentConflict "UploadSession Dataset is unavailable.")
    pure (uploadContext version dataset.name available (some completed))

def sessionFailureCode : FailureCode → SessionFailureCode
  | .storedObjectMismatch => .storedObjectMismatch

/-- Persist a proven integrity failure without deleting or overwriting its object. -/
def markUploadFailed (sessionId : UUID) (code : FailureCode) (detail : String) :
    Tx UploadContext := do
  let (upload, blob, version) ← lockUpload sessionId
  if upload.state = .failed then
    let dataset ← fetchDataset version
      (contentConflict "UploadSession Dataset is unavailable.")
    pure (uploadContext version dataset.name blob (some upload))
  else
    require (upload.state = .inProgress ∧ blob.state = .uploading ∧ version.state = .uploading)
      (illegalTransition "Only an active publication can record failure.")
    let now ← utcNow
    flushBlob { blob with state := .verifying }
    flushVersion { version with state := .verifying, verifyingAt := some now }
    let failedBlob := { blob with
      state := .failed
      failureCode := some code
      failureDetail := some detail }
    let failedVersion := { version with
      state := .failed
      verifyingAt := some now
      failureCode := some code
      failureDetail := some detail }
    let failedUpload := { upload with
      state := .failed
      failureCode := some (sessionFailureCode code)
      failureDetail := some detail
      completedAt := some now
      lastActivityAt := now }
    flushBlob failedBlob
    flushVersion failedVersion
    flushSession failedUpload
    let dataset ← fetchDataset version
      (contentConflict "UploadSession Dataset is unavailable.")
    pure (uploadContext failedVersion dataset.name failedBlob (some failedUpload))

/-- Restart the same failed identity after external cleanup was explicitly proven. -/
def restartFailedUpload (versionId blobId : UUID) (idempotencyKey : String)
    (requestSha256 : Sha256Digest) : Tx UploadContext := do
  let version ← fetch (fun s => s.db.versions.get? versionId)
    (notFound "Failed upload context does not exist.")
  let blob ← fetch (fun s => s.db.blobs.get? blobId)
    (notFound "Failed upload context does not exist.")
  let dataset ← fetchDataset version
    (contentConflict "DatasetVersion Dataset is unavailable.")
  let referenced ← select fun s => decide (s.db.References versionId blobId)
  require (referenced = true) (notFound "Blob is not referenced by this DatasetVersion.")
  let replay ← select fun s => s.db.idempotency.get? (.uploadSessionCreate, idempotencyKey)
  match replay with
  | some replay =>
      require (replay.requestSha256 = requestSha256) (idempotencyConflict
        "Idempotency key was already used for a different upload request.")
      let resourceId ← fetch (fun _ => replay.resourceId) (idempotencyConflict
        "Idempotency key was already used for a different upload request.")
      let prior ← fetch (fun s => s.db.sessions.get? resourceId)
        (idempotencyConflict "Idempotency upload session is unavailable.")
      ofExcept (requireSinglePutSession prior)
      pure (uploadContext version dataset.name blob (some prior))
  | none =>
      let prior ← select fun s => latestUpload s blobId
      ofExcept (requireSinglePutPrior prior)
      require (version.state = .failed ∧ blob.state = .failed)
        (illegalTransition "Only a failed Blob and Version can be restarted.")
      let restartedVersion := { version with
        state := .uploading
        failureCode := none
        failureDetail := none }
      let restartedBlob := { blob with
        state := .uploading
        failureCode := none
        failureDetail := none }
      flushBlob restartedBlob
      flushVersion restartedVersion
      let upload ← createSinglePut versionId blobId
      bindUpload idempotencyKey requestSha256 upload.id
      pure (uploadContext restartedVersion dataset.name restartedBlob (some upload))

/-! ## Publication -/

def HasUnavailableBlob (db : Database) (versionId : UUID) : Prop :=
  ∃ b ∈ Migrations.entryBlobs db versionId, b.state ≠ .available

instance (db : Database) (versionId : UUID) : Decidable (HasUnavailableBlob db versionId) :=
  inferInstanceAs (Decidable (∃ b ∈ Migrations.entryBlobs db versionId, _))

def SummariesMatch (version : DatasetVersionModel) (canonical : Manifest) : Prop :=
  canonical.sha256 = version.manifestSha256 ∧ canonical.fileCount = version.fileCount ∧
    canonical.logicalBytes = version.logicalBytes ∧
    canonical.uniqueBlobCount = version.uniqueBlobCount ∧
    canonical.uniqueBlobBytes = version.uniqueBlobBytes

instance (version : DatasetVersionModel) (canonical : Manifest) :
    Decidable (SummariesMatch version canonical) :=
  inferInstanceAs (Decidable (_ ∧ _))

/-- Publish a sealed Version after recounting every invariant and Blob attestation. -/
def finalizeVersion (versionId : UUID) : Tx VersionRecord := do
  let version ← fetch (fun s => s.db.versions.get? versionId)
    (notFound "DatasetVersion does not exist.")
  let dataset ← fetchDataset version
    (contentConflict "DatasetVersion Dataset is unavailable.")
  if version.state = .ready then
    pure (versionRecord version dataset.name)
  else
    require (version.state = .draft ∨ version.state = .uploading)
      (illegalTransition "DatasetVersion cannot be finalized from its state.")
    let canonical ← ofExcept (Manifest.fromCanonicalBytes version.manifestBytes)
    require (SummariesMatch version canonical) (.domain (.manifestMismatch
      "Stored manifest summaries are inconsistent."))
    let unavailable ← select fun s => decide (HasUnavailableBlob s.db versionId)
    require (unavailable = false)
      (illegalTransition "Every referenced Blob must be AVAILABLE before READY.")
    let now ← utcNow
    flushVersion { version with state := .verifying, verifyingAt := some now }
    let ready := { version with
      state := .ready
      verifyingAt := some now
      readyAt := some now }
    flushVersion ready
    pure (versionRecord ready dataset.name)

end Store

end RoboLake
