import RoboLake.Domain.Payloads
import RoboLake.Foundation.Calendar
import RoboLake.Infrastructure.Store.SinglePut

/-! # Multipart upload operations of the store

Session creation, upload admission, initiation, part receipts and listings. The
advisory locks of the source only serialize transactions, which are atomic here.
-/

namespace RoboLake

open Foundation Work

variable [Platform]

/-! ## Part records and contexts -/

/-- `_multipart_request_sha256`: the digest of the sorted compact JSON of a request. -/
def multipartRequestSha256 (scope : String) (values : List (List Char)) : Sha256Digest :=
  sha256 (ascii "\x7b\"scope\":\"" ++ ascii scope ++ ascii "\",\"values\":[" ++
    (List.intersperse (ascii ",") (values.map fun v =>
      ascii "\"" ++ asciiChars v ++ ascii "\"")).flatten ++
    ascii "]\x7d")

/-- The stored response receipt, validated again against the planned digest. -/
def responseReceipt (model : UploadPartModel) : Except Failure (Option CompletedPartReceipt) :=
  match model.uploadResponseEtag, model.uploadResponseChecksumSha256Base64 with
  | some etag, some checksum => do
      let receipt ← CompletedPartReceipt.make model.partNumber etag checksum
      let receipt ← receipt.validateFor model.sha256
      pure (some receipt)
  | _, _ => pure none

def partDefinition (model : UploadPartModel) : Except Failure PartDefinition :=
  PartDefinition.make model.partNumber model.offsetBytes model.sizeBytes model.sha256

def uploadPartRecord (model : UploadPartModel) : Except Failure UploadPartRecord := do
  let receipt ← responseReceipt model
  let definition ← partDefinition model
  pure ⟨model.uploadSessionId, definition, model.state, receipt⟩

def multipartContext (upload : UploadSessionModel) (blob : BlobModel)
    (partModels : List UploadPartModel) : Except Failure MultipartUploadContext := do
  match upload.sessionGeneration with
  | none => .error (contentConflict "Multipart registry context is incomplete.")
  | some generation =>
      let definitions ← partModels.mapM partDefinition
      match upload.partPlanSchemaVersion, upload.partSizeBytes, upload.partPlanSha256 with
      | some schemaVersion, some partSizeBytes, some _ =>
          let plan ← PartPlan.build schemaVersion blob.sizeBytes partSizeBytes definitions
          let parts ← partModels.mapM uploadPartRecord
          pure {
            session := {
              id := upload.id
              blobId := upload.blobId
              initiatingVersionId := upload.initiatingVersionId
              generation := generation
              state := upload.state
              partPlan := plan
              providerUploadId := upload.providerUploadId
              completionPhase := upload.completionPhase
              failureCode := upload.failureCode }
            blob := blobRecord blob
            parts := parts }
      | _, _, _ => .error (contentConflict "Multipart session has no frozen PartPlan.")

namespace Store

def loadMultipartContext (upload : UploadSessionModel) : Tx MultipartUploadContext := do
  let blob ← fetch (fun s => s.db.blobs.get? upload.blobId)
    (contentConflict "Multipart registry context is incomplete.")
  let partModels ← select fun s => s.db.partsOf upload.id
  ofExcept (multipartContext upload blob partModels)

/-! ## Sessions -/

def replayMultipartContext (replay : IdempotencyRecordModel) (requestSha256 : Sha256Digest) :
    Tx MultipartUploadContext := do
  require (replay.requestSha256 = requestSha256) (idempotencyConflict
    "Multipart request ID was already used for a different request.")
  let resourceId ← fetch (fun _ => replay.resourceId) (idempotencyConflict
    "Multipart request ID was already used for a different request.")
  let upload ← fetch
    (fun s => (s.db.sessions.get? resourceId).filter fun u => u.strategy = .multipart)
    (idempotencyConflict "Multipart idempotency resource is unavailable.")
  loadMultipartContext upload

def activeSession (db : Database) (blobId : UUID) : Option UploadSessionModel :=
  (db.sessionsOf blobId).find? fun u => u.state.isActive

/-- One past the Blob's greatest generation. -/
def nextGeneration (db : Database) (blobId : UUID) : Nat :=
  ((db.sessionsOf blobId).filterMap UploadSessionModel.sessionGeneration).foldr max 0 + 1

def pendingPart (sessionId : UUID) (part : PartDefinition) : UploadPartModel where
  uploadSessionId := sessionId
  partNumber := part.partNumber
  offsetBytes := part.offsetBytes
  sizeBytes := part.sizeBytes
  sha256 := part.expectedSha256
  state := .pending

def plannedSession (id blobId versionId : UUID) (generation : Nat) (plan : HashedMultipartPlan)
    (now : Timestamp) : UploadSessionModel where
  id := id
  blobId := blobId
  initiatingVersionId := versionId
  strategy := .multipart
  state := .created
  sessionGeneration := some generation
  partSizeBytes := some plan.plan.partSizeBytes
  plannedPartCount := some plan.plan.partCount
  partPlanSchemaVersion := some plan.plan.schemaVersion
  partPlanSha256 := some plan.sha256
  createdAt := now
  lastActivityAt := now

def createMultipart (versionId blobId : UUID) (plan : HashedMultipartPlan) :
    Tx UploadSessionModel := do
  let generation ← select fun s => nextGeneration s.db blobId
  let now ← utcNow
  let id ← uuid4
  let upload := plannedSession id blobId versionId generation plan now
  perform (.insertSession upload)
  forEach plan.plan.parts fun part => perform (.insertPart (pendingPart id part))
  pure upload

/-- The session a resolve request binds: the matching active one, or a new generation. -/
def sessionToResolve (versionId blobId : UUID) (plan : HashedMultipartPlan) :
    Option UploadSessionModel → Tx UploadSessionModel
  | some upload => do
      require (upload.strategy = .multipart ∧ upload.partPlanSha256 = some plan.sha256)
        (contentConflict "Active upload does not match the deterministic plan.")
      pure upload
  | none => createMultipart versionId blobId plan

def sessionBinding (requestId : UUID) (requestSha256 : Sha256Digest) (sessionId : UUID) :
    IdempotencyRecordModel where
  scope := .multipartSessionResolve
  key := String.ofList requestId.str
  requestSha256 := requestSha256
  resourceType := some "upload-session"
  resourceId := some sessionId
  httpStatus := some 200
  responseJson := some (.session sessionId)

/-- Create one generation-numbered plan or replay its immutable binding. -/
def createOrResolveMultipart (requestId versionId blobId : UUID) (plan : HashedMultipartPlan) :
    Tx MultipartUploadContext := do
  let requestSha256 := multipartRequestSha256 "multipart-session-resolve"
    [versionId.str, blobId.str, plan.sha256.value]
  let replay ← select fun s =>
    s.db.idempotency.get? (.multipartSessionResolve, String.ofList requestId.str)
  match replay with
  | some replay => replayMultipartContext replay requestSha256
  | none =>
      let blob ← fetch (fun s => s.db.blobs.get? blobId)
        (notFound "Multipart Blob or initiating DatasetVersion does not exist.")
      let _ ← fetch (fun s => s.db.versions.get? versionId)
        (notFound "Multipart Blob or initiating DatasetVersion does not exist.")
      let referenced ← select fun s => decide (s.db.References versionId blobId)
      require (referenced = true)
        (notFound "Blob is not referenced by the initiating DatasetVersion.")
      require (blob.sizeBytes = plan.plan.blobSizeBytes)
        (contentConflict "PartPlan size differs from immutable Blob size.")
      let active ← select fun s => activeSession s.db blobId
      let upload ← sessionToResolve versionId blobId plan active
      perform (.insertIdempotency (sessionBinding requestId requestSha256 upload.id))
      loadMultipartContext upload

def getMultipart (sessionId : UUID) : Tx MultipartUploadContext := do
  let upload ← fetch
    (fun s => (s.db.sessions.get? sessionId).filter fun u => u.strategy = .multipart)
    (notFound "Multipart session does not exist.")
  loadMultipartContext upload

/-! ## Upload admission -/

def admissionLeaseRecord (model : MultipartAdmissionLeaseModel) : AdmissionLeaseRecord where
  sessionId := model.uploadSessionId
  invocationId := model.invocationId
  leaseOwnerId := model.ownerId
  leaseEpoch := model.epoch
  expiresAt := model.expiresAt
  lastRenewedAt := model.renewedAt

/-- The record of an admission document; it has none where a field does not read as it should. -/
def ResponseJson.admissionLease : ResponseJson → Option AdmissionLeaseRecord
  | .admission sessionId invocationId ownerId epoch expiresAt renewedAt => do
      let sessionId ← UUID.parse sessionId
      let invocationId ← UUID.parse invocationId
      let ownerId ← UUID.parse ownerId
      let expiresAt ← fromisoformat expiresAt
      let renewedAt ← fromisoformat renewedAt
      pure ⟨sessionId, invocationId, ownerId, epoch, expiresAt, renewedAt⟩
  | _ => none

def replayAdmissionLease (replay : IdempotencyRecordModel) (requestSha256 : Sha256Digest) :
    Except Failure AdmissionLeaseRecord :=
  if replay.requestSha256 ≠ requestSha256 ∨ replay.responseJson = none then
    .error (idempotencyConflict
      "Admission request ID was already used for a different request.")
  else
    match replay.responseJson.bind ResponseJson.admissionLease with
    | some lease => .ok lease
    | none => .error (idempotencyConflict "Admission replay response is invalid.")

def isUploadOwned (state : SessionState) : Bool :=
  state == .created || state == .initiating || state == .inProgress

def activeAdmissions (db : Database) (now : Timestamp) : Nat :=
  db.admissionLeases.rows.countP fun l => l.expiresAt > now

/-- Grant a fresh owner: the first epoch of a session, or the next one of an expired lease. -/
def grantAdmission (invocationId sessionId : UUID) (ttlSeconds : Int) (now : Timestamp) :
    Option MultipartAdmissionLeaseModel → Tx MultipartAdmissionLeaseModel
  | none => do
      let ownerId ← uuid4
      let expiresAt ← ofExcept (addSeconds now ttlSeconds)
      let lease : MultipartAdmissionLeaseModel :=
        ⟨sessionId, invocationId, ownerId, 1, now, now, expiresAt⟩
      perform (.insertAdmissionLease lease)
      pure lease
  | some lease => do
      let ownerId ← uuid4
      let expiresAt ← ofExcept (addSeconds now ttlSeconds)
      let lease := { lease with
        invocationId := invocationId
        ownerId := ownerId
        epoch := lease.epoch + 1
        acquiredAt := now
        renewedAt := now
        expiresAt := expiresAt }
      flushAdmissionLease lease
      pure lease

/-- Renew an unexpired lease of the same invocation, or grant a free slot. -/
def admitInvocation (invocationId sessionId : UUID) (ttlSeconds capacity : Int) (now : Timestamp)
    (lease : Option MultipartAdmissionLeaseModel) : Tx MultipartAdmissionLeaseModel :=
  match lease.filter fun l => l.expiresAt > now with
  | some lease => do
      require (lease.invocationId = invocationId)
        (.domain (.admissionLeaseHeld "Another invocation owns multipart admission."))
      let expiresAt ← ofExcept (addSeconds now ttlSeconds)
      let lease := { lease with renewedAt := now, expiresAt := expiresAt }
      flushAdmissionLease lease
      pure lease
  | none => do
      let activeCount ← select fun s => activeAdmissions s.db now
      require ((activeCount : Int) < capacity)
        (.domain (.admissionCapacityExhausted "Multipart admission capacity is exhausted."))
      grantAdmission invocationId sessionId ttlSeconds now lease

def admissionBinding (requestId invocationId : UUID) (requestSha256 : Sha256Digest)
    (lease : MultipartAdmissionLeaseModel) : IdempotencyRecordModel where
  scope := .multipartAdmissionAcquire
  key := String.ofList requestId.str
  requestSha256 := requestSha256
  resourceType := some "upload-session"
  resourceId := some lease.uploadSessionId
  httpStatus := some 200
  responseJson := some (.admission lease.uploadSessionId.str invocationId.str lease.ownerId.str
    lease.epoch (isoformat lease.expiresAt) (isoformat lease.renewedAt))

/-- An admission reads back from the document that binds its request. -/
theorem admissionLease_admissionBinding {requestId : UUID} {requestSha256 : Sha256Digest}
    {lease : MultipartAdmissionLeaseModel} (hexpires : lease.expiresAt ≤ maxTimestamp)
    (hrenewed : lease.renewedAt ≤ maxTimestamp) :
    (admissionBinding requestId lease.invocationId requestSha256 lease).responseJson.bind
      ResponseJson.admissionLease = some (admissionLeaseRecord lease) := by
  have hreads : ∀ t ≤ maxTimestamp, fromisoformat (isoformat t) = some t :=
    fun t ht => fromisoformat_isoformat (lt_of_le_of_lt ht (by decide))
  simp only [admissionBinding, Option.bind_some, ResponseJson.admissionLease, UUID.parse_str,
    hreads _ hexpires, hreads _ hrenewed, Option.bind_eq_bind]
  rfl

/-- Acquire, renew, or take over upload admission under one global DB fence. -/
def acquireMultipartLease (requestId invocationId sessionId : UUID) (ttlSeconds capacity : Int) :
    Tx AdmissionLeaseRecord := do
  require (0 < ttlSeconds ∧ 0 < capacity)
    (contentConflict "Lease TTL and admission capacity must be positive.")
  let requestSha256 := multipartRequestSha256 "multipart-admission-acquire"
    [sessionId.str, invocationId.str]
  let replay ← select fun s =>
    s.db.idempotency.get? (.multipartAdmissionAcquire, String.ofList requestId.str)
  match replay with
  | some replay => ofExcept (replayAdmissionLease replay requestSha256)
  | none =>
      let upload ← fetch
        (fun s => (s.db.sessions.get? sessionId).filter fun u => u.strategy = .multipart)
        (notFound "Multipart session does not exist.")
      require (isUploadOwned upload.state = true)
        (illegalTransition "Multipart admission is limited to upload-owned session states.")
      let now ← clockTimestamp
      let lease ← select fun s => s.db.admissionLeases.get? sessionId
      let lease ← admitInvocation invocationId sessionId ttlSeconds capacity now lease
      perform (.insertIdempotency (admissionBinding requestId invocationId requestSha256 lease))
      pure (admissionLeaseRecord lease)

def HoldsAdmission (db : Database) (sessionId ownerId : UUID) (epoch : Nat) (now : Timestamp) :
    Prop :=
  ∃ lease, db.admissionLeases.get? sessionId = some lease ∧ lease.ownerId = ownerId ∧
    lease.epoch = epoch ∧ now < lease.expiresAt

instance (db : Database) (sessionId ownerId : UUID) (epoch : Nat) (now : Timestamp) :
    Decidable (HoldsAdmission db sessionId ownerId epoch now) :=
  decidable_of_iff (((db.admissionLeases.get? sessionId).any fun lease =>
      lease.ownerId = ownerId ∧ lease.epoch = epoch ∧ now < lease.expiresAt) = true) (by
    simp [HoldsAdmission, Option.any_eq_true])

def endAdmission (lease : MultipartAdmissionLeaseModel) : Tx Unit := do
  let renewedAt ← clockTimestamp
  let expiresAt ← clockTimestamp
  perform (.updateAdmissionLease { lease with renewedAt := renewedAt, expiresAt := expiresAt })

/-- End current upload admission without deleting its fencing history. -/
def releaseMultipartLease (sessionId ownerId : UUID) (epoch : Nat) : Tx Unit := do
  let now ← clockTimestamp
  let lease ← fetch (fun s => (s.db.admissionLeases.get? sessionId).filter fun l =>
      l.ownerId = ownerId ∧ l.epoch = epoch ∧ now < l.expiresAt)
    (leaseLost "Multipart admission lease is no longer current.")
  endAdmission lease

/-- The session in a state whose admission lease the caller holds at the database clock. -/
def fetchAdmitted (sessionId ownerId : UUID) (epoch : Nat) (state : SessionState) (e : Failure) :
    Tx UploadSessionModel := do
  let now ← clockTimestamp
  fetch (fun s => (s.db.sessions.get? sessionId).filter fun u =>
    u.state = state ∧ HoldsAdmission s.db sessionId ownerId epoch now) e

/-! ## Initiation -/

/-- Commit initiation intent under the current upload fence. -/
def beginProviderInitiation (sessionId ownerId : UUID) (epoch : Nat) : Tx Unit := do
  let upload ← fetchAdmitted sessionId ownerId epoch .created
    (leaseLost "Current admission fence could not begin initiation.")
  let startedAt ← clockTimestamp
  let activityAt ← clockTimestamp
  perform (.updateSession { upload with
    state := .initiating
    initiationStartedAt := some startedAt
    lastActivityAt := activityAt })

def recordProviderUpload (sessionId ownerId : UUID) (epoch : Nat) (providerUploadId : String) :
    Tx Unit := do
  require (providerUploadId ≠ "") (contentConflict "Provider upload ID must not be empty.")
  let upload ← fetchAdmitted sessionId ownerId epoch .initiating
    (leaseLost "Current admission fence could not record initiation.")
  let activityAt ← clockTimestamp
  perform (.updateSession { upload with
    state := .inProgress
    providerUploadId := some providerUploadId
    lastActivityAt := activityAt })
  let blob ← fetch (fun s => s.db.blobs.get? upload.blobId)
    (contentConflict "Multipart Blob is unavailable.")
  if blob.state = .pending then
    flushBlob { blob with state := .uploading }
  else
    require (blob.state = .uploading)
      (illegalTransition "Multipart initiation requires a pending Blob.")

/-- Terminalize ambiguous initiation and release capacity atomically. -/
def markMultipartInitiationAmbiguous (sessionId ownerId : UUID) (epoch : Nat) : Tx Unit := do
  let upload ← fetchAdmitted sessionId ownerId epoch .initiating
    (leaseLost "Stale owner cannot terminalize multipart initiation.")
  let ambiguousAt ← clockTimestamp
  let completedAt ← clockTimestamp
  let activityAt ← clockTimestamp
  perform (.updateSession { upload with
    state := .failed
    failureCode := some .initiationAmbiguous
    initiationAmbiguousAt := some ambiguousAt
    completedAt := some completedAt
    lastActivityAt := activityAt })
  let lease ← fetch (fun s => (s.db.admissionLeases.get? sessionId).filter fun l =>
      l.ownerId = ownerId ∧ l.epoch = epoch)
    (leaseLost "Admission release lost its current fence.")
  endAdmission lease

/-! ## Parts -/

def hasAnyReceiptField (part : UploadPartModel) : Bool :=
  part.uploadResponseEtag.isSome || part.uploadResponseChecksumSha256Base64.isSome ||
    part.uploadResponseReceivedAt.isSome || part.uploadedAt.isSome

def withReceipt (part : UploadPartModel) (receipt : CompletedPartReceipt) (now : Timestamp) :
    UploadPartModel :=
  { part with
    state := .uploaded
    uploadResponseEtag := some receipt.responseEtag
    uploadResponseChecksumSha256Base64 := some receipt.responseChecksumSha256Base64
    uploadResponseReceivedAt := some now
    uploadedAt := some now }

/-- Persist one successful UploadPart response under the current upload fence. -/
def recordUploadedPart (sessionId ownerId : UUID) (epoch : Nat) (receipt : CompletedPartReceipt) :
    Tx UploadPartRecord := do
  let upload ← fetchAdmitted sessionId ownerId epoch .inProgress
    (leaseLost "Stale owner cannot confirm an uploaded Part.")
  let activityAt ← clockTimestamp
  perform (.updateSession { upload with lastActivityAt := activityAt })
  let part ← fetch (fun s => s.db.parts.get? (sessionId, receipt.partNumber))
    (.domain (.invalidPartNumber "Part is not present in the frozen PartPlan."))
  let _ ← ofExcept (receipt.validateFor part.sha256)
  let record ← ofExcept (uploadPartRecord part)
  if hasAnyReceiptField part = true then
    let existing ← fetch (fun _ => record.responseReceipt)
      (contentConflict "Stored UploadPart receipt is structurally incomplete.")
    require (existing = receipt)
      (contentConflict "UploadPart response receipt is immutable.")
    pure record
  else
    let now ← clockTimestamp
    flushPart (withReceipt part receipt now)
    ofExcept (uploadPartRecord (withReceipt part receipt now))

/-- `_apply_provider_part_observation`: persist only structurally safe provider evidence and
diagnose mismatches; the flag says whether the observation confirms the stored receipt. -/
def applyProviderPartObservation (part : UploadPartModel)
    (observation : Option ProviderPartObservation) (observedAt : Timestamp) :
    UploadPartModel × Bool :=
  match observation with
  | none =>
      ({ part with
        listedEtag := none
        listedChecksumSha256Base64 := none
        listedSizeBytes := none
        providerListedAt := none
        verifiedAt := none
        lastErrorCode := some "PART_NOT_PRESENT" }, false)
  | some observation =>
      let expectedChecksum := part.sha256.checksumBase64
      let checksumMatches := observation.checksumSha256Base64 = expectedChecksum
      let part := { part with
        listedEtag := some observation.etag
        listedChecksumSha256Base64 :=
          if checksumMatches then some observation.checksumSha256Base64 else none
        listedSizeBytes := some observation.sizeBytes
        providerListedAt := some observedAt }
      if observation.sizeBytes ≠ part.sizeBytes then
        ({ part with verifiedAt := none, lastErrorCode := some "PART_SIZE_MISMATCH" }, false)
      else if ¬checksumMatches then
        ({ part with verifiedAt := none, lastErrorCode := some "PART_CHECKSUM_REJECTED" }, false)
      else if part.uploadResponseEtag = none ∨
          part.uploadResponseChecksumSha256Base64 = none then
        ({ part with verifiedAt := none, lastErrorCode := some "PART_RECEIPT_MISSING" }, false)
      else if part.uploadResponseEtag ≠ some observation.etag ∨
          part.uploadResponseChecksumSha256Base64 ≠ some observation.checksumSha256Base64 then
        ({ part with verifiedAt := none, lastErrorCode := some "PART_RECEIPT_MISMATCH" }, false)
      else ({ part with lastErrorCode := none }, true)

/-- The part row of the first flush of a reconciliation: reset, or at least UPLOADED. -/
def observedPart (part : UploadPartModel) (observation : Option ProviderPartObservation)
    (observedAt : Timestamp) : UploadPartModel :=
  let (row, confirmed) := applyProviderPartObservation part observation observedAt
  if confirmed then
    if row.state = .pending then { row with state := .uploaded } else row
  else { row with state := .pending }

def isConfirmed (part : UploadPartModel) (observation : Option ProviderPartObservation)
    (observedAt : Timestamp) : Bool :=
  (applyProviderPartObservation part observation observedAt).2

def observationOf (observations : List ProviderPartObservation) (partNumber : Nat) :
    Option ProviderPartObservation :=
  observations.find? fun o => o.partNumber = partNumber

def distinctParts (observations : List ProviderPartObservation) : Prop :=
  (observations.map ProviderPartObservation.partNumber).Nodup

instance (observations : List ProviderPartObservation) : Decidable (distinctParts observations) :=
  inferInstanceAs (Decidable (List.Nodup _))

def allPlanned (observations : List ProviderPartObservation) (parts : List UploadPartModel) :
    Prop :=
  ∀ o ∈ observations, ∃ p ∈ parts, p.partNumber = o.partNumber

instance (observations : List ProviderPartObservation) (parts : List UploadPartModel) :
    Decidable (allPlanned observations parts) :=
  inferInstanceAs (Decidable (∀ o ∈ observations, _))

def isNewlyResolved (observations : List ProviderPartObservation) (observedAt : Timestamp)
    (part : UploadPartModel) : Bool :=
  isConfirmed part (observationOf observations part.partNumber) observedAt &&
    part.state != .verified

def resolvedPart (observations : List ProviderPartObservation) (observedAt : Timestamp)
    (part : UploadPartModel) : UploadPartModel :=
  let row := observedPart part (observationOf observations part.partNumber) observedAt
  { row with state := .verified, verifiedAt := row.providerListedAt }

/-- Reconcile one complete ListParts observation without manufacturing receipts. -/
def reconcileParts (sessionId ownerId : UUID) (epoch : Nat)
    (providerParts : List ProviderPartObservation) (attribution : PartAttribution) :
    Tx PartReconciliationResult := do
  require (distinctParts providerParts)
    (contentConflict "Provider Part observations contain duplicate numbers.")
  let upload ← fetchAdmitted sessionId ownerId epoch .inProgress
    (leaseLost "Stale owner cannot reconcile multipart Parts.")
  let reconciledAt ← clockTimestamp
  let activityAt ← clockTimestamp
  perform (.updateSession { upload with
    lastProviderReconciledAt := some reconciledAt
    lastActivityAt := activityAt })
  let models ← select fun s => s.db.partsOf sessionId
  require (allPlanned providerParts models)
    (.domain (.invalidPartNumber "Provider returned a Part outside the frozen PartPlan."))
  let observedAt ← clockTimestamp
  forEach models fun part =>
    flushPart (observedPart part (observationOf providerParts part.partNumber) observedAt)
  let newlyResolved := models.filter (isNewlyResolved providerParts observedAt)
  forEach newlyResolved fun part => flushPart (resolvedPart providerParts observedAt part)
  pure ⟨attribution, newlyResolved.length, (newlyResolved.map UploadPartModel.sizeBytes).sum⟩

end Store

end RoboLake
