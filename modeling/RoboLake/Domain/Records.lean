import RoboLake.Domain.Manifest
import RoboLake.Domain.Multipart

/-! # Records

What store operations accept and return. Evidence values carry the checks of
their constructors.
-/

namespace RoboLake

open Foundation

/-- Microseconds since the least representable time. -/
abbrev Timestamp := Nat

def maxTimestamp : Timestamp := 315537897599999999

/-- `now + timedelta(seconds=ttl)`. -/
def addSeconds (t : Timestamp) (ttlSeconds : Int) : Except Failure Timestamp :=
  let later := t + ttlSeconds.toNat * 1000000
  if later > maxTimestamp then .error .overflowError else .ok later

theorem addSeconds_ok {t later : Timestamp} {ttl : Int} (h : addSeconds t ttl = .ok later) :
    later = t + ttl.toNat * 1000000 := by
  unfold addSeconds at h
  simp only at h
  split at h
  · cases h
  · cases h
    rfl

theorem le_maxTimestamp_of_addSeconds {t later : Timestamp} {ttl : Int}
    (h : addSeconds t ttl = .ok later) : t ≤ maxTimestamp ∧ later ≤ maxTimestamp := by
  unfold addSeconds at h
  simp only at h
  split at h
  · cases h
  · rename_i hfits
    cases h
    exact ⟨(Nat.le_add_right t _).trans (not_lt.mp hfits), not_lt.mp hfits⟩

theorem addSeconds_error {t : Timestamp} {ttl : Int} {e : Failure}
    (h : addSeconds t ttl = .error e) : e = .overflowError := by
  unfold addSeconds at h
  simp only at h
  split at h
  · cases h
    rfl
  · cases h

/-! ## Verification evidence -/

/-- Immutable application-recorded evidence for the short publication gate. -/
structure VerificationEvidence where
  verificationMethod : VerificationMethod
  observedSha256 : Sha256Digest
  observedSizeBytes : Nat
  verificationReadBytes : Nat
  verificationCompletedAt : Timestamp
  verifierVersion : String
  version_ne : verifierVersion ≠ ""
  version_le : verifierVersion.length ≤ 128

/-- Require evidence structure to equal immutable Blob identity. -/
def VerificationEvidence.validateFor (e : VerificationEvidence) (digest : Sha256Digest)
    (sizeBytes : Nat) : Except Failure Unit :=
  if e.verificationMethod ≠ .fullStreamSha256 then
    .error (.domain (.contentConflict "Unsupported verification evidence method."))
  else if e.observedSha256 ≠ digest ∨ e.observedSizeBytes ≠ sizeBytes ∨
      e.verificationReadBytes ≠ sizeBytes then
    .error (.domain (.contentConflict "Verification evidence differs from Blob identity."))
  else .ok ()

/-! ## Registry resources -/

variable [Platform]

structure DatasetRecord where
  id : UUID
  name : DatasetName
  deriving DecidableEq

structure BlobRecord where
  id : UUID
  sha256 : Sha256Digest
  sizeBytes : Nat
  objectKey : List Char
  state : BlobState
  failureCode : Option FailureCode
  deriving DecidableEq

/-- One persisted M1 single-PUT attempt. -/
structure UploadSessionRecord where
  id : UUID
  blobId : UUID
  initiatingVersionId : UUID
  state : SessionState
  etag : Option String
  deriving DecidableEq

structure VersionRecord where
  id : UUID
  datasetId : UUID
  datasetName : DatasetName
  versionNumber : Nat
  manifestSha256 : Sha256Digest
  state : VersionState
  fileCount : Nat
  logicalBytes : Nat
  uniqueBlobCount : Nat
  uniqueBlobBytes : Nat
  failureCode : Option FailureCode
  failureDetail : Option String
  deriving DecidableEq

structure SnapshotStatus where
  fileCount : Nat
  logicalBytes : Nat
  readyFileCount : Nat
  readyLogicalBytes : Nat
  count_le : readyFileCount ≤ fileCount
  bytes_le : readyLogicalBytes ≤ logicalBytes
  deriving DecidableEq

def SnapshotStatus.make (fileCount logicalBytes readyFileCount readyLogicalBytes : Nat) :
    Except Failure SnapshotStatus :=
  if h : readyFileCount ≤ fileCount ∧ readyLogicalBytes ≤ logicalBytes then
    .ok ⟨fileCount, logicalBytes, readyFileCount, readyLogicalBytes, h.1, h.2⟩
  else .error (.domain
    (.contentConflict "Ready logical progress exceeds the Version total."))

omit [Platform] in
theorem SnapshotStatus.make_of_le {fileCount logicalBytes readyFileCount readyLogicalBytes : Nat}
    (hcount : readyFileCount ≤ fileCount) (hbytes : readyLogicalBytes ≤ logicalBytes) :
    SnapshotStatus.make fileCount logicalBytes readyFileCount readyLogicalBytes =
      .ok ⟨fileCount, logicalBytes, readyFileCount, readyLogicalBytes, hcount, hbytes⟩ :=
  dif_pos ⟨hcount, hbytes⟩

structure ContentStatus where
  uniqueBlobCount : Nat
  uniqueBlobBytes : Nat
  availableBlobCount : Nat
  availableBlobBytes : Nat
  count_le : availableBlobCount ≤ uniqueBlobCount
  bytes_le : availableBlobBytes ≤ uniqueBlobBytes
  deriving DecidableEq

def ContentStatus.make
    (uniqueBlobCount uniqueBlobBytes availableBlobCount availableBlobBytes : Nat) :
    Except Failure ContentStatus :=
  if h : availableBlobCount ≤ uniqueBlobCount ∧ availableBlobBytes ≤ uniqueBlobBytes then
    .ok ⟨uniqueBlobCount, uniqueBlobBytes, availableBlobCount, availableBlobBytes, h.1, h.2⟩
  else .error (.domain
    (.contentConflict "Available Blob progress exceeds the Version total."))

omit [Platform] in
theorem ContentStatus.make_of_le
    {uniqueBlobCount uniqueBlobBytes availableBlobCount availableBlobBytes : Nat}
    (hcount : availableBlobCount ≤ uniqueBlobCount)
    (hbytes : availableBlobBytes ≤ uniqueBlobBytes) :
    ContentStatus.make uniqueBlobCount uniqueBlobBytes availableBlobCount availableBlobBytes =
      .ok ⟨uniqueBlobCount, uniqueBlobBytes, availableBlobCount, availableBlobBytes, hcount,
        hbytes⟩ :=
  dif_pos ⟨hcount, hbytes⟩

structure VersionStatus where
  version : VersionRecord
  snapshot : SnapshotStatus
  content : ContentStatus
  blockingFailureCode : Option FailureCode
  deriving DecidableEq

/-- Derive caller guidance from publication state. -/
def VersionStatus.nextAction (status : VersionStatus) : NextAction :=
  if status.blockingFailureCode = some .storedObjectMismatch then .contactOperator
  else if status.version.state = .ready then .none
  else if status.version.state = .verifying then .retryStatus
  else .retryPush

structure UploadContext where
  version : VersionRecord
  blob : BlobRecord
  session : Option UploadSessionRecord
  deriving DecidableEq

/-- One planned multipart range plus mutable provider progress facts. -/
structure UploadPartRecord where
  sessionId : UUID
  definition : PartDefinition
  state : UploadPartState
  responseReceipt : Option CompletedPartReceipt
  deriving DecidableEq

/-- One generation-numbered immutable multipart attempt. -/
structure MultipartUploadSessionRecord where
  id : UUID
  blobId : UUID
  initiatingVersionId : UUID
  generation : Nat
  state : SessionState
  partPlan : PartPlan
  providerUploadId : Option String
  completionPhase : Option CompletionPhase
  failureCode : Option SessionFailureCode

structure MultipartUploadContext where
  session : MultipartUploadSessionRecord
  blob : BlobRecord
  parts : List UploadPartRecord

/-- Invocation attribution derived from one complete provider reconciliation. -/
structure PartReconciliationResult where
  attribution : PartAttribution
  resolvedPartCount : Nat
  resolvedPartBytes : Nat
  deriving DecidableEq

structure HashedMultipartPlan where
  plan : PartPlan
  sha256 : Sha256Digest
  hashed : plan.sha256 = sha256

/-! ## Completion -/

/-- The closed provider result stored with recovery evidence. -/
def CompletionRecoveryReason.defaultResult : CompletionRecoveryReason → CompletionResult
  | .conditional409 => .conflict409
  | .multipartSessionNotFound => .noSuchUpload
  | .partsReady | .partsPartial => .ambiguous

def CompletionRecoveryReason.sameMpu : CompletionRecoveryReason → Bool
  | .partsReady | .partsPartial => true
  | .conditional409 | .multipartSessionNotFound => false

/-- The completion results that do not contradict a recovery reason. -/
def CompletionRecoveryReason.allows (reason : CompletionRecoveryReason) :
    Option CompletionResult → Bool
  | none => true
  | some result =>
      if reason.sameMpu then result == .ambiguous || result == .embeddedError
      else result == reason.defaultResult

/-- Provider observations required by guarded same-MPU recovery. -/
structure PartialCompletionEvidence where
  recoveryReason : CompletionRecoveryReason
  finalAbsenceObservedAt : Timestamp
  providerReconciledAt : Timestamp
  providerParts : List ProviderPartObservation
  completionResult : Option CompletionResult
  result_allowed : recoveryReason.allows completionResult = true
  parts_reusable : recoveryReason.sameMpu = true ∨ providerParts = []

def PartialCompletionEvidence.persistedCompletionResult (e : PartialCompletionEvidence) :
    CompletionResult :=
  e.completionResult.getD e.recoveryReason.defaultResult

/-- Deterministic action and persisted state after completion reconciliation. -/
structure CompletionRecoveryResult where
  action : CompletionRecoveryAction
  context : MultipartUploadContext

/-- Temporary upload admission ownership independent of session lifetime. -/
structure AdmissionLeaseRecord where
  sessionId : UUID
  invocationId : UUID
  leaseOwnerId : UUID
  leaseEpoch : Nat
  expiresAt : Timestamp
  lastRenewedAt : Timestamp
  deriving DecidableEq

/-- Server-side completion ownership independent of upload admission. -/
structure CompletionLeaseRecord where
  sessionId : UUID
  leaseOwnerId : UUID
  leaseEpoch : Nat
  expiresAt : Timestamp
  lastHeartbeatAt : Timestamp
  deriving DecidableEq

/-- Durable idempotent acceptance of asynchronous completion work. -/
structure AcceptedCompletion where
  requestId : UUID
  sessionId : UUID
  httpStatus : Nat := 202
  deriving DecidableEq

/-- Current fenced ownership of one durable completion work item. -/
structure CompletionClaim where
  sessionId : UUID
  lease : CompletionLeaseRecord
  phase : CompletionPhase
  deriving DecidableEq

end RoboLake
