import RoboLake.Domain.Records
import RoboLake.Foundation.Relation

/-! # The registry schema

One structure for each table, with its key. Columns hold validated domain values
where the database constrains their spelling, and `Option` where they are
nullable.
-/

namespace RoboLake

open Foundation

variable [Platform]

structure DatasetModel where
  id : UUID
  name : DatasetName
  deriving DecidableEq

structure DatasetVersionModel where
  id : UUID
  datasetId : UUID
  versionNumber : Nat
  manifestSchemaVersion : Nat
  manifestBytes : Bytes
  manifestSha256 : Sha256Digest
  state : VersionState
  fileCount : Nat
  logicalBytes : Nat
  uniqueBlobCount : Nat
  uniqueBlobBytes : Nat
  failureCode : Option FailureCode := none
  failureDetail : Option String := none
  sealedAt : Option Timestamp := none
  verifyingAt : Option Timestamp := none
  readyAt : Option Timestamp := none
  deriving DecidableEq

structure BlobModel where
  id : UUID
  sha256 : Sha256Digest
  sizeBytes : Nat
  objectKey : List Char
  state : BlobState
  failureCode : Option FailureCode := none
  failureDetail : Option String := none
  verifiedAt : Option Timestamp := none
  deriving DecidableEq

structure DatasetEntryModel where
  datasetVersionId : UUID
  manifestOrdinal : Nat
  relativePath : RelativePath
  blobId : UUID
  deriving DecidableEq

structure UploadSessionModel where
  id : UUID
  blobId : UUID
  initiatingVersionId : UUID
  strategy : UploadStrategy
  state : SessionState
  etag : Option String := none
  sessionGeneration : Option Nat := none
  providerUploadId : Option String := none
  partSizeBytes : Option Nat := none
  plannedPartCount : Option Nat := none
  partPlanSchemaVersion : Option Nat := none
  partPlanSha256 : Option Sha256Digest := none
  initiationStartedAt : Option Timestamp := none
  initiationAmbiguousAt : Option Timestamp := none
  completionRequestedAt : Option Timestamp := none
  completionReason : Option CompletionReason := none
  completionPhase : Option CompletionPhase := none
  completionAttemptedAt : Option Timestamp := none
  lastCompletionResult : Option CompletionResult := none
  lastProviderReconciledAt : Option Timestamp := none
  finalAbsenceObservedAt : Option Timestamp := none
  providerAttemptInvalidatedAt : Option Timestamp := none
  verificationMethod : Option VerificationMethod := none
  observedSha256 : Option Sha256Digest := none
  observedSizeBytes : Option Nat := none
  verificationReadBytes : Option Nat := none
  verificationCompletedAt : Option Timestamp := none
  verifierImplementation : Option String := none
  abortRequestedAt : Option Timestamp := none
  failureCode : Option SessionFailureCode := none
  failureDetail : Option String := none
  createdAt : Timestamp
  lastActivityAt : Timestamp
  completedAt : Option Timestamp := none
  deriving DecidableEq

structure UploadPartModel where
  uploadSessionId : UUID
  partNumber : Nat
  offsetBytes : Nat
  sizeBytes : Nat
  sha256 : Sha256Digest
  state : UploadPartState
  uploadResponseEtag : Option String := none
  uploadResponseChecksumSha256Base64 : Option (List Char) := none
  uploadResponseReceivedAt : Option Timestamp := none
  listedEtag : Option String := none
  listedChecksumSha256Base64 : Option (List Char) := none
  listedSizeBytes : Option Nat := none
  providerListedAt : Option Timestamp := none
  uploadedAt : Option Timestamp := none
  verifiedAt : Option Timestamp := none
  lastErrorCode : Option String := none
  deriving DecidableEq

structure MultipartAdmissionLeaseModel where
  uploadSessionId : UUID
  invocationId : UUID
  ownerId : UUID
  epoch : Nat
  acquiredAt : Timestamp
  renewedAt : Timestamp
  expiresAt : Timestamp
  deriving DecidableEq

structure MultipartCompletionLeaseModel where
  uploadSessionId : UUID
  ownerInstanceId : UUID
  epoch : Nat
  acquiredAt : Timestamp
  renewedAt : Timestamp
  expiresAt : Timestamp
  deriving DecidableEq

inductive IdempotencyScope
  | datasetCreate | versionRegister | uploadSessionCreate
  | multipartSessionResolve | multipartAdmissionAcquire | multipartCompletionAccept
  deriving DecidableEq, Repr

def IdempotencyScope.isM2 : IdempotencyScope → Bool
  | multipartSessionResolve | multipartAdmissionAcquire | multipartCompletionAccept => true
  | datasetCreate | versionRegister | uploadSessionCreate => false

/-- The stored response documents, one shape for each writer. Only an admission is read back, so
its fields are the texts of the document. -/
inductive ResponseJson
  | dataset (id : UUID) (name : DatasetName)
  | version (id datasetId : UUID) (versionNumber : Nat)
  | upload (id : UUID)
  | session (sessionId : UUID)
  | admission (sessionId invocationId ownerId : List Char) (epoch : Nat)
      (expiresAt renewedAt : List Char)
  | accepted (sessionId : UUID)
  deriving DecidableEq

structure IdempotencyRecordModel where
  scope : IdempotencyScope
  key : String
  requestSha256 : Sha256Digest
  resourceType : Option String
  resourceId : Option UUID
  httpStatus : Option Nat
  responseJson : Option ResponseJson
  deriving DecidableEq

instance : Keyed DatasetModel UUID := ⟨DatasetModel.id⟩
instance : Keyed DatasetVersionModel UUID := ⟨DatasetVersionModel.id⟩
instance : Keyed BlobModel UUID := ⟨BlobModel.id⟩
instance : Keyed DatasetEntryModel (UUID × RelativePath) :=
  ⟨fun e => (e.datasetVersionId, e.relativePath)⟩
instance : Keyed UploadSessionModel UUID := ⟨UploadSessionModel.id⟩
instance : Keyed UploadPartModel (UUID × Nat) := ⟨fun p => (p.uploadSessionId, p.partNumber)⟩
instance : Keyed MultipartAdmissionLeaseModel UUID := ⟨MultipartAdmissionLeaseModel.uploadSessionId⟩
instance : Keyed MultipartCompletionLeaseModel UUID :=
  ⟨MultipartCompletionLeaseModel.uploadSessionId⟩
instance : Keyed IdempotencyRecordModel (IdempotencyScope × String) := ⟨fun r => (r.scope, r.key)⟩

@[simp] theorem key_dataset (d : DatasetModel) : key d = d.id := rfl
omit [Platform] in
@[simp] theorem key_version (v : DatasetVersionModel) : key v = v.id := rfl
omit [Platform] in
@[simp] theorem key_blob (b : BlobModel) : key b = b.id := rfl
@[simp] theorem key_entry (e : DatasetEntryModel) :
    key e = (e.datasetVersionId, e.relativePath) := rfl
omit [Platform] in
@[simp] theorem key_session (u : UploadSessionModel) : key u = u.id := rfl
omit [Platform] in
@[simp] theorem key_part (p : UploadPartModel) : key p = (p.uploadSessionId, p.partNumber) := rfl
omit [Platform] in
@[simp] theorem key_admissionLease (l : MultipartAdmissionLeaseModel) :
    key l = l.uploadSessionId := rfl
omit [Platform] in
@[simp] theorem key_completionLease (l : MultipartCompletionLeaseModel) :
    key l = l.uploadSessionId := rfl
@[simp] theorem key_idempotency (r : IdempotencyRecordModel) : key r = (r.scope, r.key) := rfl

structure Database where
  datasets : Relation DatasetModel
  versions : Relation DatasetVersionModel
  blobs : Relation BlobModel
  entries : Relation DatasetEntryModel
  sessions : Relation UploadSessionModel
  parts : Relation UploadPartModel
  admissionLeases : Relation MultipartAdmissionLeaseModel
  completionLeases : Relation MultipartCompletionLeaseModel
  idempotency : Relation IdempotencyRecordModel
  deriving DecidableEq

def Database.empty : Database where
  datasets := Relation.empty
  versions := Relation.empty
  blobs := Relation.empty
  entries := Relation.empty
  sessions := Relation.empty
  parts := Relation.empty
  admissionLeases := Relation.empty
  completionLeases := Relation.empty
  idempotency := Relation.empty

namespace Database

/-! ## Rows that belong together -/

def entriesOf (db : Database) (versionId : UUID) : List DatasetEntryModel :=
  db.entries.rows.filter fun e => e.datasetVersionId = versionId

def References (db : Database) (versionId blobId : UUID) : Prop :=
  ∃ e ∈ db.entries.rows, e.datasetVersionId = versionId ∧ e.blobId = blobId

instance (db : Database) (versionId blobId : UUID) : Decidable (db.References versionId blobId) :=
  inferInstanceAs (Decidable (∃ e ∈ db.entries.rows, _))

def sessionsOf (db : Database) (blobId : UUID) : List UploadSessionModel :=
  db.sessions.rows.filter fun u => u.blobId = blobId

/-- The parts of a session in part order. -/
def partsOf (db : Database) (sessionId : UUID) : List UploadPartModel :=
  (db.parts.rows.filter fun p => p.uploadSessionId = sessionId).insertionSort
    fun a b => a.partNumber ≤ b.partNumber

theorem mem_entriesOf {db : Database} {versionId : UUID} {e : DatasetEntryModel} :
    e ∈ db.entriesOf versionId ↔ e ∈ db.entries.rows ∧ e.datasetVersionId = versionId := by
  simp [entriesOf]

theorem mem_sessionsOf {db : Database} {blobId : UUID} {u : UploadSessionModel} :
    u ∈ db.sessionsOf blobId ↔ u ∈ db.sessions.rows ∧ u.blobId = blobId := by
  simp [sessionsOf]

theorem mem_partsOf {db : Database} {sessionId : UUID} {p : UploadPartModel} :
    p ∈ db.partsOf sessionId ↔ p ∈ db.parts.rows ∧ p.uploadSessionId = sessionId := by
  simp [partsOf]

theorem nodup_partsOf (db : Database) (sessionId : UUID) :
    ((db.partsOf sessionId).map key).Nodup := by
  have hperm := List.perm_insertionSort (fun a b : UploadPartModel => a.partNumber ≤ b.partNumber)
    (db.parts.rows.filter fun p => p.uploadSessionId = sessionId)
  rw [partsOf, (hperm.map key).nodup_iff]
  exact db.parts.keys_nodup.sublist (List.filter_sublist.map key)

end Database

end RoboLake
