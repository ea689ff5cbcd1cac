import RoboLake.Infrastructure.Models
import RoboLake.Foundation.Ternary

/-! # Triggers and constraints

What the migrations make the database refuse. Each trigger function and each
table's constraint list is a list of rules in the order PostgreSQL evaluates
them; a statement is accepted when no rule is violated. A trigger's `IF` fires
only on a condition that holds, a `CHECK` refuses only a condition that is
refuted.
-/

namespace RoboLake

open Foundation

/-! ## Rules -/

/-- One reason to refuse a statement. -/
structure Rule where
  violated : Bool
  error : DatabaseError

namespace Rule

def raiseIf (condition : Ternary) (message : String) : Rule :=
  ⟨decide condition.Holds, .raised message⟩

def check (condition : Ternary) (constraint : String) : Rule :=
  ⟨decide condition.Refuted, .check constraint⟩

def unique (clash : Prop) [Decidable clash] (constraint : String) : Rule :=
  ⟨decide clash, .unique constraint⟩

def foreignKey (found : Bool) (constraint : String) : Rule := ⟨!found, .foreignKey constraint⟩

def range (fits : Prop) [Decidable fits] (column : String) : Rule :=
  ⟨decide ¬fits, .outOfRange column⟩

@[simp] theorem violated_raiseIf {t : Ternary} {m : String} :
    (raiseIf t m).violated = false ↔ ¬t.Holds := by simp [raiseIf]

@[simp] theorem violated_check {t : Ternary} {c : String} :
    (check t c).violated = false ↔ ¬t.Refuted := by simp [check]

@[simp] theorem violated_unique {p : Prop} [Decidable p] {c : String} :
    (unique p c).violated = false ↔ ¬p := by simp [unique]

@[simp] theorem violated_foreignKey {b : Bool} {c : String} :
    (foreignKey b c).violated = false ↔ b = true := by simp [foreignKey]

@[simp] theorem violated_range {p : Prop} [Decidable p] {c : String} :
    (range p c).violated = false ↔ p := by simp [range]

end Rule

def enforce : List Rule → Except Failure Unit
  | [] => .ok ()
  | r :: rules => if r.violated then .error (.database r.error) else enforce rules

theorem enforce_ok {rules : List Rule} {u : Unit} :
    enforce rules = .ok u ↔ ∀ r ∈ rules, r.violated = false := by
  induction rules with
  | nil => simp [enforce]
  | cons r rules ih =>
      simp only [enforce, List.forall_mem_cons]
      cases hr : r.violated with
      | true => simp
      | false => simpa using ih

def bigint : Nat := 2 ^ 63
def integer : Nat := 2 ^ 31

variable [Platform]

namespace Migrations

/-! ## Datasets -/

def datasetRules (db : Database) (new : DatasetModel) : List Rule :=
  [.unique ((db.datasets.get? new.id).isSome = true) "datasets_pkey",
   .unique (∃ d ∈ db.datasets.rows, d.id ≠ new.id ∧ d.name = new.name) "datasets_name_key"]

/-! ## Versions -/

def versionEdges : List (VersionState × VersionState) :=
  [(.draft, .uploading), (.draft, .verifying), (.uploading, .verifying), (.verifying, .ready),
   (.verifying, .failed), (.failed, .uploading)]

/-- The Blobs of a Version's entries, one for each entry. -/
def entryBlobs (db : Database) (versionId : UUID) : List BlobModel :=
  (db.entriesOf versionId).filterMap fun e => db.blobs.get? e.blobId

/-- The sealing checks: entries, ordinals and totals recounted. -/
def sealRules (db : Database) (new : DatasetVersionModel) : List Rule :=
  let entries := db.entriesOf new.id
  let ordinals := entries.map DatasetEntryModel.manifestOrdinal
  let uniqueBlobs := ((entryBlobs db new.id).map fun b => (b.id, b.sizeBytes)).dedup
  [.raiseIf (.of (entries.length ≠ new.fileCount ∨
      (entries ≠ [] ∧ (ordinals.min? ≠ some 0 ∨ ordinals.max? ≠ some (entries.length - 1)))))
      "dataset version entries and ordinals do not match manifest totals",
   .raiseIf (.of (((entryBlobs db new.id).map BlobModel.sizeBytes).sum ≠ new.logicalBytes ∨
      uniqueBlobs.length ≠ new.uniqueBlobCount ∨
      (uniqueBlobs.map Prod.snd).sum ≠ new.uniqueBlobBytes))
      "dataset version summaries do not match entries"]

def guardDatasetVersion (db : Database) (old new : DatasetVersionModel) : List Rule :=
  [.raiseIf (.of (old.state = .ready ∧ new ≠ old)) "READY dataset version is immutable",
   .raiseIf (.of (old.sealedAt ≠ none ∧
      (new.datasetId ≠ old.datasetId ∨ new.versionNumber ≠ old.versionNumber ∨
       new.manifestSchemaVersion ≠ old.manifestSchemaVersion ∨
       new.manifestBytes ≠ old.manifestBytes ∨ new.manifestSha256 ≠ old.manifestSha256 ∨
       new.fileCount ≠ old.fileCount ∨ new.logicalBytes ≠ old.logicalBytes ∨
       new.uniqueBlobCount ≠ old.uniqueBlobCount ∨ new.uniqueBlobBytes ≠ old.uniqueBlobBytes ∨
       new.sealedAt ≠ old.sealedAt)))
      "sealed dataset version content is immutable"] ++
  (if old.sealedAt = none ∧ new.sealedAt ≠ none then sealRules db new else []) ++
  [.raiseIf (.of (new.state ≠ old.state ∧ (old.state, new.state) ∉ versionEdges))
      "illegal dataset version state transition"]

def versionChecks (new : DatasetVersionModel) : List Rule :=
  [.range (new.versionNumber < bigint) "version_number",
   .range (new.fileCount < bigint) "file_count",
   .range (new.logicalBytes < bigint) "logical_bytes",
   .range (new.uniqueBlobCount < bigint) "unique_blob_count",
   .range (new.uniqueBlobBytes < bigint) "unique_blob_bytes",
   .range (∀ d ∈ new.failureDetail, d.length ≤ 512) "failure_detail",
   .check (.of (0 < new.versionNumber)) "ck_dataset_versions_number",
   .check (.of (new.manifestSchemaVersion = 1)) "ck_dataset_versions_schema"]

def versionConstraints (db : Database) (new : DatasetVersionModel) : List Rule :=
  versionChecks new ++
  [.unique (∃ v ∈ db.versions.rows, v.id ≠ new.id ∧ v.datasetId = new.datasetId ∧
      v.manifestSha256 = new.manifestSha256) "uq_version_dataset_manifest",
   .unique (∃ v ∈ db.versions.rows, v.id ≠ new.id ∧ v.datasetId = new.datasetId ∧
      v.versionNumber = new.versionNumber) "uq_version_dataset_number",
   .foreignKey (db.datasets.get? new.datasetId).isSome "dataset_versions_dataset_id_fkey"]

/-- `robolake_require_sealed_version`, deferred to commit. -/
def requireSealedVersion (db : Database) (versionId : UUID) : List Rule :=
  [.raiseIf (.of (∃ v ∈ db.versions.rows, v.id = versionId ∧ v.sealedAt = none))
      "dataset version must be sealed before commit"]

/-! ## Blobs -/

def blobEdges : List (BlobState × BlobState) :=
  [(.pending, .uploading), (.uploading, .verifying), (.verifying, .available),
   (.verifying, .failed), (.failed, .uploading)]

def guardBlob (old new : BlobModel) : List Rule :=
  [.raiseIf (.of (new.sha256 ≠ old.sha256 ∨ new.sizeBytes ≠ old.sizeBytes ∨
      new.objectKey ≠ old.objectKey)) "blob content identity is immutable",
   .raiseIf (.of (old.state = .available ∧ new ≠ old)) "AVAILABLE blob is immutable",
   .raiseIf (.of (new.state ≠ old.state ∧ (old.state, new.state) ∉ blobEdges))
      "illegal blob state transition"]

def blobChecks (new : BlobModel) : List Rule :=
  [.range (new.sizeBytes < bigint) "size_bytes",
   .range (∀ d ∈ new.failureDetail, d.length ≤ 512) "failure_detail",
   .check (.of (new.objectKey = objectKeyFor new.sha256)) "ck_blobs_object_key"]

def blobConstraints (db : Database) (new : BlobModel) : List Rule :=
  blobChecks new ++
  [.unique (∃ b ∈ db.blobs.rows, b.id ≠ new.id ∧ b.objectKey = new.objectKey)
      "blobs_object_key_key",
   .unique (∃ b ∈ db.blobs.rows, b.id ≠ new.id ∧ b.sha256 = new.sha256) "blobs_sha256_key"]

/-! ## Entries -/

/-- `robolake_guard_dataset_entry` and the table constraints, for an insertion. -/
def entryRules (db : Database) (new : DatasetEntryModel) : List Rule :=
  [.raiseIf (.of (((db.versions.get? new.datasetVersionId).bind
      DatasetVersionModel.sealedAt).isSome = true))
      "sealed dataset version entries are immutable",
   .range (new.manifestOrdinal < bigint) "manifest_ordinal",
   .check (.of (new.relativePath.value ≠ [] ∧ new.relativePath.bytes.length ≤ 1024))
      "ck_dataset_entries_path",
   .unique ((db.entries.get? (key new)).isSome = true) "dataset_entries_pkey",
   .unique (∃ e ∈ db.entries.rows, e.datasetVersionId = new.datasetVersionId ∧
      e.manifestOrdinal = new.manifestOrdinal) "uq_entry_version_ordinal",
   .foreignKey (db.blobs.get? new.blobId).isSome "dataset_entries_blob_id_fkey",
   .foreignKey (db.versions.get? new.datasetVersionId).isSome
      "dataset_entries_dataset_version_id_fkey"]

/-! ## Part plans -/

/-- The loop of `robolake_expected_multipart_part_size`; no value where the function raises. -/
def expectedPartSizeFrom (blobSize : Nat) : Nat → Nat → Option Nat
  | 0, _ => none
  | rounds + 1, selected =>
      if (blobSize + selected - 1) / selected > 10000 then
        if selected * 2 > 5368709120 then none
        else expectedPartSizeFrom blobSize rounds (selected * 2)
      else some selected

def expectedMultipartPartSize (blobSize : Nat) : Option Nat :=
  if blobSize ≤ 5000000000 ∨ blobSize > 5000000000000 then none
  else expectedPartSizeFrom blobSize 8 67108864

def expectedPartSizeOfInt (blobSize : Int) : Option Nat :=
  if blobSize ≤ 5000000000 ∨ blobSize > 5000000000000 then none
  else expectedPartSizeFrom blobSize.toNat 8 67108864

/-- A part row off its planned position; a missing column decides nothing. -/
def isInvalidRange (blobSize : Nat) (partSize plannedCount : Option Nat) (p : UploadPartModel) :
    Ternary :=
  (Ternary.of (p.partNumber < 1)).or <|
  (Ternary.lift (p.partNumber > ·) plannedCount).or <|
  (Ternary.lift (fun size => p.offsetBytes ≠ (p.partNumber - 1) * size) partSize).or <|
  ((Ternary.lift (p.partNumber < ·) plannedCount).and
    (.lift (p.sizeBytes ≠ ·) partSize)).or <|
  (Ternary.lift (p.partNumber = ·) plannedCount).and
    (.of (p.sizeBytes + p.offsetBytes ≠ blobSize))

/-- The plan text the database rebuilds from its part rows; null beside a null column. -/
def storedPlanText (schemaVersion : Option Nat) (blobSize : Nat)
    (partSize plannedCount : Option Nat)
    (parts : List UploadPartModel) : Option Bytes := do
  let schemaVersion ← schemaVersion
  let partSize ← partSize
  let plannedCount ← plannedCount
  if parts = [] then none
  else pure (PartPlan.planJson schemaVersion blobSize partSize plannedCount
    (parts.map fun p => PartPlan.partJson p.partNumber p.offsetBytes p.sizeBytes p.sha256))

/-- The rules of `robolake_validate_multipart_plan` on the Blob and the parts of a session. -/
def planRules (blobSize : Nat) (partSize plannedCount schemaVersion : Option Nat)
    (planSha256 : Option Sha256Digest) (parts : List UploadPartModel) : List Rule :=
  [.raiseIf (.of (expectedMultipartPartSize blobSize = none))
      "multipart Blob size is outside protocol limits",
   .raiseIf ((Ternary.lift (fun size => some size ≠ expectedMultipartPartSize blobSize)
      partSize).or (.lift₂ (fun count size => count ≠ (blobSize + size - 1) / size)
      plannedCount partSize)) "multipart session summary differs from protocol plan",
   .raiseIf ((Ternary.lift (parts.length ≠ ·) plannedCount).or <|
      (Ternary.of ((parts.map UploadPartModel.sizeBytes).sum ≠ blobSize)).or <|
      (Ternary.lift (· ≠ 1) (parts.map UploadPartModel.partNumber).min?).or <|
      (Ternary.lift₂ (· ≠ ·) (parts.map UploadPartModel.partNumber).max? plannedCount).or <|
      .of (∃ p ∈ parts, (isInvalidRange blobSize partSize plannedCount p).Holds))
      "multipart Part rows do not cover the Blob exactly once",
   .raiseIf (.lift₂ (fun text planSha256 => sha256 text ≠ planSha256)
      (storedPlanText schemaVersion blobSize partSize plannedCount parts) planSha256)
      "multipart PartPlan digest does not match frozen rows"]

def validateMultipartPlan (db : Database) (sessionId : UUID) : List Rule :=
  match db.sessions.get? sessionId with
  | none => []
  | some selected =>
      if selected.strategy = .multipart then
        match db.blobs.get? selected.blobId with
        | none => [.raiseIf .yes "multipart session summary differs from protocol plan"]
        | some blob =>
            planRules blob.sizeBytes selected.partSizeBytes selected.plannedPartCount
              selected.partPlanSchemaVersion selected.partPlanSha256 (db.partsOf sessionId)
      else []

/-! ## Upload sessions -/

def singlePutEdges : List (SessionState × SessionState) :=
  [(.created, .inProgress), (.inProgress, .completed), (.inProgress, .failed)]

def multipartEdges : List (SessionState × SessionState) :=
  [(.created, .initiating), (.created, .cancelled), (.created, .failed),
   (.initiating, .inProgress), (.initiating, .failed),
   (.inProgress, .completing), (.inProgress, .aborting), (.inProgress, .failed),
   (.completing, .inProgress), (.completing, .completed), (.completing, .failed),
   (.aborting, .aborted), (.aborting, .completing), (.aborting, .failed)]

def HasUnresolvedPart (db : Database) (sessionId : UUID) : Prop :=
  ∃ p ∈ db.parts.rows, p.uploadSessionId = sessionId ∧ p.state ≠ .verified

instance (db : Database) (sessionId : UUID) : Decidable (HasUnresolvedPart db sessionId) :=
  inferInstanceAs (Decidable (∃ p ∈ db.parts.rows, _))

/-- The phase edges the session trigger admits. -/
def phaseEdge (old new : UploadSessionModel) : Ternary :=
  let isOld (p : CompletionPhase) := Ternary.lift (· = p) old.completionPhase
  let isNew (p : CompletionPhase) := Ternary.lift (· = p) new.completionPhase
  ((isOld .pending).and (isNew .assembling)).or <|
  (((isOld .pending).and (isNew .finalPresent)).and
    (.lift (· = CompletionReason.finalPresent) new.completionReason)).or <|
  ((isOld .assembling).and (isNew .finalPresent)).or <|
  ((((isOld .assembling).and (isNew .pending)).and (.of (new.completionAttemptedAt ≠ none))).and
    (.lift (fun r => r = CompletionResult.ambiguous ∨ r = .embeddedError)
      new.lastCompletionResult)).or <|
  ((isOld .finalPresent).and (isNew .finalVerification)).or
    ((isOld .finalVerification).and (isNew .finalPresent))

/-- The single-PUT branch of `robolake_guard_upload_session`. -/
def guardSinglePutSession (old new : UploadSessionModel) : List Rule :=
  [.raiseIf (.of ((old.state = .completed ∨ old.state = .failed) ∧ new ≠ old))
      "terminal upload session is immutable",
   .raiseIf (.of (new.state ≠ old.state ∧ (old.state, new.state) ∉ singlePutEdges))
      "illegal upload session state transition"]

/-- The evidence a COMPLETED multipart session needs. -/
def completionEvidence (db : Database) (old new : UploadSessionModel) : Ternary :=
  match db.blobs.get? new.blobId with
  | none => .yes
  | some related =>
      (Ternary.lift (· ≠ CompletionPhase.finalVerification) old.completionPhase).or <|
      (Ternary.lift (· ≠ CompletionPhase.finalVerification) new.completionPhase).or <|
      (Ternary.of (related.state ≠ .available)).or <|
      (Ternary.lift (· ≠ VerificationMethod.fullStreamSha256) new.verificationMethod).or <|
      (Ternary.of (new.observedSha256 ≠ some related.sha256)).or <|
      (Ternary.of (new.observedSizeBytes ≠ some related.sizeBytes)).or <|
      (Ternary.of (new.verificationReadBytes ≠ some related.sizeBytes)).or
        (Ternary.of (new.verificationCompletedAt = none))

/-- The multipart branch of `robolake_guard_upload_session`. -/
def guardMultipartSession (db : Database) (old new : UploadSessionModel) : List Rule :=
  [.raiseIf (.of (new.sessionGeneration ≠ old.sessionGeneration ∨
      new.partSizeBytes ≠ old.partSizeBytes ∨ new.plannedPartCount ≠ old.plannedPartCount ∨
      new.partPlanSchemaVersion ≠ old.partPlanSchemaVersion ∨
      new.partPlanSha256 ≠ old.partPlanSha256 ∨
      (old.providerUploadId ≠ none ∧ new.providerUploadId ≠ old.providerUploadId)))
      "multipart session identity and PartPlan are immutable",
   .raiseIf (.of ((old.state = .completed ∨ old.state = .aborted ∨ old.state = .cancelled ∨
      old.state = .failed) ∧ new ≠ old)) "terminal multipart session is immutable",
   .raiseIf (.of (old.state = .completing ∧ new.state = .completing ∧
      new.completionReason ≠ old.completionReason))
      "accepted completion reason is immutable while work is pending",
   .raiseIf ((Ternary.of (old.state = .completing ∧ new.state = .completing ∧
      new.completionPhase ≠ old.completionPhase)).and (phaseEdge old new).not)
      "illegal multipart completion phase transition",
   .raiseIf (.of (new.state ≠ old.state ∧ (old.state, new.state) ∉ multipartEdges))
      "illegal multipart session state transition"] ++
  (if old.state = .created ∧ new.state = .initiating then
    validateMultipartPlan db new.id ++
    [.raiseIf (.of (new.initiationStartedAt = none))
      "multipart initiation requires durable intent time"]
  else []) ++
  [.raiseIf ((Ternary.of (old.state = .initiating ∧ new.state = .failed)).and
      ((Ternary.lift (· ≠ SessionFailureCode.initiationAmbiguous) new.failureCode).or
        (.of (new.initiationAmbiguousAt = none ∨ new.providerUploadId ≠ none))))
      "ambiguous initiation requires exact terminal evidence",
   .raiseIf (.of (new.state = .failed ∧ new.failureCode = none))
      "failed multipart session requires a failure code"] ++
  (if new.state = .completing then
    [.raiseIf (.of (new.completionRequestedAt = none ∨ new.completionReason = none ∨
        new.completionPhase = none)) "multipart completion requires durable work metadata",
     .raiseIf ((Ternary.of (old.state ≠ .completing)).and
        (.lift (· ≠ CompletionPhase.pending) new.completionPhase))
        "accepted completion must begin in PENDING phase",
     .raiseIf ((Ternary.lift (· = CompletionReason.partsReady) new.completionReason).and
        (.of (HasUnresolvedPart db new.id)))
        "PARTS_READY completion requires every Part VERIFIED"]
  else []) ++
  [.raiseIf ((Ternary.of (old.state = .completing ∧ new.state = .inProgress)).and <|
      (Ternary.of (new.finalAbsenceObservedAt = none)).or <|
      (Ternary.of (new.lastProviderReconciledAt = none)).or <|
      (Ternary.lift (fun r => ¬(r = CompletionResult.ambiguous ∨ r = .embeddedError))
        new.lastCompletionResult).or <|
      (Ternary.lift (· = CompletionReason.partsReady) old.completionReason).and
        (.of ¬HasUnresolvedPart db new.id))
      "multipart recovery lacks guarded provider evidence",
   .raiseIf (((Ternary.of (old.state = .completing ∧ new.state = .failed)).and
      (.lift (· = SessionFailureCode.providerAttemptInvalidated) new.failureCode)).and
      ((Ternary.of (new.providerAttemptInvalidatedAt = none)).or
        (.lift (fun r => ¬(r = CompletionResult.conflict409 ∨ r = .noSuchUpload))
          new.lastCompletionResult)))
      "provider attempt invalidation lacks terminal evidence",
   .raiseIf (.of (new.state = .aborting ∧ new.abortRequestedAt = none))
      "multipart abort requires a request time",
   .raiseIf ((Ternary.of (new.state = .completed)).and (completionEvidence db old new))
      "multipart completion lacks valid full-stream evidence"]

def guardUploadSession (db : Database) (old new : UploadSessionModel) : List Rule :=
  .raiseIf (.of (new.blobId ≠ old.blobId ∨ new.initiatingVersionId ≠ old.initiatingVersionId ∨
      new.strategy ≠ old.strategy)) "upload session identity is immutable" ::
  (if old.strategy = .singlePut then guardSinglePutSession old new
   else guardMultipartSession db old new)

def multipartPlanCheck (u : UploadSessionModel) : Ternary :=
  (Ternary.of (u.strategy = .singlePut ∧ u.sessionGeneration = none ∧ u.providerUploadId = none ∧
    u.partSizeBytes = none ∧ u.plannedPartCount = none ∧ u.partPlanSchemaVersion = none ∧
    u.partPlanSha256 = none)).or <|
  (Ternary.of (u.strategy = .multipart)).and <|
  (Ternary.lift (0 < ·) u.sessionGeneration).and <|
  (Ternary.lift (fun n => 67108864 ≤ n ∧ n ≤ 5368709120) u.partSizeBytes).and <|
  (Ternary.lift (fun n => 1 ≤ n ∧ n ≤ 10000) u.plannedPartCount).and <|
  (Ternary.lift (· = 1) u.partPlanSchemaVersion).and
    (.lift (fun _ => True) u.partPlanSha256)

def providerIdCheck (u : UploadSessionModel) : Ternary :=
  (Ternary.of (u.strategy = .singlePut)).or <|
  (Ternary.of ((u.state = .created ∨ u.state = .initiating ∨ u.state = .cancelled) ∧
    u.providerUploadId = none)).or <|
  ((Ternary.of ((u.state = .inProgress ∨ u.state = .completing ∨ u.state = .completed ∨
    u.state = .aborting ∨ u.state = .aborted) ∧ u.providerUploadId ≠ none)).and
    (.lift (· ≠ "") u.providerUploadId)).or
  (Ternary.of (u.state = .failed))

def verificationEvidenceCheck (u : UploadSessionModel) : Ternary :=
  (Ternary.of (u.verificationMethod = none ∧ u.observedSha256 = none ∧ u.observedSizeBytes = none ∧
    u.verificationReadBytes = none ∧ u.verificationCompletedAt = none ∧
    u.verifierImplementation = none)).or <|
  (Ternary.lift (· = VerificationMethod.fullStreamSha256) u.verificationMethod).and <|
  (Ternary.lift (fun _ => True) u.observedSha256).and <|
  (Ternary.lift (0 ≤ ·) u.observedSizeBytes).and <|
  (Ternary.lift (0 ≤ ·) u.verificationReadBytes).and <|
  (Ternary.of (u.verificationCompletedAt ≠ none ∧ u.verifierImplementation ≠ none)).and
    (.lift (· ≠ "") u.verifierImplementation)

def sessionChecks (new : UploadSessionModel) : List Rule :=
  [.range (∀ n ∈ new.sessionGeneration, n < integer) "session_generation",
   .range (∀ n ∈ new.partSizeBytes, n < bigint) "part_size_bytes",
   .range (∀ n ∈ new.plannedPartCount, n < integer) "planned_part_count",
   .range (∀ n ∈ new.observedSizeBytes, n < bigint) "observed_size_bytes",
   .range (∀ n ∈ new.verificationReadBytes, n < bigint) "verification_read_bytes",
   .range (∀ v ∈ new.verifierImplementation, v.length ≤ 128) "verifier_implementation",
   .range (∀ d ∈ new.failureDetail, d.length ≤ 512) "failure_detail",
   .check (multipartPlanCheck new) "ck_upload_sessions_multipart_plan",
   .check (providerIdCheck new) "ck_upload_sessions_provider_id",
   .check (verificationEvidenceCheck new) "ck_upload_sessions_verification_evidence"]

def sessionConstraints (db : Database) (new : UploadSessionModel) : List Rule :=
  sessionChecks new ++
  [.unique (new.sessionGeneration ≠ none ∧ ∃ u ∈ db.sessions.rows, u.id ≠ new.id ∧
      u.blobId = new.blobId ∧ u.sessionGeneration = new.sessionGeneration)
      "uq_upload_sessions_blob_generation",
   .unique (new.state.isActive = true ∧ ∃ u ∈ db.sessions.rows, u.id ≠ new.id ∧
      u.blobId = new.blobId ∧ u.state.isActive = true) "uq_upload_sessions_active_blob",
   .foreignKey (db.blobs.get? new.blobId).isSome "upload_sessions_blob_id_fkey",
   .foreignKey (db.versions.get? new.initiatingVersionId).isSome
      "upload_sessions_initiating_version_id_fkey"]

/-! ## Parts -/

/-- `encode(decode(sha256, 'hex'), 'base64')`. -/
def expectedChecksum (sha256 : Sha256Digest) : List Char := sha256.checksumBase64

/-- `encode(decode(value, 'base64'), 'base64') <> value`, or a refused decoding. -/
def isNoncanonicalBase64 (value : List Char) : Bool :=
  match Base64.decode value with
  | some raw => Base64.encode raw != value
  | none => true

/-- A stored checksum that is not the canonical spelling of the planned digest. -/
def checksumDiffers (sha256 : Sha256Digest) (checksum : Option (List Char)) : Ternary :=
  .lift (fun c => c ≠ expectedChecksum sha256 ∨ isNoncanonicalBase64 c = true) checksum

def requireMultipartParent (parent : Option UploadSessionModel) : Rule :=
  .raiseIf (.of (parent.map UploadSessionModel.strategy ≠ some .multipart))
    "upload Part requires a multipart session"

def guardInsertPart (db : Database) (new : UploadPartModel) : List Rule :=
  let parent := db.sessions.get? new.uploadSessionId
  [requireMultipartParent parent,
   .raiseIf ((Ternary.lift (fun u : UploadSessionModel => u.state ≠ .created) parent).or
      (.lift (fun n => new.partNumber > n) (parent.bind UploadSessionModel.plannedPartCount)))
      "multipart Part insertion requires an unsealed planned position",
   .raiseIf (checksumDiffers new.sha256 new.uploadResponseChecksumSha256Base64)
      "UploadPart response checksum differs from expected SHA-256",
   .raiseIf (checksumDiffers new.sha256 new.listedChecksumSha256Base64)
      "listed Part checksum differs from expected SHA-256"]

def partEdges : List (UploadPartState × UploadPartState) :=
  [(.pending, .uploaded), (.uploaded, .verified), (.uploaded, .pending), (.verified, .pending)]

def guardUpdatePart (db : Database) (old new : UploadPartModel) : List Rule :=
  let parent := db.sessions.get? new.uploadSessionId
  [requireMultipartParent parent,
   .raiseIf (.of (new.uploadSessionId ≠ old.uploadSessionId ∨ new.partNumber ≠ old.partNumber ∨
      new.offsetBytes ≠ old.offsetBytes ∨ new.sizeBytes ≠ old.sizeBytes ∨
      new.sha256 ≠ old.sha256)) "multipart Part identity and range are immutable",
   .raiseIf ((Ternary.lift (fun u : UploadSessionModel => u.state = .completed ∨
      u.state = .aborted ∨ u.state = .cancelled ∨ u.state = .failed) parent).and
      (.of (new ≠ old))) "terminal multipart session Parts are immutable",
   .raiseIf (.of (new.state ≠ old.state ∧ (old.state, new.state) ∉ partEdges))
      "illegal multipart Part state transition",
   .raiseIf (checksumDiffers new.sha256 new.uploadResponseChecksumSha256Base64)
      "UploadPart response checksum differs from expected SHA-256",
   .raiseIf (checksumDiffers new.sha256 new.listedChecksumSha256Base64)
      "listed Part checksum differs from expected SHA-256",
   .raiseIf (.of ((old.state = .uploaded ∨ old.state = .verified) ∧ new.state ≠ .pending ∧
      (new.uploadResponseEtag ≠ old.uploadResponseEtag ∨
       new.uploadResponseChecksumSha256Base64 ≠ old.uploadResponseChecksumSha256Base64 ∨
       new.uploadResponseReceivedAt ≠ old.uploadResponseReceivedAt)))
      "receipt-backed multipart progress is immutable until reset",
   .raiseIf (.of ((old.state = .uploaded ∨ old.state = .verified) ∧ new.state = .pending ∧
      (parent.bind UploadSessionModel.lastProviderReconciledAt) = none))
      "multipart Part reset requires provider reconciliation evidence"]

/-- `^[A-Za-z0-9+/]{43}=$`. -/
def isChecksumShape (value : List Char) : Bool :=
  value.length == 44 && (value.take 43).all (fun c => (Base64.value? c).isSome) &&
    value.drop 43 == ['=']

def uploadedReceiptCheck (p : UploadPartModel) : Ternary :=
  (Ternary.of (p.state = .pending)).or <|
  (Ternary.of (p.uploadResponseEtag ≠ none)).and <|
  (Ternary.lift (· ≠ "") p.uploadResponseEtag).and <|
  (Ternary.lift (fun c => isChecksumShape c = true)
    p.uploadResponseChecksumSha256Base64).and <|
  Ternary.of (p.uploadResponseReceivedAt ≠ none ∧ p.uploadedAt ≠ none)

def verifiedObservationCheck (p : UploadPartModel) : Ternary :=
  (Ternary.of (p.state ≠ .verified)).or <|
  (Ternary.lift₂ (· = ·) p.listedEtag p.uploadResponseEtag).and <|
  (Ternary.lift₂ (· = ·) p.listedChecksumSha256Base64 p.uploadResponseChecksumSha256Base64).and <|
  (Ternary.lift (· = p.sizeBytes) p.listedSizeBytes).and <|
  Ternary.of (p.providerListedAt ≠ none ∧ p.verifiedAt ≠ none)

def partChecks (new : UploadPartModel) : List Rule :=
  [.range (new.offsetBytes < bigint) "offset_bytes",
   .range (new.sizeBytes < bigint) "size_bytes",
   .range (∀ n ∈ new.listedSizeBytes, n < bigint) "listed_size_bytes",
   .check (.of (1 ≤ new.partNumber ∧ new.partNumber ≤ 10000)) "ck_upload_parts_number",
   .check (.of (0 < new.sizeBytes)) "ck_upload_parts_range",
   .check (uploadedReceiptCheck new) "ck_upload_parts_uploaded_receipt",
   .check (verifiedObservationCheck new) "ck_upload_parts_verified_observation"]

def partConstraints (db : Database) (new : UploadPartModel) : List Rule :=
  partChecks new ++
  [.unique (∃ p ∈ db.parts.rows, key p ≠ key new ∧ p.uploadSessionId = new.uploadSessionId ∧
      p.offsetBytes = new.offsetBytes) "uq_upload_parts_session_offset",
   .foreignKey (db.sessions.get? new.uploadSessionId).isSome "upload_parts_upload_session_id_fkey"]

/-! ## Leases -/

def guardAdmissionLease (clock : Timestamp) (old new : MultipartAdmissionLeaseModel) : List Rule :=
  .raiseIf (.of (new.uploadSessionId ≠ old.uploadSessionId ∨ new.epoch < old.epoch ∨
      new.renewedAt < old.renewedAt)) "admission lease identity and epoch are monotonic" ::
  (if new.ownerId ≠ old.ownerId ∨ new.invocationId ≠ old.invocationId then
    [.raiseIf (.of (old.expiresAt > clock ∨ new.epoch ≠ old.epoch + 1 ∨
      new.acquiredAt ≤ old.acquiredAt)) "admission takeover requires an expired prior epoch"]
  else
    [.raiseIf (.of (new.epoch ≠ old.epoch ∨ new.acquiredAt ≠ old.acquiredAt))
      "admission renewal cannot change epoch or acquisition time"])

def guardCompletionLease (clock : Timestamp) (old new : MultipartCompletionLeaseModel) :
    List Rule :=
  .raiseIf (.of (new.uploadSessionId ≠ old.uploadSessionId ∨ new.epoch < old.epoch ∨
      new.renewedAt < old.renewedAt)) "completion lease identity and epoch are monotonic" ::
  (if new.epoch = old.epoch then
    [.raiseIf (.of (new.ownerInstanceId ≠ old.ownerInstanceId ∨ new.acquiredAt ≠ old.acquiredAt ∨
      old.expiresAt ≤ clock))
      "completion renewal requires the current unexpired owner and epoch"]
  else if new.epoch = old.epoch + 1 then
    [.raiseIf (.of (old.expiresAt > clock ∨ new.acquiredAt ≤ old.acquiredAt))
      "completion takeover requires an expired prior epoch"]
  else
    [.raiseIf .yes "completion lease epoch must renew or advance exactly once"])

def admissionLeaseChecks (new : MultipartAdmissionLeaseModel) : List Rule :=
  [.range (new.epoch < bigint) "epoch",
   .check (.of (0 < new.epoch)) "ck_multipart_admission_leases_epoch",
   .check (.of (new.renewedAt ≥ new.acquiredAt ∧ new.expiresAt ≥ new.renewedAt))
      "ck_multipart_admission_leases_times"]

def admissionLeaseConstraints (db : Database) (new : MultipartAdmissionLeaseModel) : List Rule :=
  admissionLeaseChecks new ++
  [.foreignKey (db.sessions.get? new.uploadSessionId).isSome
      "multipart_admission_leases_upload_session_id_fkey"]

def completionLeaseChecks (new : MultipartCompletionLeaseModel) : List Rule :=
  [.range (new.epoch < bigint) "epoch",
   .check (.of (0 < new.epoch)) "ck_multipart_completion_leases_epoch",
   .check (.of (new.renewedAt ≥ new.acquiredAt ∧ new.expiresAt ≥ new.renewedAt))
      "ck_multipart_completion_leases_times"]

def completionLeaseConstraints (db : Database) (new : MultipartCompletionLeaseModel) : List Rule :=
  completionLeaseChecks new ++
  [.foreignKey (db.sessions.get? new.uploadSessionId).isSome
      "multipart_completion_leases_upload_session_id_fkey"]

/-! ## Idempotency records -/

/-- `^[0-9a-f]{8}-[0-9a-f]{4}-[1-5][0-9a-f]{3}-[89ab][0-9a-f]{3}-[0-9a-f]{12}$`. -/
def isRequestKey (key : String) : Bool :=
  let cs := key.toList
  let hexAt (i : Nat) := (cs[i]?.map isHexDigit).getD false
  cs.length == 36 && (List.range 36).all fun i =>
    if i = 8 ∨ i = 13 ∨ i = 18 ∨ i = 23 then cs[i]? == some '-'
    else if i = 14 then (cs[i]?.map fun c => '1' ≤ c && c ≤ '5').getD false
    else if i = 19 then (cs[i]?.map ['8', '9', 'a', 'b'].contains).getD false
    else hexAt i

/-- `robolake_guard_m2_idempotency` and the table constraints, for an insertion. -/
def idempotencyRules (db : Database) (new : IdempotencyRecordModel) : List Rule :=
  [.raiseIf ((Ternary.of (new.scope.isM2 = true)).and
      ((Ternary.of (isRequestKey new.key = false)).or <|
       (Ternary.lift (· ≠ "upload-session") new.resourceType).or <|
       Ternary.of (new.resourceId = none ∨ new.httpStatus = none ∨ new.responseJson = none)))
      "M2 idempotency binding is incomplete or non-canonical",
   .range (new.key.length ≤ 255) "key",
   .unique ((db.idempotency.get? (Keyed.key new)).isSome = true) "idempotency_records_pkey"]

/-! ## Publication -/

/-- The verified completion `robolake_validate_m2_publication` looks for. -/
def isValidCompletion (blob : BlobModel) (u : UploadSessionModel) : Ternary :=
  (Ternary.of (u.blobId = blob.id ∧ u.strategy = .multipart ∧ u.state = .completed)).and <|
  (Ternary.lift (· = CompletionPhase.finalVerification) u.completionPhase).and <|
  (Ternary.lift (· = VerificationMethod.fullStreamSha256) u.verificationMethod).and <|
  (Ternary.lift (· = blob.sha256) u.observedSha256).and <|
  (Ternary.lift (· = blob.sizeBytes) u.observedSizeBytes).and <|
  (Ternary.lift (· = blob.sizeBytes) u.verificationReadBytes).and <|
  (Ternary.of (u.verificationCompletedAt ≠ none)).and
    (.lift (· ≠ "") u.verifierImplementation)

/-- The publication rules of a Blob that has a multipart session. -/
def publicationRules (db : Database) (clock : Timestamp) (blob : BlobModel) : List Rule :=
  [.raiseIf (.of (blob.state = .verifying))
      "multipart Blob cannot remain VERIFYING at transaction commit",
   .raiseIf (.of (blob.state = .available ∧
      ((¬∃ u ∈ db.sessions.rows, (isValidCompletion blob u).Holds) ∨
        ∃ u ∈ db.sessions.rows, (u.blobId = blob.id ∧ u.strategy = .multipart) ∧
          u.state.isActive = true)))
      "AVAILABLE multipart Blob lacks one completed verified publication",
   .raiseIf (.of ((∃ u ∈ db.sessions.rows, (u.blobId = blob.id ∧ u.strategy = .multipart) ∧
      u.state = .completed) ∧ blob.state ≠ .available))
      "completed multipart Session requires an AVAILABLE Blob",
   .raiseIf (.of (∃ u ∈ db.sessions.rows, (u.blobId = blob.id ∧ u.strategy = .multipart) ∧
      u.state = .failed ∧ u.failureCode = some .providerAttemptInvalidated ∧
      ∃ l ∈ db.completionLeases.rows, l.uploadSessionId = u.id ∧ l.expiresAt > clock))
      "invalidated provider attempt retains completion ownership"]

def validateM2Publication (db : Database) (clock : Timestamp) (blobId : UUID) : List Rule :=
  match db.blobs.get? blobId with
  | none => []
  | some blob =>
      if ∃ u ∈ db.sessions.rows, u.blobId = blobId ∧ u.strategy = .multipart then
        publicationRules db clock blob
      else []

end Migrations

end RoboLake
