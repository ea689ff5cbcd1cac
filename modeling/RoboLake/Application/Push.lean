import RoboLake.Application.Status
import RoboLake.Application.Uploads
import RoboLake.Foundation.Acting

/-! # Pushes

The push workflow resolves each distinct Blob of a scanned directory and then publishes
the Version. The scanner, the control plane, the byte transfer and the progress callback
are its parameters; it runs in any monad that can raise.
-/

namespace RoboLake

open Foundation Store

/-! ## Contracts -/

inductive PutOutcome
  | created | alreadyExists | conflict
  deriving DecidableEq, Repr

structure PutReceipt where
  outcome : PutOutcome
  etag : Option String
  deriving DecidableEq

inductive ProgressKind
  | scanned | uploading | skipped | verified | finalizing | downloading | restored
  deriving DecidableEq, Repr

variable [Platform]

structure ProgressEvent where
  kind : ProgressKind
  relativePath : Option RelativePath
  resolvedBlobCount : Nat
  uniqueBlobCount : Nat
  resolvedBlobBytes : Nat
  uniqueBlobBytes : Nat
  deriving DecidableEq

structure ScannedFile (ρ : Type) where
  entry : ManifestEntry
  localRef : ρ

structure ScannedDataset (ρ : Type) where
  manifest : Manifest
  files : List (ScannedFile ρ)

structure PushResult where
  reference : DatasetReference
  state : VersionState
  fileCount : Nat
  logicalBytes : Nat
  uniqueBlobCount : Nat
  uniqueBlobBytes : Nat
  createdBlobCount : Nat
  createdBlobBytes : Nat
  reusedBlobCount : Nat
  reusedBlobBytes : Nat
  deriving DecidableEq

structure ControlPlane (M : Type → Type) where
  createDataset : DatasetName → PyStr → M DatasetRecord
  registerVersion : UUID → Manifest → PyStr → M VersionRecord
  prepareUpload : UUID → Sha256Digest → PyStr → M UploadPreparation
  uploadUrl : UUID → M PresignedRequest
  completeUpload : UUID → Option String → M UploadPreparation
  finalize : UUID → M VersionRecord

/-- The registry and transfer services as the control plane of a push. -/
def TransferService.pushPlane (service : TransferService) :
    ControlPlane (Acting Failure Scene) where
  createDataset name key := Served.call (RegistryService.createDataset name (plainText key))
  registerVersion datasetId manifest key :=
    Served.call (RegistryService.registerVersion datasetId manifest (plainText key))
  prepareUpload versionId sha256 key :=
    TransferService.prepareUpload versionId sha256 (plainText key)
  uploadUrl := service.issueUploadUrl
  completeUpload := TransferService.completeUpload
  finalize versionId := Served.call (finalizeVersion versionId)

structure PushWorkflow (ρ : Type) (M : Type → Type) where
  scan : M (ScannedDataset ρ)
  controlPlane : ControlPlane M
  put : ρ → PresignedRequest → ManifestEntry → M PutReceipt
  progress : ProgressEvent → M Unit

/-- The control plane acts on the second part of a world. -/
def ControlPlane.inside {σ τ : Type} (plane : ControlPlane (Acting Failure τ)) :
    ControlPlane (Acting Failure (σ × τ)) where
  createDataset name key := Acting.inside (plane.createDataset name key)
  registerVersion datasetId manifest key :=
    Acting.inside (plane.registerVersion datasetId manifest key)
  prepareUpload versionId sha256 key := Acting.inside (plane.prepareUpload versionId sha256 key)
  uploadUrl sessionId := Acting.inside (plane.uploadUrl sessionId)
  completeUpload sessionId etag := Acting.inside (plane.completeUpload sessionId etag)
  finalize versionId := Acting.inside (plane.finalize versionId)

/-- A push through the services; its scan, its transfers and its progress act outside of them. -/
def TransferService.push {ρ ω : Type} (service : TransferService)
    (scan : Acting Failure ω (ScannedDataset ρ))
    (put : ρ → PresignedRequest → ManifestEntry → Acting Failure ω PutReceipt)
    (progress : ProgressEvent → Acting Failure ω Unit) :
    PushWorkflow ρ (Acting Failure (ω × Scene)) where
  scan := Acting.outside scan
  controlPlane := service.pushPlane.inside
  put localRef request entry := Acting.outside (put localRef request entry)
  progress event := Acting.outside (progress event)

/-! ## The workflow -/

/-- What has been resolved so far, and of it what was created and what was reused. -/
structure Tally where
  resolvedCount : Nat := 0
  resolvedBytes : Nat := 0
  createdCount : Nat := 0
  createdBytes : Nat := 0
  reusedCount : Nat := 0
  reusedBytes : Nat := 0

def Tally.reuse (tally : Tally) (sizeBytes : Nat) : Tally :=
  { tally with
    reusedCount := tally.reusedCount + 1
    reusedBytes := tally.reusedBytes + sizeBytes
    resolvedCount := tally.resolvedCount + 1
    resolvedBytes := tally.resolvedBytes + sizeBytes }

def Tally.create (tally : Tally) (sizeBytes : Nat) : Tally :=
  { tally with
    createdCount := tally.createdCount + 1
    createdBytes := tally.createdBytes + sizeBytes
    resolvedCount := tally.resolvedCount + 1
    resolvedBytes := tally.resolvedBytes + sizeBytes }

namespace PushWorkflow

variable {ρ : Type} {M : Type → Type}

/-- `sources.setdefault(file.entry.sha256, file)`: the dictionary keeps the first file of a digest,
in the order of insertion. -/
def addSource (sources : List (ScannedFile ρ)) (file : ScannedFile ρ) : List (ScannedFile ρ) :=
  if sources.any fun f => f.entry.sha256 = file.entry.sha256 then sources else sources ++ [file]

def sources (files : List (ScannedFile ρ)) : List (ScannedFile ρ) := files.foldl addSource []

def requireManifest [Monad M] [MonadExceptOf Failure M] (actual expected : Sha256Digest) :
    M Unit :=
  if actual ≠ expected then
    throw (.domain (.manifestMismatch "DatasetVersion manifest identity changed during push."))
  else pure ()

def emit (workflow : PushWorkflow ρ M) (kind : ProgressKind) (relativePath : Option RelativePath)
    (tally : Tally) (manifest : Manifest) : M Unit :=
  workflow.progress {
    kind := kind
    relativePath := relativePath
    resolvedBlobCount := tally.resolvedCount
    uniqueBlobCount := manifest.uniqueBlobCount
    resolvedBlobBytes := tally.resolvedBytes
    uniqueBlobBytes := manifest.uniqueBlobBytes }

def result (version : VersionRecord) (createdCount createdBytes reusedCount reusedBytes : Nat) :
    Except Failure PushResult :=
  if createdCount + reusedCount ≠ version.uniqueBlobCount ∨
      createdBytes + reusedBytes ≠ version.uniqueBlobBytes then
    .error (contentConflict "Push outcome totals do not match unique content totals.")
  else .ok {
    reference := version.reference
    state := version.state
    fileCount := version.fileCount
    logicalBytes := version.logicalBytes
    uniqueBlobCount := version.uniqueBlobCount
    uniqueBlobBytes := version.uniqueBlobBytes
    createdBlobCount := createdCount
    createdBlobBytes := createdBytes
    reusedBlobCount := reusedCount
    reusedBlobBytes := reusedBytes }

variable [Monad M] [MonadExceptOf Failure M] (workflow : PushWorkflow ρ M)

def transfer (manifest : Manifest) (file : ScannedFile ρ) (sessionId : UUID) (tally : Tally) :
    M Tally := do
  workflow.emit .uploading (some file.entry.relativePath) tally manifest
  let request ← workflow.controlPlane.uploadUrl sessionId
  let receipt ← workflow.put file.localRef request file.entry
  let completed ← workflow.controlPlane.completeUpload sessionId receipt.etag
  requireManifest completed.version.manifestSha256 manifest.sha256
  if completed.available = false then
    throw (.domain (.uploadConflict "Upload completion did not resolve the Blob."))
  else
    let tally' := if receipt.outcome = .created then tally.create completed.sizeBytes
      else tally.reuse completed.sizeBytes
    workflow.emit .verified (some file.entry.relativePath) tally' manifest
    pure tally'

def resolve (manifest : Manifest) (version : VersionRecord) (tally : Tally)
    (file : ScannedFile ρ) : M Tally := do
  let uploadKey := makeIdempotencyKey (text "upload-session-create")
    [version.id.bytes, file.entry.sha256.rawBytes]
  let preparation ← workflow.controlPlane.prepareUpload version.id file.entry.sha256 uploadKey
  requireManifest preparation.version.manifestSha256 manifest.sha256
  if preparation.sizeBytes ≠ file.entry.sizeBytes then
    throw (contentConflict "Prepared Blob size differs from the local manifest.")
  else if preparation.available then
    let tally' := tally.reuse preparation.sizeBytes
    workflow.emit .skipped (some file.entry.relativePath) tally' manifest
    pure tally'
  else
    match preparation.sessionId with
    | none => throw (contentConflict "Unavailable Blob has no upload session.")
    | some sessionId => transfer workflow manifest file sessionId tally

/-- Resolve every Blob of a Version that is not READY, and finalize it. -/
def publish (scanned : ScannedDataset ρ) (version : VersionRecord) : M PushResult := do
  let tally ← (sources scanned.files).foldlM (workflow.resolve scanned.manifest version) {}
  workflow.emit .finalizing none tally scanned.manifest
  let ready ← workflow.controlPlane.finalize version.id
  requireManifest ready.manifestSha256 scanned.manifest.sha256
  if ready.state ≠ .ready then
    throw (contentConflict "Finalized DatasetVersion did not become READY.")
  else
    MonadExcept.ofExcept
      (result ready tally.createdCount tally.createdBytes tally.reusedCount tally.reusedBytes)

/-- Scan before persistence, resolve each unique Blob, then publish READY. -/
def run (dataset : DatasetName) : M PushResult := do
  let scanned ← workflow.scan
  workflow.emit .scanned none {} scanned.manifest
  let datasetKey := makeIdempotencyKey (text "dataset-create") [dataset.value.flatMap utf8]
  let datasetRecord ← workflow.controlPlane.createDataset dataset datasetKey
  let versionKey := makeIdempotencyKey (text "version-register")
    (registrationFields datasetRecord.id scanned.manifest)
  let version ← workflow.controlPlane.registerVersion datasetRecord.id scanned.manifest versionKey
  requireManifest version.manifestSha256 scanned.manifest.sha256
  if version.state = .ready then
    MonadExcept.ofExcept (result version 0 0 scanned.manifest.uniqueBlobCount
      scanned.manifest.uniqueBlobBytes)
  else workflow.publish scanned version

end PushWorkflow

end RoboLake
