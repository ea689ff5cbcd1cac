import RoboLake.Infrastructure.Session

/-! # Dataset and Version operations of the store

Each operation is the program of one transaction, in the order of its reads and
flushes.
-/

namespace RoboLake

open Foundation Work

variable [Platform]

/-! ## Records read from rows -/

def datasetRecord (model : DatasetModel) : DatasetRecord := ⟨model.id, model.name⟩

def versionRecord (model : DatasetVersionModel) (datasetName : DatasetName) : VersionRecord where
  id := model.id
  datasetId := model.datasetId
  datasetName := datasetName
  versionNumber := model.versionNumber
  manifestSha256 := model.manifestSha256
  state := model.state
  fileCount := model.fileCount
  logicalBytes := model.logicalBytes
  uniqueBlobCount := model.uniqueBlobCount
  uniqueBlobBytes := model.uniqueBlobBytes
  failureCode := model.failureCode
  failureDetail := model.failureDetail

def blobRecord (model : BlobModel) : BlobRecord where
  id := model.id
  sha256 := model.sha256
  sizeBytes := model.sizeBytes
  objectKey := model.objectKey
  state := model.state
  failureCode := model.failureCode

/-! ## Failures -/

def contentConflict (message : String) : Failure := .domain (.contentConflict message)
def illegalTransition (message : String) : Failure := .domain (.illegalTransition message)
def idempotencyConflict (message : String) : Failure := .domain (.idempotencyConflict message)
def notFound (message : String) : Failure := .domain (.notFound message)
def leaseLost (message : String) : Failure := .domain (.admissionLeaseLost message)

namespace Store

/-! ## Datasets -/

def datasetBinding (idempotencyKey : String) (requestSha256 : Sha256Digest) (model : DatasetModel) :
    IdempotencyRecordModel where
  scope := .datasetCreate
  key := idempotencyKey
  requestSha256 := requestSha256
  resourceType := some "dataset"
  resourceId := some model.id
  httpStatus := some 201
  responseJson := some (.dataset model.id model.name)

/-- Create a Dataset or replay the response bound to a caller key. -/
def createDataset (name : DatasetName) (idempotencyKey : String) (requestSha256 : Sha256Digest) :
    Tx DatasetRecord := do
  let replay ← select fun s => s.db.idempotency.get? (.datasetCreate, idempotencyKey)
  match replay with
  | some replay =>
      require (replay.requestSha256 = requestSha256) (idempotencyConflict
        "Idempotency key was already used for a different Dataset request.")
      let resourceId ← fetch (fun _ => replay.resourceId)
        (idempotencyConflict "Idempotency record has no Dataset resource.")
      let model ← fetch (fun s => s.db.datasets.get? resourceId)
        (idempotencyConflict "Idempotency Dataset resource is unavailable.")
      pure (datasetRecord model)
  | none =>
      let found ← select fun s => s.db.datasets.rows.find? fun d => d.name = name
      let model ← match found with
        | some model => pure model
        | none => do
            let id ← uuid4
            perform (.insertDataset ⟨id, name⟩)
            pure ⟨id, name⟩
      perform (.insertIdempotency (datasetBinding idempotencyKey requestSha256 model))
      pure (datasetRecord model)

/-! ## Versions -/

/-- Insert a PENDING Blob unless its digest is stored, and require one size for one digest. -/
def getOrCreateBlob (digest : Sha256Digest) (sizeBytes : Nat) : Tx BlobModel := do
  let id ← uuid4
  let stored ← select fun s => s.db.blobs.rows.find? fun b => b.sha256 = digest
  let blob ← match stored with
    | some blob => pure blob
    | none => do
        let blob : BlobModel := {
          id := id
          sha256 := digest
          sizeBytes := sizeBytes
          objectKey := objectKeyFor digest
          state := .pending }
        perform (.insertBlob blob)
        pure blob
  require (blob.sizeBytes = sizeBytes)
    (contentConflict "One SHA-256 digest has conflicting sizes.")
  pure blob

def nextVersionNumber (db : Database) (datasetId : UUID) : Nat :=
  ((db.versions.rows.filter fun v => v.datasetId = datasetId).map
    DatasetVersionModel.versionNumber).foldr max 0 + 1

/-- Insert one entry of a Version under registration, with its Blob. -/
def registerEntry (versionId : UUID) (item : ManifestEntry × Nat) : Tx Unit := do
  let blob ← getOrCreateBlob item.1.sha256 item.1.sizeBytes
  perform (.insertEntry {
    datasetVersionId := versionId
    manifestOrdinal := item.2
    relativePath := item.1.relativePath
    blobId := blob.id })

/-- The DRAFT row of a canonical manifest, not yet sealed. -/
def draftVersion (id datasetId : UUID) (versionNumber : Nat) (canonical : Manifest) :
    DatasetVersionModel where
  id := id
  datasetId := datasetId
  versionNumber := versionNumber
  manifestSchemaVersion := canonical.schemaVersion
  manifestBytes := canonical.canonicalBytes
  manifestSha256 := canonical.sha256
  state := .draft
  fileCount := canonical.fileCount
  logicalBytes := canonical.logicalBytes
  uniqueBlobCount := canonical.uniqueBlobCount
  uniqueBlobBytes := canonical.uniqueBlobBytes

/-- Insert a Version with its entries and Blobs, then seal it. -/
def sealVersion (datasetId : UUID) (canonical : Manifest) : Tx DatasetVersionModel := do
  let versionNumber ← select fun s => nextVersionNumber s.db datasetId
  let id ← uuid4
  let draft := draftVersion id datasetId versionNumber canonical
  perform (.insertVersion draft)
  forEach canonical.entries.zipIdx (registerEntry id)
  let now ← utcNow
  let sealed := { draft with sealedAt := some now }
  flushVersion sealed
  pure sealed

def versionBinding (idempotencyKey : String) (requestSha256 : Sha256Digest)
    (version : DatasetVersionModel) : IdempotencyRecordModel where
  scope := .versionRegister
  key := idempotencyKey
  requestSha256 := requestSha256
  resourceType := some "dataset-version"
  resourceId := some version.id
  httpStatus := some 201
  responseJson := some (.version version.id version.datasetId version.versionNumber)

/-- Atomically seal a canonical manifest or replay its registered Version. -/
def registerVersion (datasetId : UUID) (manifest : Manifest) (idempotencyKey : String)
    (requestSha256 : Sha256Digest) : Tx VersionRecord := do
  let canonical ← ofExcept (Manifest.fromCanonicalBytes manifest.canonicalBytes)
  require (canonical.sha256 = manifest.sha256) (.domain (.manifestMismatch
    "Manifest digest does not match its canonical bytes."))
  let dataset ← fetch (fun s => s.db.datasets.get? datasetId) (notFound "Dataset does not exist.")
  let replay ← select fun s => s.db.idempotency.get? (.versionRegister, idempotencyKey)
  match replay with
  | some replay =>
      require (replay.requestSha256 = requestSha256) (idempotencyConflict
        "Idempotency key was already used for a different Version request.")
      let resourceId ← fetch (fun _ => replay.resourceId)
        (idempotencyConflict "Idempotency record has no Version resource.")
      let replayed ← fetch (fun s => s.db.versions.get? resourceId)
        (idempotencyConflict "Idempotency Version resource is unavailable.")
      pure (versionRecord replayed dataset.name)
  | none =>
      let existing ← select fun s => s.db.versions.rows.find? fun v =>
        v.datasetId = datasetId ∧ v.manifestSha256 = canonical.sha256
      let version ← match existing with
        | some version => pure version
        | none => sealVersion datasetId canonical
      perform (.insertIdempotency (versionBinding idempotencyKey requestSha256 version))
      pure (versionRecord version dataset.name)

/-! ## Reads -/

def resolveVersion (datasetName : DatasetName) (versionNumber : Nat) : Tx VersionRecord :=
  fetch (fun s => do
      let dataset ← s.db.datasets.rows.find? fun d => d.name = datasetName
      let version ← s.db.versions.rows.find? fun v =>
        v.datasetId = dataset.id ∧ v.versionNumber = versionNumber
      pure (versionRecord version dataset.name))
    (notFound "DatasetVersion does not exist.")

def getManifest (versionId : UUID) : Tx Manifest := do
  let version ← fetch (fun s => s.db.versions.get? versionId)
    (notFound "DatasetVersion does not exist.")
  ofExcept (Manifest.fromCanonicalBytes version.manifestBytes)

/-- Some failure code of the Version's Blobs; the query does not order them. -/
def blockingFailure (s : TxState) (versionId : UUID) : Option FailureCode :=
  let codes := (Migrations.entryBlobs s.db versionId).filterMap BlobModel.failureCode
  codes[s.pick % codes.length]?

/-- Derive progress from immutable entries and current Blob attestations. -/
def getStatus (versionId : UUID) : Tx VersionStatus := do
  let model ← fetch (fun s => s.db.versions.get? versionId)
    (notFound "DatasetVersion does not exist.")
  let dataset ← fetch (fun s => s.db.datasets.get? model.datasetId)
    (notFound "DatasetVersion does not exist.")
  let ready ← select fun s =>
    (Migrations.entryBlobs s.db versionId).filter fun b => b.state = .available
  let available := (ready.map fun b => (b.id, b.sizeBytes)).dedup
  let blocking ← select fun s => blockingFailure s versionId
  let snapshot ← ofExcept (SnapshotStatus.make model.fileCount model.logicalBytes
    ready.length (ready.map BlobModel.sizeBytes).sum)
  let content ← ofExcept (ContentStatus.make model.uniqueBlobCount model.uniqueBlobBytes
    available.length (available.map Prod.snd).sum)
  pure ⟨versionRecord model dataset.name, snapshot, content, blocking⟩

def getDownloadEntry (versionId : UUID) (manifestOrdinal : Nat) : Tx (Option ManifestEntry) :=
  select fun s => do
    let entry ← s.db.entries.rows.find? fun e =>
      e.datasetVersionId = versionId ∧ e.manifestOrdinal = manifestOrdinal
    let blob ← s.db.blobs.get? entry.blobId
    pure ⟨entry.relativePath, blob.sizeBytes, blob.sha256⟩

end Store

end RoboLake
