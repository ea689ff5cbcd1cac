import RoboLake.Application.Pull
import RoboLake.Application.Push
import RoboLake.Application.Routes

/-! # The HTTP API

A route validates the fields of its request, calls the services and answers with one JSON
object or with the envelope of an error. The framework reads the identifiers of a path
back, and the objects are the wire.
-/

namespace RoboLake

open Foundation

/-! ## Errors -/

structure ErrorResponse where
  status : Nat
  code : String
  message : String
  nextAction : Option String := none
  deriving DecidableEq, Repr

def RoboLakeError.isValidation : RoboLakeError → Bool
  | invalidCursor _ | invalidDatasetName _ | invalidDatasetReference _ | invalidDigest _
  | manifestMismatch _ | pathCollision _ | sourceChanged _ | unsafeFileType _ | unsafePath _
  | unsupportedFileSize _ _ | unsupportedPlatform _ => true
  | _ => false

def RoboLakeError.isConflict : RoboLakeError → Bool
  | contentConflict _ | idempotencyConflict _ | illegalTransition _ | storedObjectMismatch _
  | uploadConflict _ => true
  | _ => false

def domainResponse (error : RoboLakeError) : ErrorResponse :=
  match error with
  | .notFound _ => ⟨404, error.code, "Requested RoboLake resource was not found.", none⟩
  | .storedObjectMismatch _ => ⟨409, error.code,
      "Stored object does not match its immutable content address.", some "CONTACT_OPERATOR"⟩
  | .uploadConflict _ =>
      ⟨409, error.code, "Upload outcome is not visible yet; rerun push.", some "RETRY_PUSH"⟩
  | _ =>
      if error.isValidation then ⟨422, error.code, error.str, none⟩
      else if error.isConflict then ⟨409, error.code, error.str, none⟩
      else ⟨409, error.code, "RoboLake operation could not be completed safely.", none⟩

/-- The exception handlers of the application. -/
def errorResponse : Failure → ErrorResponse
  | .domain error => domainResponse error
  | .storage _ =>
      ⟨502, "OBJECT_STORAGE_UNAVAILABLE", "Object storage request failed.", some "RETRY_PUSH"⟩
  | .database _ =>
      ⟨503, "REGISTRY_UNAVAILABLE", "Registry database is unavailable.", some "RETRY_PUSH"⟩
  | _ => ⟨500, "INTERNAL_ERROR", "Unexpected server error.", none⟩

def invalidRequest : ErrorResponse := ⟨422, "INVALID_REQUEST", "Request fields are invalid.", none⟩

/-! ## Requests -/

def hasLength {α : Type} (least greatest : Nat) (value : List α) : Bool :=
  least ≤ value.length ∧ value.length ≤ greatest

/-- The body of a registration, before its fields are validated. -/
structure ManifestPayload where
  schemaVersion : Int
  entries : List (PyStr × Int × PyStr)

/-- The fields of one entry as the schema accepts them. -/
def ManifestEntryRequest.validate (fields : PyStr × Int × PyStr) : Option ManifestEntryRequest :=
  if h : (1 ≤ fields.1.length ∧ fields.1.length ≤ 1024) ∧ 0 ≤ fields.2.1 ∧
      fields.2.2.length = 64 then
    some ⟨fields.1, fields.2.1, fields.2.2, h.1, h.2.1, h.2.2⟩
  else none

/-- The body of a registration as the schema accepts it. -/
def ManifestRegisterRequest.validate (payload : ManifestPayload) :
    Option ManifestRegisterRequest := do
  let entries ← payload.entries.mapM ManifestEntryRequest.validate
  if h : payload.schemaVersion = 1 ∧ entries.length ≤ 100000 then
    some ⟨payload.schemaVersion, entries, h.1, h.2⟩
  else none

/-! ## Responses -/

structure DatasetResponse where
  id : List Char
  name : PyStr

structure UploadPreparationResponse where
  version : VersionResponse
  blobSha256 : List Char
  sizeBytes : Nat
  available : Bool
  sessionId : Option (List Char)

structure DownloadEntryResponse where
  relativePath : PyStr
  sizeBytes : Nat
  sha256 : List Char

structure DownloadItemResponse where
  entry : DownloadEntryResponse
  request : PresignedRequest

structure DownloadCapabilityResponse where
  item : Option DownloadItemResponse
  nextCursor : Option PyStr
  complete : Bool

variable [Platform]

def preparationResponse (value : UploadPreparation) : UploadPreparationResponse where
  version := versionResponse value.version
  blobSha256 := value.blobSha256.value
  sizeBytes := value.sizeBytes
  available := value.available
  sessionId := value.sessionId.map UUID.str

def downloadItemResponse (item : DownloadItem) : DownloadItemResponse where
  entry := {
    relativePath := item.entry.relativePath.value
    sizeBytes := item.entry.sizeBytes
    sha256 := item.entry.sha256.value }
  request := item.request

def downloadResponse (value : DownloadCapability) : DownloadCapabilityResponse where
  item := value.item.map downloadItemResponse
  nextCursor := value.nextCursor
  complete := value.complete

/-! ## Routes -/

namespace Api

variable {α τ : Type}

omit [Platform] in
/-- A route behind the exception handlers. -/
def handled (route : Acting Failure τ α) : Acting ErrorResponse τ α := fun s =>
  ((route s).1.mapError errorResponse, (route s).2)

omit [Platform] in
/-- A route is entered with valid fields only. -/
def validated (valid : Bool) (route : Acting Failure τ α) : Acting ErrorResponse τ α :=
  if valid then handled route else throw invalidRequest

section Pushes

variable (services : ControlPlane (Acting Failure τ))

def createDataset (name idempotencyKey : PyStr) : Acting ErrorResponse τ DatasetResponse :=
  validated (hasLength 1 255 name && hasLength 1 255 idempotencyKey) do
    let name ← MonadExcept.ofExcept (DatasetName.parse name)
    let record ← services.createDataset name idempotencyKey
    pure ⟨record.id.str, record.name.value⟩

def registerVersion (datasetId : UUID) (payload : ManifestPayload) (idempotencyKey : PyStr) :
    Acting ErrorResponse τ VersionResponse :=
  match ManifestRegisterRequest.validate payload with
  | none => throw invalidRequest
  | some request =>
      validated (hasLength 1 255 idempotencyKey) do
        let manifest ← MonadExcept.ofExcept request.manifest
        let record ← services.registerVersion datasetId manifest idempotencyKey
        pure (versionResponse record)

def prepareUpload (versionId : UUID) (sha256 : List Char) (idempotencyKey : PyStr) :
    Acting ErrorResponse τ UploadPreparationResponse :=
  validated (hasLength 64 64 sha256 && hasLength 1 255 idempotencyKey) do
    let digest ← MonadExcept.ofExcept (Sha256Digest.parse sha256)
    let preparation ← services.prepareUpload versionId digest idempotencyKey
    pure (preparationResponse preparation)

def issueUploadUrl (sessionId : UUID) : Acting ErrorResponse τ PresignedRequest :=
  handled (services.uploadUrl sessionId)

def completeUpload (sessionId : UUID) (etag : Option String) :
    Acting ErrorResponse τ UploadPreparationResponse :=
  validated (etag.all fun etag => etag.length ≤ 1024) do
    let preparation ← services.completeUpload sessionId etag
    pure (preparationResponse preparation)

def finalizeVersion (versionId : UUID) : Acting ErrorResponse τ VersionResponse :=
  handled do
    let record ← services.finalize versionId
    pure (versionResponse record)

end Pushes

section Pulls

variable (services : PullControlPlane (Acting Failure τ))

def resolveVersion (dataset : PyStr) (version : Int) : Acting ErrorResponse τ VersionResponse :=
  validated (hasLength 1 255 dataset && 1 ≤ version) do
    let name ← MonadExcept.ofExcept (DatasetName.parse dataset)
    let record ← services.resolve ⟨name, version.toNat⟩
    pure (versionResponse record)

def versionManifest (versionId : UUID) : Acting ErrorResponse τ Bytes :=
  handled do
    let manifest ← services.manifest versionId
    pure manifest.canonicalBytes

def downloadPlan (versionId : UUID) (cursor : Option PyStr) :
    Acting ErrorResponse τ DownloadCapabilityResponse :=
  validated (cursor.all (hasLength 0 128)) do
    let capability ← services.downloadPlan versionId cursor
    pure (downloadResponse capability)

end Pulls

end Api

end RoboLake
