import RoboLake.Application.Api
import RoboLake.Infrastructure.HttpTransfer

/-! # The API client

The client sends one request for each call of the control plane and reads the answer back.
A request may get lost on its way, and so may the answer of a request that the API has
handled: the network decides.
-/

namespace RoboLake

open Foundation

/-- What becomes of one request. An answer that no route gave comes with the code of its envelope,
where it has one. -/
inductive Delivery
  | lost (failure : ClientFailure)
  | unanswered (failure : ClientFailure)
  | intercepted (code : Option String)
  | answered

abbrev Network (ν : Type) := ν → Delivery × ν

namespace ApiClient

variable {ν τ α : Type}

/-! ## Requests -/

def unavailable : RoboLakeError :=
  .apiUnavailable "RoboLake API is unavailable; retry the command."

def safeErrors : List (String × RoboLakeError) := [
  ("UPLOAD_CONFLICT", .uploadConflict "Upload outcome is not visible; rerun push."),
  ("STORED_OBJECT_MISMATCH",
    .storedObjectMismatch "Stored object requires operator inspection."),
  ("NOT_FOUND", .notFound "Requested RoboLake resource was not found."),
  ("IDEMPOTENCY_CONFLICT",
    .idempotencyConflict "Idempotency key conflicts with an earlier request."),
  ("CONTENT_CONFLICT",
    .contentConflict "RoboLake content identity conflicts with stored state."),
  ("ILLEGAL_TRANSITION",
    .illegalTransition "RoboLake resource is not in a valid state for this operation.")]

def apiError : Option String → RoboLakeError
  | none => .apiProtocol "RoboLake API returned an invalid error response."
  | some code =>
      match safeErrors.lookup code with
      | some error => error
      | none => .apiProtocol "RoboLake API returned an unsupported error code."

def deliver (network : Network ν) : Acting Failure ν Delivery := fun n =>
  (.ok (network n).1, (network n).2)

def request (network : Network ν) (route : Acting ErrorResponse τ α) :
    Acting Failure (ν × τ) α := do
  match ← Acting.outside (deliver network) with
  | .lost failure => throw (failure.raised unavailable)
  | .unanswered failure =>
      let _ ← Acting.inside (Acting.attempt route)
      throw (failure.raised unavailable)
  | .intercepted code => throw (.domain (apiError code))
  | .answered =>
      match ← Acting.inside (Acting.attempt route) with
      | .ok payload => pure payload
      | .error response => throw (.domain (apiError (some response.code)))

/-! ## Payloads -/

variable [Platform]

def manifestPayload (manifest : Manifest) : ManifestPayload where
  schemaVersion := manifest.schemaVersion
  entries := manifest.entries.map fun entry =>
    (entry.relativePath.value, (entry.sizeBytes : Int), asciiText (asciiChars entry.sha256.value))

variable [TextReaders]

def dataset (payload : DatasetResponse) : Except Failure DatasetRecord :=
  orProtocol "RoboLake API returned an invalid Dataset response." do
    let id ← uuidOf payload.id
    let name ← DatasetName.parse payload.name
    pure ⟨id, name⟩

def sessionIdOf : Option (List Char) → Except Failure (Option UUID)
  | some value => some <$> uuidOf value
  | none => .ok none

def preparation (payload : UploadPreparationResponse) : Except Failure UploadPreparation :=
  orProtocol "RoboLake API returned an invalid upload response." do
    let version ← version payload.version none none
    let blobSha256 ← Sha256Digest.parse payload.blobSha256
    let sessionId ← sessionIdOf payload.sessionId
    pure {
      version := version
      blobSha256 := blobSha256
      sizeBytes := payload.sizeBytes
      available := payload.available
      sessionId := sessionId }

omit [TextReaders] in
def downloadItem (payload : DownloadItemResponse) : Except Failure DownloadItem := do
  let relativePath ← RelativePath.parse payload.entry.relativePath
  let sha256 ← Sha256Digest.parse payload.entry.sha256
  let entry ← ManifestEntry.make relativePath payload.entry.sizeBytes sha256
  pure ⟨entry, payload.request⟩

omit [TextReaders] in
def downloadItemOf : Option DownloadItemResponse → Except Failure (Option DownloadItem)
  | some item => some <$> downloadItem item
  | none => .ok none

omit [TextReaders] in
def downloadCapability (payload : DownloadCapabilityResponse) :
    Except Failure DownloadCapability :=
  orProtocol "RoboLake API returned an invalid download plan." do
    let item ← downloadItemOf payload.item
    pure ⟨item, payload.nextCursor, payload.complete⟩

/-! ## The control plane -/

/-- `RoboLakeApiClient` as the control plane of a push, in front of any services. -/
def pushPlane (network : Network ν) (services : ControlPlane (Acting Failure τ)) :
    ControlPlane (Acting Failure (ν × τ)) where
  createDataset name idempotencyKey := do
    let payload ← request network (Api.createDataset services name.value idempotencyKey)
    MonadExcept.ofExcept (dataset payload)
  registerVersion datasetId manifest idempotencyKey := do
    let payload ← request network
      (Api.registerVersion services datasetId (manifestPayload manifest) idempotencyKey)
    MonadExcept.ofExcept (version payload none none)
  prepareUpload versionId digest idempotencyKey := do
    let payload ← request network
      (Api.prepareUpload services versionId digest.value idempotencyKey)
    MonadExcept.ofExcept (preparation payload)
  uploadUrl sessionId := request network (Api.issueUploadUrl services sessionId)
  completeUpload sessionId etag := do
    let payload ← request network (Api.completeUpload services sessionId etag)
    MonadExcept.ofExcept (preparation payload)
  finalize versionId := do
    let payload ← request network (Api.finalizeVersion services versionId)
    MonadExcept.ofExcept (version payload none none)

/-- `RoboLakeApiClient` as the control plane of a pull, in front of any services. -/
def pullPlane (network : Network ν) (services : PullControlPlane (Acting Failure τ)) :
    PullControlPlane (Acting Failure (ν × τ)) where
  resolve reference := do
    let payload ← request network
      (Api.resolveVersion services reference.dataset.value reference.versionNumber)
    MonadExcept.ofExcept (version payload none none)
  manifest versionId := do
    let content ← request network (Api.versionManifest services versionId)
    MonadExcept.ofExcept (Manifest.fromCanonicalBytes content)
  downloadPlan versionId cursor := do
    let payload ← request network (Api.downloadPlan services versionId cursor)
    MonadExcept.ofExcept (downloadCapability payload)

end ApiClient

/-- A push whose control plane is reached through the API. -/
def PushWorkflow.overHttp [Platform] [TextReaders] {ρ ν τ : Type} (network : Network ν)
    (workflow : PushWorkflow ρ (Acting Failure τ)) : PushWorkflow ρ (Acting Failure (ν × τ)) where
  scan := Acting.inside workflow.scan
  controlPlane := ApiClient.pushPlane network workflow.controlPlane
  put localRef request entry := Acting.inside (workflow.put localRef request entry)
  progress event := Acting.inside (workflow.progress event)

end RoboLake
