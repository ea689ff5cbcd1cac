import RoboLake.Domain.Records
import RoboLake.Domain.References

/-! # The status on the wire

The API answers a status request with one JSON object, and the client reads a status
out of it again. The libraries that write and read the JSON text are inverse on these
values, so the object is the wire.
-/

namespace RoboLake

open Foundation

/-! ## Stored spellings -/

def FailureCode.str : FailureCode → String
  | storedObjectMismatch => "STORED_OBJECT_MISMATCH"

def NextAction.str : NextAction → String
  | none => "NONE" | retryPush => "RETRY_PUSH" | retryStatus => "RETRY_STATUS"
  | contactOperator => "CONTACT_OPERATOR"

def memberOf {α : Type} (members : List α) (str : α → String) (value : String) :
    Except Failure α :=
  match members.find? fun a => str a = value with
  | some a => .ok a
  | none => .error .valueError

def VersionState.ofValue : String → Except Failure VersionState :=
  memberOf [draft, uploading, verifying, ready, failed] str

def FailureCode.ofValue : String → Except Failure FailureCode :=
  memberOf [storedObjectMismatch] str

theorem VersionState.ofValue_str (state : VersionState) : ofValue state.str = .ok state := by
  cases state <;> decide

theorem FailureCode.ofValue_str (code : FailureCode) : ofValue code.str = .ok code := by
  cases code
  decide

/-! ## Responses -/

structure VersionResponse where
  id : List Char
  datasetId : List Char
  reference : PyStr
  manifestSha256 : List Char
  state : String
  fileCount : Nat
  logicalBytes : Nat
  uniqueBlobCount : Nat
  uniqueBlobBytes : Nat
  isEmpty : Bool

structure SnapshotStatusResponse where
  fileCount : Nat
  logicalBytes : Nat
  readyFileCount : Nat
  readyLogicalBytes : Nat
  completionPercent : Option Float

structure ContentStatusResponse where
  uniqueBlobCount : Nat
  uniqueBlobBytes : Nat
  availableBlobCount : Nat
  availableBlobBytes : Nat
  completionPercent : Option Float

structure VersionStatusResponse extends VersionResponse where
  snapshot : SnapshotStatusResponse
  content : ContentStatusResponse
  failureCode : Option String
  failureDetail : Option String
  nextAction : String

variable [Platform]

def VersionRecord.reference (record : VersionRecord) : DatasetReference :=
  ⟨record.datasetName, record.versionNumber⟩

/-- Completion of a total, with READY empty defined as complete. -/
def completionPercent (state : VersionState) (total done : Nat) : Option Float :=
  if total = 0 then if state = .ready then some 100 else none
  else some (done.toFloat / total.toFloat * 100)

def versionResponse (record : VersionRecord) : VersionResponse where
  id := record.id.str
  datasetId := record.datasetId.str
  reference := record.reference.str
  manifestSha256 := record.manifestSha256.value
  state := record.state.str
  fileCount := record.fileCount
  logicalBytes := record.logicalBytes
  uniqueBlobCount := record.uniqueBlobCount
  uniqueBlobBytes := record.uniqueBlobBytes
  isEmpty := record.fileCount == 0

def statusResponse (value : VersionStatus) : VersionStatusResponse where
  toVersionResponse := versionResponse value.version
  snapshot := {
    fileCount := value.snapshot.fileCount
    logicalBytes := value.snapshot.logicalBytes
    readyFileCount := value.snapshot.readyFileCount
    readyLogicalBytes := value.snapshot.readyLogicalBytes
    completionPercent := completionPercent value.version.state value.snapshot.fileCount
      value.snapshot.readyFileCount }
  content := {
    uniqueBlobCount := value.content.uniqueBlobCount
    uniqueBlobBytes := value.content.uniqueBlobBytes
    availableBlobCount := value.content.availableBlobCount
    availableBlobBytes := value.content.availableBlobBytes
    completionPercent := completionPercent value.version.state value.content.uniqueBlobCount
      value.content.availableBlobCount }
  failureCode := value.version.failureCode.map FailureCode.str
  failureDetail := value.version.failureDetail
  nextAction := value.nextAction.str

/-! ## The client -/

namespace ApiClient

variable [TextReaders]

/-- Present a malformed value as a protocol error; domain errors pass. -/
def orProtocol {α : Type} (message : String) : Except Failure α → Except Failure α
  | .error .valueError => .error (.domain (.apiProtocol message))
  | x => x

def uuidOf (text : List Char) : Except Failure UUID :=
  match readUuid text with
  | some id => .ok id
  | none => .error .valueError

def failureCodeOf : Option String → Except Failure (Option FailureCode)
  | some value => some <$> FailureCode.ofValue value
  | none => .ok none

/-- `_version`: the Version of a response, with the failure a status response adds. -/
def version (payload : VersionResponse) (failureCode failureDetail : Option String) :
    Except Failure VersionRecord :=
  orProtocol "RoboLake API returned an invalid Version response." do
    let reference ← DatasetReference.parse payload.reference
    let id ← uuidOf payload.id
    let datasetId ← uuidOf payload.datasetId
    let manifestSha256 ← Sha256Digest.parse payload.manifestSha256
    let state ← VersionState.ofValue payload.state
    let failureCode ← failureCodeOf failureCode
    pure {
      id := id
      datasetId := datasetId
      datasetName := reference.dataset
      versionNumber := reference.versionNumber
      manifestSha256 := manifestSha256
      state := state
      fileCount := payload.fileCount
      logicalBytes := payload.logicalBytes
      uniqueBlobCount := payload.uniqueBlobCount
      uniqueBlobBytes := payload.uniqueBlobBytes
      failureCode := failureCode
      failureDetail := failureDetail }

/-- Read a status; the failure of the Version is taken for the blocking one. -/
def status (payload : VersionStatusResponse) : Except Failure VersionStatus :=
  orProtocol "RoboLake API returned an invalid status response." do
    let version ← version payload.toVersionResponse payload.failureCode payload.failureDetail
    let snapshot ← SnapshotStatus.make payload.snapshot.fileCount payload.snapshot.logicalBytes
      payload.snapshot.readyFileCount payload.snapshot.readyLogicalBytes
    let content ← ContentStatus.make payload.content.uniqueBlobCount
      payload.content.uniqueBlobBytes payload.content.availableBlobCount
      payload.content.availableBlobBytes
    let blocking ← failureCodeOf payload.failureCode
    pure ⟨version, snapshot, content, blocking⟩

/-! ## Round trips -/

omit [Platform] [TextReaders] in
theorem failureCodeOf_str (code : Option FailureCode) :
    failureCodeOf (code.map FailureCode.str) = .ok code := by
  cases code with
  | none => rfl
  | some code =>
      change some <$> FailureCode.ofValue code.str = .ok (some code)
      rw [FailureCode.ofValue_str]
      rfl

omit [Platform] in
theorem uuidOf_str (id : UUID) : uuidOf id.str = .ok id := by
  unfold uuidOf
  rw [readUuid_str]

theorem version_versionResponse {record : VersionRecord} (hpos : 0 < record.versionNumber)
    (hlt : record.versionNumber < 2 ^ 63) :
    version (versionResponse record) (record.failureCode.map FailureCode.str)
      record.failureDetail = .ok record := by
  unfold version versionResponse
  have hreference : DatasetReference.parse record.reference.str = .ok record.reference :=
    DatasetReference.parse_str hpos hlt
  simp only [hreference, uuidOf_str, Sha256Digest.parse_value, VersionState.ofValue_str,
    failureCodeOf_str]
  rfl

/-- A status survives the wire but for its blocking failure: the client shows the Version's. -/
theorem status_statusResponse {value : VersionStatus} (hpos : 0 < value.version.versionNumber)
    (hlt : value.version.versionNumber < 2 ^ 63) :
    status (statusResponse value) =
      .ok { value with blockingFailureCode := value.version.failureCode } := by
  have hversion : version (versionResponse value.version)
      (value.version.failureCode.map FailureCode.str) value.version.failureDetail =
        .ok value.version := version_versionResponse hpos hlt
  unfold status statusResponse
  simp only [hversion, SnapshotStatus.make_of_le value.snapshot.count_le value.snapshot.bytes_le,
    ContentStatus.make_of_le value.content.count_le value.content.bytes_le, failureCodeOf_str]
  rfl

end ApiClient

end RoboLake
