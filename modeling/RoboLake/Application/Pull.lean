import RoboLake.Application.Downloads
import RoboLake.Application.Status
import RoboLake.Application.Transfers
import RoboLake.Foundation.Acting

/-! # Pulls

The service answers for one manifest ordinal at a time. The pull workflow follows its
cursors in step with the manifest, and publishes only what it has placed completely.
-/

namespace RoboLake

open Foundation Store

variable [Platform]

/-! ## Download capabilities -/

structure DownloadItem where
  entry : ManifestEntry
  request : PresignedRequest

/-- At most one download capability and its navigation state. -/
structure DownloadCapability where
  item : Option DownloadItem
  nextCursor : Option PyStr
  complete : Bool

abbrev SignGet := (objectKey : List Char) → (expiresSeconds : Nat) → String

def presignGet (sign : SignGet) (objectKey : List Char) (expiresSeconds : Nat) :
    PresignedRequest where
  url := sign objectKey expiresSeconds
  headers := []

/-- The ordinal that a cursor names, `0` without one. -/
def cursorOrdinal (cursor : Option PyStr) (versionId : UUID) (fileCount : Nat) :
    Except Failure Int :=
  match cursor with
  | none => .ok 0
  | some cursor => decodeCursor cursor versionId fileCount

/-- The cursor of the next ordinal, unless the last one has been reached. -/
def nextCursorAfter (versionId : UUID) (ordinal : Int) (fileCount : Nat) :
    Except Failure (Option PyStr) :=
  if ordinal + 1 < fileCount then (encodeCursor versionId (ordinal + 1)).map some else .ok none

/-- Issue at most one fresh GET capability for one immutable manifest ordinal. -/
def TransferService.downloadPlan (service : TransferService) (signGet : SignGet)
    (versionId : UUID) (cursor : Option PyStr) : Served DownloadCapability := do
  let status ← Served.call (getStatus versionId)
  if status.version.state ≠ .ready then
    throw (.domain (.illegalTransition "Only READY DatasetVersions can be downloaded."))
  else if status.version.fileCount = 0 then
    if cursor ≠ none then
      throw (.domain (.invalidCursor "Empty DatasetVersion has no download cursor."))
    else pure ⟨none, none, true⟩
  else do
    let ordinal ← MonadExcept.ofExcept (cursorOrdinal cursor versionId status.version.fileCount)
    let entry ← Served.call (getDownloadEntry versionId ordinal.toNat)
    match entry with
    | none => throw (.domain
        (.invalidCursor "Download cursor does not resolve to a manifest entry."))
    | some entry => do
        let nextCursor ← MonadExcept.ofExcept
          (nextCursorAfter versionId ordinal status.version.fileCount)
        let request := presignGet signGet (objectKeyFor entry.sha256) service.presignedUrlTtlSeconds
        pure ⟨some ⟨entry, request⟩, nextCursor, nextCursor.isNone⟩

/-! ## The workflow -/

structure PullControlPlane (M : Type → Type) where
  resolve : DatasetReference → M VersionRecord
  manifest : UUID → M Manifest
  downloadPlan : UUID → Option PyStr → M DownloadCapability

/-- The registry and transfer services as the control plane of a pull. -/
def TransferService.pullPlane (service : TransferService) (signGet : SignGet) :
    PullControlPlane (Acting Failure Scene) where
  resolve reference := Served.call (resolveVersion reference.dataset reference.versionNumber)
  manifest versionId := Served.call (getManifest versionId)
  downloadPlan := service.downloadPlan signGet

/-- `TreeDownloaderPort` for one output path, with its handles and its published path. -/
structure TreePort (ι ω : Type) (M : Type → Type) where
  start : Manifest → M Unit
  prepare : ManifestEntry → M ι
  write : ι → DownloadItem → M Unit
  commit : M ω
  abort : M Unit

structure PullResult (ω : Type) where
  reference : DatasetReference
  output : ω
  materializedFileCount : Nat
  materializedBytes : Nat

namespace PullWorkflow

variable {ι ω : Type} {M : Type → Type} [Monad M] [MonadExceptOf Failure M]

omit [Platform] in
def mismatch (message : String) : Failure := .domain (.manifestMismatch message)

/-- Check one capability against the manifest entry and ordinal it should answer for. -/
def checkCapability (manifest : Manifest) (expected : ManifestEntry) (ordinal : Nat)
    (capability : DownloadCapability) : Except Failure DownloadItem :=
  match capability.item with
  | none => .error
      (mismatch "Download capability does not match the expected manifest ordinal.")
  | some item =>
      let isLast : Bool := ordinal + 1 = manifest.fileCount
      if item.entry ≠ expected then
        .error (mismatch "Download capability does not match the expected manifest ordinal.")
      else if capability.complete ≠ isLast then
        .error (mismatch "Download capability completion marker is invalid.")
      else if isLast = true ∧ capability.nextCursor ≠ none then
        .error (mismatch "Final download capability has an extra cursor.")
      else if isLast = false ∧ capability.nextCursor = none then
        .error (mismatch "Download capability omitted the next cursor.")
      else .ok item

/-- Prepare, download and place one entry; the next cursor follows. -/
def pullEntry (plane : PullControlPlane M) (tree : TreePort ι ω M) (versionId : UUID)
    (manifest : Manifest) (cursor : Option PyStr) (expected : ManifestEntry × Nat) :
    M (Option PyStr) := do
  let prepared ← tree.prepare expected.1
  let capability ← plane.downloadPlan versionId cursor
  let item ← MonadExcept.ofExcept (checkCapability manifest expected.1 expected.2 capability)
  tree.write prepared item
  pure capability.nextCursor

/-- Build the tree of a manifest and publish it. -/
def build (plane : PullControlPlane M) (tree : TreePort ι ω M) (versionId : UUID)
    (manifest : Manifest) : M ω := do
  tree.start manifest
  let _ ← manifest.entries.zipIdx.foldlM (pullEntry plane tree versionId manifest) none
  tree.commit

def checkManifest (version : VersionRecord) (manifest : Manifest) : Except Failure Unit :=
  if manifest.sha256 ≠ version.manifestSha256 then
    .error (mismatch "Stored manifest does not match the DatasetVersion.")
  else if manifest.fileCount ≠ version.fileCount ∨
      manifest.logicalBytes ≠ version.logicalBytes ∨
      manifest.uniqueBlobCount ≠ version.uniqueBlobCount ∨
      manifest.uniqueBlobBytes ≠ version.uniqueBlobBytes then
    .error (mismatch "Stored manifest totals do not match the DatasetVersion.")
  else .ok ()

/-- Materialize one capability at a time and publish only the complete tree. -/
def run (plane : PullControlPlane M) (tree : TreePort ι ω M) (reference : DatasetReference) :
    M (PullResult ω) := do
  let version ← plane.resolve reference
  if version.state ≠ .ready then
    throw (.domain (.illegalTransition "Only READY DatasetVersions can be pulled."))
  else do
    let manifest ← plane.manifest version.id
    MonadExcept.ofExcept (checkManifest version manifest)
    let output ← tryCatch (build plane tree version.id manifest) fun e => do
      tree.abort
      throw e
    pure ⟨version.reference, output, manifest.fileCount, manifest.logicalBytes⟩

end PullWorkflow

end RoboLake
