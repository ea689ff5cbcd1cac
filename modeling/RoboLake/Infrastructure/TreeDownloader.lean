import RoboLake.Infrastructure.AtomicTree
import RoboLake.Infrastructure.HttpTransfer

/-! # Reconstruction over a file system

`AtomicTreeDownloader` acts on the operating system, which is a parameter: any call may
fail before it does anything, a write may take any part of its bytes, and an answer may
end anywhere. The staging directory changes only as the downloader changes it, on a file
system that tells all names apart.
-/

namespace RoboLake

open Foundation Acting

/-! ## The operating system -/

/-- The calls whose answers the downloader does not read. -/
inductive SystemCall
  | chmod | close | fsync | lstat | mkdir | openExclusive | publish | rename | resolve | rmtree
  | unlink

inductive PathKind
  | directory | other

/-- The paths outside of staging whose kinds are read. -/
inductive Place
  | outputParent (depth : Nat)
  | staging

structure System (σ : Type) where
  /-- The number of components of the output's parent below its anchor. -/
  parentDepth : Nat
  call : SystemCall → Acting Failure σ Unit
  lstat : Place → Acting Failure σ (Option PathKind)
  sameParent : Acting Failure σ Bool
  uuid4 : Acting Failure σ UUID
  write : Nat → Acting Failure σ Nat
  stream : PresignedRequest → Acting Failure σ (Except ClientFailure StreamedResponse)

variable [Platform]

/-- What stands at the output path, and the fields of the downloader: its staging directory with
all that is in it, whether the parent of that is recorded, and the downloads it has prepared and
completed. -/
structure TreeState where
  output : Option (FileTree PyStr Bytes) := none
  staging : Option (FileTree PyStr Bytes) := none
  stagingParent : Bool := false
  manifest : Option Manifest := none
  prepared : List (UUID × PreparedState) := []
  completed : List PyStr := []
  descriptorOpen : Bool := false

namespace AtomicTreeDownloader

variable {σ : Type}

abbrev Step (σ α : Type) := Acting Failure (σ × TreeState) α

omit [Platform] in
def contentConflict (message : String) : Failure := .domain (.contentConflict message)

omit [Platform] in
def unsafePath (message : String) : Failure := .domain (.unsafePath message)

def update (f : TreeState → TreeState) : Step σ Unit := do
  let s ← own
  setOwn (f s)

def active : Step σ TreeDownload := do
  let s ← own
  match s.staging, s.manifest with
  | some staging, some manifest => pure ⟨manifest, staging, s.prepared, s.completed⟩
  | _, _ => throw (contentConflict "No tree download is active.")

variable (sys : System σ)

/-! ## Beginning -/

/-- `_require_existing_non_symlink_directory`, over the first components of the path. -/
def requireExistingDirectory : Nat → Step σ Unit
  | 0 => pure ()
  | depth + 1 => do
      requireExistingDirectory depth
      match ← outside (sys.lstat (.outputParent depth)) with
      | none => throw (unsafePath "Output parent directory does not exist.")
      | some .other => throw (unsafePath "Output parent must contain no symlink components.")
      | some .directory => pure ()

/-- Validate the complete manifest/output before creating private staging. -/
def start (manifest : Manifest) : Step σ Unit := do
  let s ← own
  if s.staging.isSome then throw (contentConflict "A tree download is already active.")
  else do
    let canonical ← MonadExcept.ofExcept (Manifest.fromCanonicalBytes manifest.canonicalBytes)
    if canonical.sha256 ≠ manifest.sha256 then
      throw (PullWorkflow.mismatch "Manifest digest does not match its canonical bytes.")
    else do
      requireExistingDirectory sys sys.parentDepth
      outside (sys.call .lstat)
      let s ← own
      if s.output.isSome then
        throw (.domain (.outputExists "Output already exists; it will not be replaced."))
      else do
        let _ ← outside sys.uuid4
        outside (sys.call .mkdir)
        outside (sys.call .chmod)
        update fun s => { s with staging := some FileTree.empty }
        outside (sys.call .resolve)
        update fun s => { s with
          stagingParent := true
          manifest := some canonical
          prepared := []
          completed := [] }

/-! ## Preparing -/

def makePrivateParents : List PyStr → List PyStr → Step σ Unit
  | _, [] => pure ()
  | current, part :: parts => do
      outside (sys.call .lstat)
      let d ← active
      match FileTree.find id d.staging (current ++ [part]) with
      | some (_, .dir) => makePrivateParents (current ++ [part]) parts
      | some (_, .file _) =>
          throw (unsafePath "Staging path contains an unsafe parent component.")
      | none => do
          outside (sys.call .mkdir)
          let staging ← MonadExcept.ofExcept
            (osCall (FileTree.add id d.staging current part .dir))
          update fun s => { s with staging := some staging }
          makePrivateParents (current ++ [part]) parts

/-- Create the safe parent and exclusive temporary file before URL issuance. -/
def prepare (entry : ManifestEntry) : Step σ UUID := do
  let d ← active
  if entry ∉ d.manifest.entries then
    throw (PullWorkflow.mismatch "Prepared entry is not part of the active manifest.")
  else do
    makePrivateParents sys [] (parentPath entry)
    let token ← outside sys.uuid4
    outside (sys.call .openExclusive)
    let d ← active
    let part := partName (finalName entry) token
    let staging ← MonadExcept.ofExcept
      (osCall (FileTree.add id d.staging (parentPath entry) part (.file [])))
    update fun s => { s with
      staging := some staging
      prepared := d.prepared.filter (fun p => p.1 ≠ token) ++
        [(token, ⟨entry, parentPath entry, part, finalName entry⟩)] }
    pure token

/-! ## Writing -/

def descriptor (path : List PyStr) : Descriptor (σ × TreeState) where
  write view := do
    let answered ← outside (sys.write view.length)
    let written := min (max answered 1) view.length
    update fun s => { s with
      staging := s.staging.map fun t => FileTree.extend id t path (view.take written) }
    pure written
  fsync := outside (sys.call .fsync)

/-- Download into the part file, and place it within staging. -/
def place (state : PreparedState) (item : DownloadItem) : Step σ Unit := do
  downloadTo (fun request => outside (sys.stream request))
    (descriptor sys (state.parent ++ [state.partName])) item
  outside (sys.call .close)
  update fun s => { s with descriptorOpen := false }
  outside (sys.call .rename)
  let d ← active
  let staging ← MonadExcept.ofExcept
    (osCall (FileTree.move id d.staging state.parent state.partName state.finalName))
  update fun s => { s with
    staging := some staging
    completed := s.completed ++ [state.entry.relativePath.value] }

def unlinkPart (state : PreparedState) : Step σ Unit := do
  outside (sys.call .unlink)
  update fun s => { s with
    staging := s.staging.map fun t => FileTree.erase id t (state.parent ++ [state.partName]) }

/-- Close what is open and remove the part file, before the error goes on. -/
def undo (state : PreparedState) (e : Failure) : Step σ Unit := do
  let s ← own
  if s.descriptorOpen then
    outside (sys.call .close)
    update fun s => { s with descriptorOpen := false }
  unlinkPart sys state
  throw e

/-- Verify one GET into its part file, then atomically place it within staging. -/
def write (token : UUID) (item : DownloadItem) : Step σ Unit := do
  let s ← own
  match s.prepared.lookup token with
  | none => throw (contentConflict "Prepared download handle is not active.")
  | some state =>
      if item.entry ≠ state.entry then
        throw (PullWorkflow.mismatch
          "Download item differs from its prepared manifest entry.")
      else do
        let forget : Step σ Unit := update fun s =>
          { s with prepared := s.prepared.filter fun p => p.1 ≠ token }
        update fun s => { s with descriptorOpen := true }
        tryCatch (tryCatch (place sys state item) (undo sys state)) fun e => do
          forget
          throw e
        forget

/-! ## Publishing -/

/-- Publish exactly one complete staged tree using the platform primitive. -/
def commit : Step σ Unit := do
  let d ← active
  let tree ← MonadExcept.ofExcept d.commit
  outside (sys.call .publish)
  let s ← own
  if s.output.isSome then
    throw (.domain (.outputExists "Output already exists; it was not replaced."))
  else update fun s => { s with output := some tree, staging := none }

def abandon : List (UUID × PreparedState) → Step σ Unit
  | [] => pure ()
  | p :: rest => do
      outside (sys.call .close)
      unlinkPart sys p.2
      abandon rest

/-- Remove only the recorded generated staging sibling without following links. -/
def abort : Step σ Unit := do
  let s ← own
  abandon sys s.prepared
  update fun s => { s with prepared := [] }
  if s.staging.isNone ∨ s.stagingParent = false then pure ()
  else do
    let same ← outside sys.sameParent
    if same = false then
      throw (unsafePath "Refusing to clean an unrecognized staging directory.")
    else
      match ← outside (sys.lstat .staging) with
      | none => update fun s => { s with staging := none }
      | some .other => throw (unsafePath "Refusing to clean an unsafe staging path.")
      | some .directory => do
          outside (sys.call .rmtree)
          update fun s => { s with staging := none }

def port : TreePort UUID Unit (Acting Failure (σ × TreeState)) where
  start := start sys
  prepare := prepare sys
  write := write sys
  commit := commit sys
  abort := abort sys

end AtomicTreeDownloader

def System.outside {σ τ : Type} (sys : System σ) : System (σ × τ) where
  parentDepth := sys.parentDepth
  call c := Acting.outside (sys.call c)
  lstat p := Acting.outside (sys.lstat p)
  sameParent := Acting.outside sys.sameParent
  uuid4 := Acting.outside sys.uuid4
  write n := Acting.outside (sys.write n)
  stream request := Acting.outside (sys.stream request)

def PullControlPlane.inside {σ τ : Type} (plane : PullControlPlane (Acting Failure τ)) :
    PullControlPlane (Acting Failure (σ × τ)) where
  resolve reference := Acting.inside (plane.resolve reference)
  manifest versionId := Acting.inside (plane.manifest versionId)
  downloadPlan versionId cursor := Acting.inside (plane.downloadPlan versionId cursor)

/-- The control plane acts on the world outside of the downloader. -/
def PullControlPlane.outside {σ : Type} (plane : PullControlPlane (Acting Failure σ)) :
    PullControlPlane (Acting Failure (σ × TreeState)) where
  resolve reference := Acting.outside (plane.resolve reference)
  manifest versionId := Acting.outside (plane.manifest versionId)
  downloadPlan versionId cursor := Acting.outside (plane.downloadPlan versionId cursor)

end RoboLake
