import RoboLake.Application.Push

/-! # Scans of a directory

A scan walks a source tree by descriptors, reads every regular file once and builds the
manifest of what it read. What the operating system answers is a parameter, call by call:
other processes may change the tree while it is scanned.
-/

namespace RoboLake

open Foundation

/-! ## What the operating system answers -/

structure FileIdentity where
  device : Nat
  inode : Nat
  sizeBytes : Nat
  mtimeNs : Int
  deriving DecidableEq, Repr

structure LocalFileRef where
  root : PyStr
  rootIdentity : FileIdentity
  rawParts : List PyStr
  fileIdentity : FileIdentity
  deriving DecidableEq

inductive Errno
  | eloop | enotdir | enoent | other
  deriving DecidableEq

/-- The name no longer leads to a file of the expected kind. -/
def Errno.isUnsafe (errno : Errno) : Bool := errno = .eloop ∨ errno = .enotdir ∨ errno = .enoent

/-- One file from its opening to its closing: the answers of `fstat` before and after the read, the
chunks of the read, and whether a call on the descriptor raised in between. -/
structure FileReading where
  isRegular : Bool
  before : FileIdentity
  chunks : List Bytes
  raised : Bool := false
  after : FileIdentity

/-- One directory as `scandir` shows it, name by name, with what each name leads to. -/
inductive Listing
  | done
  | raised
  | vanished (name : PyStr)
  | symlink (name : PyStr)
  | special (name : PyStr)
  | refusedDirectory (name : PyStr) (errno : Errno)
  | directory (name : PyStr) (entries rest : Listing)
  | file (name : PyStr) (opened : Except Errno FileReading) (rest : Listing)

inductive FileKind
  | regular | directory | symlink | other
  deriving DecidableEq

/-- The source directory: its absolute path, its `lstat`, and what its opening answers. -/
structure SourceRoot where
  platformSupported : Bool := true
  root : PyStr
  lstat : Option (FileKind × FileIdentity)
  opened : Except Errno (FileIdentity × Listing)

/-! ## The scanner -/

def joinParts (rawParts : List PyStr) : PyStr := [slash].intercalate rawParts

/-- `iter_file_chunks`: the chunks up to the first empty one. -/
def iterFileChunks (chunks : List Bytes) : List Bytes := chunks.takeWhile (· ≠ [])

/-- `_open_directory`, and the opening of a file, with its message. -/
def requireOpened {α : Type} (message : String) : Except Errno α → Except Failure α
  | .ok value => .ok value
  | .error errno =>
      if errno.isUnsafe then .error (.domain (.unsafeFileType message)) else .error .osError

structure FileSystemScanner where
  maxSinglePutBytes : Nat := 5000000000

namespace FileSystemScanner

variable [Platform] (scanner : FileSystemScanner)

def scanFile (root : PyStr) (rootIdentity : FileIdentity) (rawParts : List PyStr)
    (opened : Except Errno FileReading) : Except Failure (ScannedFile LocalFileRef) := do
  let relative ← RelativePath.parse (joinParts rawParts)
  let reading ← requireOpened "Dataset source file changed or became unsafe." opened
  if reading.isRegular = false then
    throw (.domain (.unsafeFileType "Dataset source contains a non-regular file."))
  else if reading.before.sizeBytes > scanner.maxSinglePutBytes then
    throw (.domain (.unsupportedFileSize (plainText relative.value) reading.before.sizeBytes))
  else if reading.raised then throw .osError
  else if reading.after ≠ reading.before then
    throw (.domain (.sourceChanged (plainText relative.value)))
  else pure {
    entry := {
      relativePath := relative
      sizeBytes := reading.before.sizeBytes
      sha256 := Platform.sha256 (iterFileChunks reading.chunks).flatten }
    localRef := {
      root := root
      rootIdentity := rootIdentity
      rawParts := rawParts
      fileIdentity := reading.before } }

/-- `_scan_directory`: the files below one directory are appended to the output. -/
def scanDirectory (root : PyStr) (rootIdentity : FileIdentity) :
    List PyStr → Listing → List (ScannedFile LocalFileRef) →
      Except Failure (List (ScannedFile LocalFileRef))
  | _, .done, output => pure output
  | _, .raised, _ => throw .osError
  | rawParentParts, .vanished name, _ =>
      throw (.domain (.sourceChanged (plainText (joinParts (rawParentParts ++ [name])))))
  | _, .symlink _, _ =>
      throw (.domain (.unsafeFileType "Dataset source contains a symlink."))
  | _, .special _, _ =>
      throw (.domain (.unsafeFileType "Dataset source contains a non-regular file."))
  | _, .refusedDirectory _ errno, _ =>
      requireOpened "Dataset source directory changed or became unsafe." (.error errno)
  | rawParentParts, .directory name entries rest, output => do
      let output ← scanDirectory root rootIdentity (rawParentParts ++ [name]) entries output
      scanDirectory root rootIdentity rawParentParts rest output
  | rawParentParts, .file name opened rest, output => do
      let file ← scanner.scanFile root rootIdentity (rawParentParts ++ [name]) opened
      scanDirectory root rootIdentity rawParentParts rest (output ++ [file])

/-- The files in manifest order, each looked up by its path: of two files with one path, the
dictionary holds the last. -/
def orderedFiles (manifest : Manifest) (files : List (ScannedFile LocalFileRef)) :
    List (ScannedFile LocalFileRef) :=
  manifest.entries.filterMap fun entry =>
    files.reverse.find? fun file => file.entry.relativePath = entry.relativePath

/-- Scan stable regular files beneath source using directory descriptors. -/
def scan (source : SourceRoot) : Except Failure (ScannedDataset LocalFileRef) := do
  if source.platformSupported = false then
    throw (.domain
      (.unsupportedPlatform "M1 scanning requires supported Linux/macOS file APIs."))
  else
    match source.lstat with
    | none => throw .osError
    | some (kind, identity) =>
        if kind ≠ .directory then
          throw (.domain
            (.unsafeFileType "Dataset source root must be a non-symlink directory."))
        else
          let (rootIdentity, listing) ← requireOpened
            "Dataset source directory changed or became unsafe." source.opened
          if rootIdentity ≠ identity then throw (.domain (.sourceChanged "source root"))
          else
            let files ← scanner.scanDirectory source.root rootIdentity [] listing []
            let manifest ← Manifest.build (files.map ScannedFile.entry)
            pure ⟨manifest, orderedFiles manifest files⟩

end FileSystemScanner

end RoboLake
