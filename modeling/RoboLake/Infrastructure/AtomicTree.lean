import RoboLake.Application.Downloads
import RoboLake.Domain.Manifest
import RoboLake.Foundation.FileTrees
import RoboLake.Foundation.UnitOfWork

/-! # Staged reconstruction

A download builds its tree in a private staging directory: it makes the parents of
an entry, opens a temporary part file beside the final name, writes the bytes and
renames the part into place. The file system is a tree whose names have keys.
-/

namespace RoboLake

open Foundation

/-! ## Names -/

def UUID.hex (id : UUID) : List Char := Hex.encode id.bytes

def partName (finalName : PyStr) (token : UUID) : PyStr :=
  text "." ++ finalName ++ text "." ++ asciiStr token.hex ++ text ".part"

/-- A call of the operating system; its refusals escape. -/
def osCall {α : Type} : Except FileTree.Refusal α → Except Failure α
  | .ok a => .ok a
  | .error _ => .error .osError

theorem osCall_ok {α : Type} {x : Except FileTree.Refusal α} {a : α} :
    osCall x = .ok a ↔ x = .ok a := by
  cases x <;> simp [osCall]

theorem osCall_error {α : Type} {x : Except FileTree.Refusal α} {e : Failure}
    (h : osCall x = .error e) : e = .osError := by
  cases x with
  | ok a => cases h
  | error refusal =>
      cases h
      rfl

/-! ## Parents -/

section Parents

variable {κ : Type} [DecidableEq κ] (key : PyStr → κ)

def mkdirPrivateParents : FileTree PyStr Bytes → List PyStr → List PyStr →
    Except Failure (FileTree PyStr Bytes)
  | t, _, [] => .ok t
  | t, current, part :: parts =>
      match FileTree.find key t (current ++ [part]) with
      | some (_, .dir) => mkdirPrivateParents t (current ++ [part]) parts
      | some (_, .file _) => .error (.domain
          (.unsafePath "Staging path contains an unsafe parent component."))
      | none => do
          let t ← osCall (FileTree.add key t current part .dir)
          mkdirPrivateParents t (current ++ [part]) parts

end Parents

variable [Platform]

def components (e : ManifestEntry) : List PyStr := segments e.relativePath.value

def parentPath (e : ManifestEntry) : List PyStr := (components e).dropLast

def finalName (e : ManifestEntry) : PyStr := (components e).getLastD []

/-! ## The downloader -/

/-- A download that has its part file open. -/
structure PreparedState where
  entry : ManifestEntry
  parent : List PyStr
  partName : PyStr
  finalName : PyStr

structure TreeDownload where
  manifest : Manifest
  staging : FileTree PyStr Bytes := FileTree.empty
  prepared : List (UUID × PreparedState) := []
  completed : List PyStr := []

instance : LawfulBEq ManifestEntry := inferInstance

namespace TreeDownload

variable {κ : Type} [DecidableEq κ] (key : PyStr → κ)

/-- Create the safe parent and exclusive temporary file before URL issuance. -/
def prepare (d : TreeDownload) (entry : ManifestEntry) (token : UUID) :
    Except Failure TreeDownload :=
  if entry ∉ d.manifest.entries then
    .error (.domain
      (.manifestMismatch "Prepared entry is not part of the active manifest."))
  else do
    let staging ← mkdirPrivateParents key d.staging [] (parentPath entry)
    let part := partName (finalName entry) token
    let staging ← osCall (FileTree.add key staging (parentPath entry) part (.file []))
    let state := ⟨entry, parentPath entry, part, finalName entry⟩
    pure { d with
      staging := staging
      prepared := d.prepared.filter (fun p => p.1 ≠ token) ++ [(token, state)] }

/-- Write the verified bytes of one item into its part file, then place it within staging. -/
def write (d : TreeDownload) (token : UUID) (item : ManifestEntry) (content : Bytes) :
    Except Failure TreeDownload :=
  match d.prepared.lookup token with
  | none => .error (.domain (.contentConflict "Prepared download handle is not active."))
  | some state =>
      if item ≠ state.entry then
        .error (.domain
          (.manifestMismatch "Download item differs from its prepared manifest entry."))
      else do
        let staging := FileTree.fill key d.staging (state.parent ++ [state.partName]) content
        let staging ← osCall (FileTree.move key staging state.parent state.partName state.finalName)
        pure { d with
          staging := staging
          prepared := d.prepared.filter (fun p => p.1 ≠ token)
          completed := d.completed ++ [state.entry.relativePath.value] }

def commit (d : TreeDownload) : Except Failure (FileTree PyStr Bytes) :=
  if d.prepared ≠ [] then
    .error (.domain (.contentConflict "Prepared downloads remain unfinished."))
  else if ¬(∀ p ∈ d.completed, p ∈ d.manifest.entries.map fun e => e.relativePath.value) ∨
      ¬∀ e ∈ d.manifest.entries, e.relativePath.value ∈ d.completed then
    .error (.domain
      (.manifestMismatch "Staged tree does not contain the complete manifest."))
  else .ok d.staging

/-- Prepare and write entries in order, each under its token and with its bytes. -/
def placeAll (tokens : ManifestEntry → UUID) (contents : ManifestEntry → Bytes) :
    TreeDownload → List ManifestEntry → Except Failure TreeDownload
  | d, [] => .ok d
  | d, entry :: rest => do
      let d ← prepare key d entry (tokens entry)
      let d ← write key d (tokens entry) entry (contents entry)
      placeAll tokens contents d rest

/-- The tree of a whole manifest whose downloads all succeed. -/
def materialize (tokens : ManifestEntry → UUID) (contents : ManifestEntry → Bytes) (m : Manifest) :
    Except Failure (FileTree PyStr Bytes) := do
  let d ← placeAll key tokens contents { manifest := m } m.entries
  commit d

end TreeDownload

end RoboLake
