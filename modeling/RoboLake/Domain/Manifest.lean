import RoboLake.Domain.Identifiers
import Mathlib

/-! # Canonical Dataset manifests

`Manifest.build` sorts the entries, checks them and writes the one canonical JSON
text; `Manifest.fromCanonicalBytes` accepts exactly a text that its own parse
rebuilds. The totals of a manifest are computed from its entries.
-/

namespace RoboLake

open Foundation

def maxManifestBytes : Nat := 64 * 1024 * 1024
def maxManifestEntries : Nat := 100000

variable [Platform]

structure ManifestEntry where
  relativePath : RelativePath
  sizeBytes : Nat
  sha256 : Sha256Digest
  deriving DecidableEq

/-- The constructor of an entry refuses a negative size. -/
def ManifestEntry.make (relativePath : RelativePath) (sizeBytes : Int) (sha256 : Sha256Digest) :
    Except Failure ManifestEntry :=
  if sizeBytes < 0 then
    .error (.domain (.manifestMismatch "Manifest entry size must be nonnegative."))
  else .ok ⟨relativePath, sizeBytes.toNat, sha256⟩

/-- Canonical ordered snapshot of regular files. -/
structure Manifest where
  entries : List ManifestEntry
  canonicalBytes : Bytes
  sha256 : Sha256Digest
  schemaVersion : Nat := 1
  deriving DecidableEq

namespace Manifest

/-! ## Totals -/

def fileCount (m : Manifest) : Nat := m.entries.length

/-- Total reconstructed bytes, counting each logical path. -/
def logicalBytes (m : Manifest) : Nat := (m.entries.map ManifestEntry.sizeBytes).sum

def digests (entries : List ManifestEntry) : List Sha256Digest :=
  (entries.map ManifestEntry.sha256).dedup

/-- The size a digest has in the dictionary built over the entries: the last one. -/
def digestSize (entries : List ManifestEntry) (d : Sha256Digest) : Nat :=
  ((entries.reverse.find? fun e => e.sha256 = d).map ManifestEntry.sizeBytes).getD 0

def uniqueBlobCount (m : Manifest) : Nat := (digests m.entries).length

def uniqueBlobBytes (m : Manifest) : Nat := ((digests m.entries).map (digestSize m.entries)).sum

/-! ## Canonical text -/

/-- One character of a JSON string literal with `ensure_ascii=False`. -/
def escapeCodePoint (c : CodePoint) : Bytes :=
  if c.val = 0x22 then ascii "\\\""
  else if c.val = 0x5C then ascii "\\\\"
  else if c.val = 0x0A then ascii "\\n"
  else if c.val = 0x0D then ascii "\\r"
  else if c.val = 0x09 then ascii "\\t"
  else if c.val = 0x0C then ascii "\\f"
  else if c.val = 0x08 then ascii "\\b"
  else if c.val < 0x20 then
    ascii "\\u00" ++ asciiChars (Hex.encode [byte c.val])
  else utf8 c

def jsonString (s : PyStr) : Bytes := ascii "\"" ++ s.flatMap escapeCodePoint ++ ascii "\""

def entryJson (e : ManifestEntry) : Bytes :=
  ascii "\x7b\"relative_path\":" ++ jsonString e.relativePath.value ++ ascii ",\"size_bytes\":" ++
    decimal e.sizeBytes ++ ascii ",\"sha256\":\"" ++ asciiChars e.sha256.value ++ ascii "\"\x7d"

/-- The compact JSON text of schema version 1. -/
def canonicalJson (ordered : List ManifestEntry) : Bytes :=
  ascii "\x7b\"schema_version\":1,\"entries\":[" ++
    (List.intersperse (ascii ",") (ordered.map entryJson)).flatten ++ ascii "]\x7d"

/-! ## Building -/

def pathLe (a b : ManifestEntry) : Prop := a.relativePath.bytes ≤ b.relativePath.bytes

instance : DecidableRel pathLe := fun a b =>
  inferInstanceAs (Decidable (a.relativePath.bytes ≤ b.relativePath.bytes))

/-- Some digest occurs again with a size other than its first. -/
def hasConflictingSizes (ordered : List ManifestEntry) : Bool :=
  ordered.any fun e =>
    (ordered.find? fun x => x.sha256 = e.sha256).any fun first => first.sizeBytes != e.sizeBytes

/-- The portable spelling that no two paths may share. -/
def collisionKey (p : RelativePath) : PyStr := nfc (casefold p.value)

def collides (previous current : PyStr) : Bool :=
  current == previous || (previous ++ [slash]).isPrefixOf current

/-- Two neighbours of the sorted collision keys are equal or one is an ancestor. -/
def hasCollision : List PyStr → Bool
  | previous :: current :: rest => collides previous current || hasCollision (current :: rest)
  | _ => false

def collisionKeys (ordered : List ManifestEntry) : List PyStr :=
  (ordered.map fun e => collisionKey e.relativePath).insertionSort (· ≤ ·)

/-- Build canonical bytes independent of input traversal order. -/
def build (supplied : List ManifestEntry) : Except Failure Manifest :=
  if supplied.length > maxManifestEntries then
    .error (.domain (.manifestMismatch "Manifest exceeds the protocol entry limit."))
  else
    let ordered := supplied.insertionSort pathLe
    if hasConflictingSizes ordered then
      .error (.domain (.contentConflict "One SHA-256 digest has conflicting sizes."))
    else if hasCollision (collisionKeys ordered) then
      .error (.domain (.pathCollision "Manifest contains colliding logical paths."))
    else
      let bytes := canonicalJson ordered
      if bytes.length > maxManifestBytes then
        .error (.domain (.manifestMismatch "Manifest exceeds the protocol byte limit."))
      else .ok { entries := ordered, canonicalBytes := bytes, sha256 := Platform.sha256 bytes }

/-! ## Parsing -/

/-- `payload["schema_version"] != 1` for a JSON value: numbers and `True` compare by value. -/
def isVersionOne : Json → Bool
  | .int i => i == 1
  | .bool b => b
  | .float f => f == 1.0
  | _ => false

def entryFields (item : Json) : Option (PyStr × Int × PyStr) :=
  match item with
  | .object pairs =>
      if Json.hasKeys pairs [text "relative_path", text "size_bytes", text "sha256"] then
        match Json.lookup pairs (text "relative_path"), Json.lookup pairs (text "size_bytes"),
            Json.lookup pairs (text "sha256") with
        | some (.str path), some (.int size), some (.str digest) => some (path, size, digest)
        | _, _, _ => none
      else none
  | _ => none

/-- Text of a digest column; a digest with a non-ASCII character is refused by `parse`. -/
def digestText (s : PyStr) : List Char := s.map fun c => Char.ofNat c.val

def parseEntry (fields : PyStr × Int × PyStr) : Except Failure ManifestEntry := do
  let path ← RelativePath.parse fields.1
  let digest ← Sha256Digest.parse (digestText fields.2.2)
  ManifestEntry.make path fields.2.1 digest

/-- Parse and independently reproduce a canonical manifest. -/
def fromCanonicalBytes (data : Bytes) : Except Failure Manifest :=
  if data.length > maxManifestBytes then
    .error (.domain (.manifestMismatch "Manifest exceeds the protocol byte limit."))
  else
    match jsonLoads data with
    | .error .valueError => .error .valueError
    | .error .recursionError => .error .recursionError
    | .error _ => .error (.domain (.manifestMismatch "Manifest must be canonical UTF-8 JSON."))
    | .ok payload =>
        match payload with
        | .object pairs =>
            if Json.hasKeys pairs [text "schema_version", text "entries"] then
              match Json.lookup pairs (text "schema_version"),
                  Json.lookup pairs (text "entries") with
              | some version, some (.list items) =>
                  if isVersionOne version then
                    match items.mapM entryFields with
                    | none => .error (.domain
                        (.manifestMismatch "Manifest entry fields are invalid."))
                    | some fields => do
                        let entries ← fields.mapM parseEntry
                        let rebuilt ← build entries
                        if rebuilt.canonicalBytes = data then pure rebuilt
                        else .error (.domain (.manifestMismatch
                          "Manifest bytes are not canonical schema version 1."))
                  else .error (.domain
                    (.manifestMismatch "Manifest schema version or entries are invalid."))
              | _, _ => .error (.domain
                  (.manifestMismatch "Manifest schema version or entries are invalid."))
            else .error (.domain
              (.manifestMismatch "Manifest must contain only schema_version and entries."))
        | _ => .error (.domain
            (.manifestMismatch "Manifest must contain only schema_version and entries."))

/-! ## What parsing returns -/

/-- A built manifest: its own digest, schema version and entries in path order. -/
theorem build_spec {supplied : List ManifestEntry} {m : Manifest} (h : build supplied = .ok m) :
    m.entries = supplied.insertionSort pathLe ∧ m.canonicalBytes = canonicalJson m.entries ∧
      m.sha256 = Platform.sha256 m.canonicalBytes ∧ m.schemaVersion = 1 ∧
      hasConflictingSizes m.entries = false := by
  unfold build at h
  split at h
  · cases h
  · simp only at h
    split at h
    · cases h
    · rename_i hsizes
      split at h
      · cases h
      · split at h
        · cases h
        · cases h
          exact ⟨rfl, rfl, rfl, rfl, by simpa using hsizes⟩

/-- An accepted text is the canonical text of the manifest it parses to, which was built. -/
theorem fromCanonicalBytes_spec {data : Bytes} {m : Manifest}
    (h : fromCanonicalBytes data = .ok m) :
    m.canonicalBytes = data ∧ ∃ entries, build entries = .ok m := by
  unfold fromCanonicalBytes at h
  split at h
  · cases h
  · split at h <;> try cases h
    rename_i payload _
    split at h
    · rename_i pairs
      split at h
      · split at h
        · split at h
          · split at h
            · cases h
            · rename_i fields _
              obtain ⟨entries, hentries⟩ : ∃ entries, fields.mapM parseEntry = .ok entries := by
                cases hm : fields.mapM parseEntry with
                | error e => simp [hm, bind, Except.bind] at h
                | ok entries => exact ⟨entries, rfl⟩
              cases hb : build entries with
              | error e => simp [hentries, hb, bind, Except.bind] at h
              | ok rebuilt =>
                  simp only [hentries, hb, bind, Except.bind] at h
                  split at h
                  · rename_i hdata
                    cases h
                    exact ⟨hdata, entries, hb⟩
                  · cases h
          · cases h
        · cases h
      · cases h
    · cases h

theorem canonicalBytes_of_fromCanonicalBytes {data : Bytes} {m : Manifest}
    (h : fromCanonicalBytes data = .ok m) : m.canonicalBytes = data :=
  (fromCanonicalBytes_spec h).1

end Manifest

end RoboLake
