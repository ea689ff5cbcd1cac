import RoboLake.Application.Service

/-! # The object storage adapter

The provider reports the size of a stored object and a checksum text of its own. A text
that is not the Base64 of 32 bytes says nothing about the content, and the content is
read instead. What the client raises escapes, but for the code of a missing object. The
client library is a parameter.
-/

namespace RoboLake

open Foundation

structure HeadObject where
  contentLength : Nat
  checksumSha256 : Option (List Char)
  etag : Option String

/-- The provider's client: the metadata of an object, and its body in chunks. -/
structure S3Client where
  headObject : List Char → Except StorageError HeadObject
  iterChunks : List Char → (chunkSize : Nat) → Except StorageError (List Bytes)

/-- `_parse_provider_checksum`: what is not the Base64 of 32 bytes is no checksum. -/
def parseProviderChecksum : Option (List Char) → Option Sha256Digest
  | none => none
  | some value =>
      match Base64.decode value with
      | none => none
      | some raw => if raw.length ≠ 32 then none else (Sha256Digest.parse (Hex.encode raw)).toOption

namespace S3ObjectStore

variable (client : S3Client)

def head (objectKey : List Char) : Except StorageError (Option ObjectInfo) :=
  match client.headObject objectKey with
  | .error (.clientError code) =>
      if code ∈ ["404", "NoSuchKey", "NotFound"] then .ok none else .error (.clientError code)
  | .error .botoCoreError => .error .botoCoreError
  | .ok response =>
      .ok (some ⟨response.contentLength, parseProviderChecksum response.checksumSha256,
        response.etag⟩)

/-- Stream stored bytes; empty chunks are dropped. -/
def iterBytes (objectKey : List Char) (chunkSize : Nat) : Except StorageError (List Bytes) :=
  (client.iterChunks objectKey chunkSize).map fun chunks => chunks.filter fun chunk => chunk ≠ []

/-- A service that reads this object through the adapter; any of its requests may fail. -/
structure Shows (chunkSize : Nat) (objectKey : List Char) (objects : ObjectStore) : Prop where
  head : ∀ info, objects.head objectKey = .ok info → head client objectKey = .ok info
  iterBytes : ∀ chunks, objects.iterBytes objectKey = .ok chunks →
    iterBytes client objectKey chunkSize = .ok chunks

end S3ObjectStore

/-- The provider stores these bytes under the key: it reports their length, and a checksum text
that spells no other digest, and streams them in whatever chunks. -/
structure S3Client.Stores [Platform] (client : S3Client) (objectKey : List Char)
    (content : Bytes) : Prop where
  head : ∃ response, client.headObject objectKey = .ok response ∧
    response.contentLength = content.length ∧
    ∀ value raw, response.checksumSha256 = some value → Base64.decode value = some raw →
      raw.length = 32 → raw = (Platform.sha256 content).rawBytes
  body : ∀ chunkSize, ∃ chunks, client.iterChunks objectKey chunkSize = .ok chunks ∧
    chunks.flatten = content

/-! ## What is read -/

theorem parseProviderChecksum_some {value : Option (List Char)} {d : Sha256Digest}
    (h : parseProviderChecksum value = some d) :
    ∃ text raw, value = some text ∧ Base64.decode text = some raw ∧ raw.length = 32 ∧
      d.rawBytes = raw := by
  cases value with
  | none => cases h
  | some text =>
      cases hraw : Base64.decode text with
      | none => simp [parseProviderChecksum, hraw] at h
      | some raw =>
          simp only [parseProviderChecksum, hraw] at h
          by_cases hlength : raw.length = 32
          · rw [if_neg (not_not.mpr hlength)] at h
            refine ⟨text, raw, rfl, hraw, hlength, ?_⟩
            cases hparse : Sha256Digest.parse (Hex.encode raw) with
            | error e =>
                rw [hparse] at h
                cases h
            | ok digest =>
                rw [hparse] at h
                cases h
                rw [Sha256Digest.rawBytes, Sha256Digest.value_of_parse hparse, Hex.decode_encode,
                  Option.getD_some]
          · rw [if_pos hlength] at h
            cases h

end RoboLake
