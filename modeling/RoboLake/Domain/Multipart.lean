import RoboLake.Domain.Identifiers
import RoboLake.Domain.Lifecycle
import Mathlib

/-! # Multipart protocol values

Part plans, upload receipts and provider observations. Each value carries the
checks of its constructor, so a plan that exists covers its Blob exactly once and
a receipt that exists has a canonical checksum spelling.
-/

namespace RoboLake

open Foundation

def basePartBytes : Nat := 64 * 1024 * 1024
def maxPartBytes : Nat := 5 * 1024 * 1024 * 1024
def maxParts : Nat := 10000
def maxMultipartBlobBytes : Nat := 5000000000000
def maxSinglePutBytes : Nat := 5000000000
def partPlanSchemaVersion : Nat := 1

/-! ## Part sizes -/

def ceilDiv (dividend divisor : Nat) : Nat := (dividend + divisor - 1) / divisor

/-- Double the part size until the protocol's part count suffices. Seven doublings of the base
size pass the maximum, so eight rounds always decide. -/
def selectPartSizeFrom (sizeBytes : Nat) : Nat → Nat → Except Failure Nat
  | 0, _ => .error (.domain (.unsupportedFileSize "multipart" sizeBytes))
  | rounds + 1, partSize =>
      if ceilDiv sizeBytes partSize > maxParts then
        if partSize * 2 > maxPartBytes then
          .error (.domain (.unsupportedFileSize "multipart" sizeBytes))
        else selectPartSizeFrom sizeBytes rounds (partSize * 2)
      else .ok partSize

def selectPartSize (sizeBytes : Nat) : Except Failure Nat :=
  selectPartSizeFrom sizeBytes 8 basePartBytes

/-- Select the one protocol part size for a valid M2 Blob. -/
def selectMultipartPartSize (blobSizeBytes : Nat) : Except Failure Nat :=
  if maxSinglePutBytes < blobSizeBytes ∧ blobSizeBytes ≤ maxMultipartBlobBytes then
    selectPartSize blobSizeBytes
  else .error (.domain (.unsupportedFileSize "multipart" blobSizeBytes))

/-- `select_multipart_part_size` of any integer, with no value where it raises; a size that
passes the range check is a natural number. -/
def selectPartSizeOfInt (blobSizeBytes : Int) : Option Nat :=
  if maxSinglePutBytes < blobSizeBytes ∧ blobSizeBytes ≤ maxMultipartBlobBytes then
    (selectPartSize blobSizeBytes.toNat).toOption
  else none

/-! ## Part ranges -/

/-- What the range checks read of a part. -/
class PartRange (α : Type) where
  partNumber : α → Nat
  offsetBytes : α → Nat
  sizeBytes : α → Nat

structure MultipartPart where
  partNumber : Nat
  offsetBytes : Nat
  sizeBytes : Nat
  number_pos : 1 ≤ partNumber
  number_le : partNumber ≤ maxParts
  size_pos : 0 < sizeBytes
  deriving DecidableEq

instance : PartRange MultipartPart where
  partNumber := MultipartPart.partNumber
  offsetBytes := MultipartPart.offsetBytes
  sizeBytes := MultipartPart.sizeBytes

namespace MultipartPart

def make (partNumber offsetBytes sizeBytes : Int) : Except Failure MultipartPart :=
  if hn : 1 ≤ partNumber ∧ partNumber ≤ maxParts then
    if hs : 0 ≤ offsetBytes ∧ 0 < sizeBytes then
      .ok ⟨partNumber.toNat, offsetBytes.toNat, sizeBytes.toNat, by omega, by omega, by omega⟩
    else .error (.domain
      (.manifestMismatch "Multipart part range must be positive and nonnegative."))
  else .error (.domain (.manifestMismatch "Multipart part number is outside 1..10,000."))

end MultipartPart

structure PartDefinition where
  partNumber : Nat
  offsetBytes : Nat
  sizeBytes : Nat
  expectedSha256 : Sha256Digest
  number_pos : 1 ≤ partNumber
  number_le : partNumber ≤ maxParts
  size_pos : 0 < sizeBytes
  deriving DecidableEq

instance : PartRange PartDefinition where
  partNumber := PartDefinition.partNumber
  offsetBytes := PartDefinition.offsetBytes
  sizeBytes := PartDefinition.sizeBytes

namespace PartDefinition

def make (partNumber offsetBytes sizeBytes : Nat) (expectedSha256 : Sha256Digest) :
    Except Failure PartDefinition :=
  if hn : 1 ≤ partNumber ∧ partNumber ≤ maxParts then
    if hs : 0 < sizeBytes then
      .ok ⟨partNumber, offsetBytes, sizeBytes, expectedSha256, hn.1, hn.2, hs⟩
    else .error (.domain
      (.manifestMismatch "Multipart part range must be positive and nonnegative."))
  else .error (.domain (.manifestMismatch "Multipart part number is outside 1..10,000."))

end PartDefinition

section Ranges

variable {α : Type} [PartRange α]

/-- The range loop: consecutive numbers, contiguous offsets, full size except for the last. -/
def validateRangesFrom (partSizeBytes count : Nat) :
    List α → Nat → Nat → Except Failure Nat
  | [], _, cursor => .ok cursor
  | part :: parts, expectedNumber, cursor =>
      if PartRange.partNumber part ≠ expectedNumber ∨ PartRange.offsetBytes part ≠ cursor then
        .error (.domain
          (.manifestMismatch "PartPlan ranges must be consecutive and ordered."))
      else if PartRange.sizeBytes part > partSizeBytes then
        .error (.domain
          (.manifestMismatch "PartPlan part exceeds its frozen part size."))
      else if expectedNumber < count ∧ PartRange.sizeBytes part ≠ partSizeBytes then
        .error (.domain
          (.manifestMismatch "Every non-final PartPlan part must use the frozen size."))
      else
        validateRangesFrom partSizeBytes count parts (expectedNumber + 1)
          (cursor + PartRange.sizeBytes part)

def validateRanges (blobSizeBytes partSizeBytes : Nat) (parts : List α) : Except Failure Unit :=
  if parts.isEmpty ∨ parts.length > maxParts then
    .error (.domain
      (.manifestMismatch "PartPlan must contain between 1 and 10,000 parts."))
  else do
    let cursor ← validateRangesFrom partSizeBytes parts.length parts 1 0
    if cursor ≠ blobSizeBytes then
      .error (.domain
        (.manifestMismatch "PartPlan ranges must cover the Blob exactly once."))
    else pure ()

end Ranges

/-! ## Part boundaries -/

def MultipartPlan.check (blobSizeBytes partSizeBytes : Nat) (parts : List MultipartPart) :
    Except Failure Unit :=
  if blobSizeBytes = 0 ∨ blobSizeBytes > maxMultipartBlobBytes then
    .error (.domain
      (.manifestMismatch "Multipart Blob size is outside the protocol limit."))
  else if ¬(basePartBytes ≤ partSizeBytes ∧ partSizeBytes ≤ maxPartBytes) then
    .error (.domain
      (.manifestMismatch "Selected multipart part size is outside protocol limits."))
  else do
    let selected ← selectPartSize blobSizeBytes
    if partSizeBytes ≠ selected then
      .error (.domain
        (.manifestMismatch "Multipart part size differs from the protocol algorithm."))
    else validateRanges blobSizeBytes partSizeBytes parts

/-- Selected deterministic boundaries for one Blob. -/
structure MultipartPlan where
  blobSizeBytes : Nat
  partSizeBytes : Nat
  parts : List MultipartPart
  valid : MultipartPlan.check blobSizeBytes partSizeBytes parts = .ok ()

def MultipartPlan.make (blobSizeBytes partSizeBytes : Nat) (parts : List MultipartPart) :
    Except Failure MultipartPlan :=
  match h : check blobSizeBytes partSizeBytes parts with
  | .ok () => .ok ⟨blobSizeBytes, partSizeBytes, parts, h⟩
  | .error e => .error e

/-- Build deterministic boundaries independent of M1/M2 routing selection. -/
def planPartBoundaries (sizeBytes : Nat) : Except Failure MultipartPlan :=
  if 0 < sizeBytes ∧ sizeBytes ≤ maxMultipartBlobBytes then do
    let partSize ← selectPartSize sizeBytes
    let count := ceilDiv sizeBytes partSize
    let parts ← (List.range' 1 count).mapM fun (partNumber : Nat) =>
      MultipartPart.make partNumber ((partNumber - 1) * partSize : Int)
        (min (partSize : Int) (sizeBytes - (partNumber - 1) * partSize))
    MultipartPlan.make sizeBytes partSize parts
  else .error (.domain (.unsupportedFileSize "multipart" sizeBytes))

/-- Build the frozen M2 boundary plan for a Blob above the M1 threshold. -/
def planMultipart (sizeBytes : Nat) : Except Failure MultipartPlan := do
  let _ ← selectMultipartPartSize sizeBytes
  planPartBoundaries sizeBytes

/-! ## Part plans -/

def PartPlan.check (schemaVersion blobSizeBytes partSizeBytes : Nat)
    (parts : List PartDefinition) : Except Failure Unit :=
  if schemaVersion ≠ partPlanSchemaVersion then
    .error (.domain
      (.manifestMismatch "Unsupported multipart PartPlan schema version."))
  else if ¬(maxSinglePutBytes < blobSizeBytes ∧ blobSizeBytes ≤ maxMultipartBlobBytes) then
    .error (.domain
      (.manifestMismatch "PartPlan Blob size is outside protocol limits."))
  else do
    let selected ← selectMultipartPartSize blobSizeBytes
    if partSizeBytes ≠ selected then
      .error (.domain
        (.manifestMismatch "PartPlan part size differs from the protocol algorithm."))
    else validateRanges blobSizeBytes partSizeBytes parts

/-- Canonical checksum-complete plan persisted before provider initiation. -/
@[ext]
structure PartPlan where
  schemaVersion : Nat
  blobSizeBytes : Nat
  partSizeBytes : Nat
  parts : List PartDefinition
  valid : PartPlan.check schemaVersion blobSizeBytes partSizeBytes parts = .ok ()

namespace PartPlan

def partCount (p : PartPlan) : Nat := p.parts.length

/-- Sort typed definitions before validating canonical range semantics. -/
def build (schemaVersion blobSizeBytes partSizeBytes : Nat) (parts : List PartDefinition) :
    Except Failure PartPlan :=
  let ordered := parts.insertionSort (fun a b => a.partNumber ≤ b.partNumber)
  match h : check schemaVersion blobSizeBytes partSizeBytes ordered with
  | .ok () => .ok ⟨schemaVersion, blobSizeBytes, partSizeBytes, ordered, h⟩
  | .error e => .error e

/-! ## Canonical text -/

def partJson (partNumber offsetBytes sizeBytes : Nat) (sha256 : Sha256Digest) : Bytes :=
  ascii "\x7b\"part_number\":" ++ decimal partNumber ++ ascii ",\"offset_bytes\":" ++
    decimal offsetBytes ++ ascii ",\"size_bytes\":" ++ decimal sizeBytes ++
    ascii ",\"sha256\":\"" ++ asciiChars sha256.value ++ ascii "\"\x7d"

def planJson (schemaVersion blobSizeBytes partSizeBytes partCount : Nat) (parts : List Bytes) :
    Bytes :=
  ascii "\x7b\"schema_version\":" ++ decimal schemaVersion ++
    ascii ",\"blob_size_bytes\":" ++ decimal blobSizeBytes ++
    ascii ",\"part_size_bytes\":" ++ decimal partSizeBytes ++
    ascii ",\"part_count\":" ++ decimal partCount ++
    ascii ",\"parts\":[" ++ (List.intersperse (ascii ",") parts).flatten ++ ascii "]\x7d"

/-- Encode exact schema-v1 PartPlan bytes without trailing whitespace. -/
def canonicalBytes (p : PartPlan) : Bytes :=
  planJson p.schemaVersion p.blobSizeBytes p.partSizeBytes p.partCount
    (p.parts.map fun part =>
      partJson part.partNumber part.offsetBytes part.sizeBytes part.expectedSha256)

def sha256 [Platform] (p : PartPlan) : Sha256Digest := Platform.sha256 p.canonicalBytes

end PartPlan

/-! ## Checksums -/

/-- Encode a canonical digest as padded Base64 raw bytes. -/
def sha256DigestToBase64 (digest : Sha256Digest) : List Char := Base64.encode digest.rawBytes

/-- Decode only canonical padded Base64 containing exactly 32 raw bytes. -/
def sha256Base64ToDigest (value : List Char) : Except Failure Sha256Digest :=
  match Base64.decode value with
  | none => .error (.domain
      (.partChecksumRejected "Provider SHA-256 checksum is not canonical Base64."))
  | some raw =>
      if raw.length ≠ 32 ∨ Base64.encode raw ≠ value then
        .error (.domain
          (.partChecksumRejected "Provider SHA-256 checksum must encode 32 raw bytes."))
      else Sha256Digest.parse (Hex.encode raw)

theorem checksumBase64_of_sha256Base64ToDigest {value : List Char} {d : Sha256Digest}
    (h : sha256Base64ToDigest value = .ok d) : d.checksumBase64 = value := by
  unfold sha256Base64ToDigest at h
  cases hraw : Base64.decode value with
  | none => simp [hraw] at h
  | some raw =>
      simp only [hraw] at h
      split at h
      · cases h
      · rename_i hcanonical
        simp only [not_or, not_not] at hcanonical
        have hvalue := Sha256Digest.value_of_parse h
        rw [Sha256Digest.checksumBase64, Sha256Digest.rawBytes, hvalue,
          Hex.decode_encode, Option.getD_some]
        exact hcanonical.2

theorem sha256Base64ToDigest_checksumBase64 (d : Sha256Digest) :
    sha256Base64ToDigest d.checksumBase64 = .ok d := by
  obtain ⟨_, hencode, hlength⟩ := d.decode_value
  have hbytes : ¬(d.rawBytes.length ≠ 32 ∨ Base64.encode d.rawBytes ≠ d.checksumBase64) := by
    simp [hlength, Sha256Digest.checksumBase64]
  unfold sha256Base64ToDigest
  rw [Sha256Digest.checksumBase64, Base64.decode_encode]
  rw [Sha256Digest.checksumBase64] at hbytes
  simp only [if_neg hbytes, hencode, Sha256Digest.parse_value]

@[ext]
structure CompletedPartReceipt where
  partNumber : Nat
  responseEtag : String
  responseChecksumSha256Base64 : List Char
  number_pos : 1 ≤ partNumber
  number_le : partNumber ≤ maxParts
  etag_ne : responseEtag ≠ ""
  checksum_canonical : (sha256Base64ToDigest responseChecksumSha256Base64).isOk = true
  deriving DecidableEq

namespace CompletedPartReceipt

def make (partNumber : Nat) (responseEtag : String)
    (responseChecksumSha256Base64 : List Char) : Except Failure CompletedPartReceipt :=
  if hn : 1 ≤ partNumber ∧ partNumber ≤ maxParts then
    if he : responseEtag ≠ "" then
      match hc : sha256Base64ToDigest responseChecksumSha256Base64 with
      | .ok _ => .ok ⟨partNumber, responseEtag, responseChecksumSha256Base64, hn.1, hn.2, he,
          by rw [hc]; rfl⟩
      | .error e => .error e
    else .error (.domain
      (.contentConflict "CompletedPart receipt requires a response ETag."))
  else .error (.domain
    (.contentConflict "CompletedPart receipt number is outside 1..10,000."))

/-- Refuse a receipt whose checksum is not the planned digest's. -/
def validateFor (r : CompletedPartReceipt) (expected : Sha256Digest) :
    Except Failure CompletedPartReceipt := do
  let digest ← sha256Base64ToDigest r.responseChecksumSha256Base64
  if digest ≠ expected then
    .error (.domain
      (.partChecksumRejected "UploadPart response checksum differs from the plan."))
  else pure r

theorem validateFor_ok {r r' : CompletedPartReceipt} {expected : Sha256Digest} :
    r.validateFor expected = .ok r' ↔
      r' = r ∧ sha256Base64ToDigest r.responseChecksumSha256Base64 = .ok expected := by
  unfold validateFor
  cases hd : sha256Base64ToDigest r.responseChecksumSha256Base64 with
  | error e => simp [bind, Except.bind]
  | ok digest =>
      by_cases he : digest = expected
      · simp [bind, Except.bind, he, pure, Except.pure, eq_comm]
      · simp [bind, Except.bind, he]

end CompletedPartReceipt

/-- One current ListParts fact; never a substitute for an upload receipt. -/
structure ProviderPartObservation where
  partNumber : Nat
  sizeBytes : Nat
  etag : String
  checksumSha256Base64 : List Char
  number_pos : 0 < partNumber
  size_pos : 0 < sizeBytes
  etag_ne : etag ≠ ""
  checksum_canonical : (sha256Base64ToDigest checksumSha256Base64).isOk = true
  deriving DecidableEq

end RoboLake
