import RoboLake.Domain.Payloads
import RoboLake.Foundation.Framing
import RoboLake.Infrastructure.Store.Registry

/-! # Registration requests

The registry service names a request by the digest of its fields. Every field stands
behind its length, so one text is the text of one list of fields.
-/

namespace RoboLake

open Foundation

/-- The fields of a request, each behind its length. -/
def framed (fields : List Bytes) : Bytes :=
  fields.flatMap fun field => bigEndian 8 field.length ++ field

variable [Platform]

/-- Hash length-delimited fields so concatenation boundaries remain unambiguous. -/
def requestFingerprint (fields : List Bytes) : Sha256Digest := sha256 (framed fields)

def makeIdempotencyKey (operation : PyStr) (fields : List Bytes) : PyStr :=
  text "robolake-m1:" ++ operation ++ text ":" ++
    asciiText (asciiChars (requestFingerprint fields).value)

def creationFields (name : DatasetName) : List Bytes := [name.value.flatMap utf8]

/-- `RegistryService.create_dataset`: create or replay one Dataset request. -/
def RegistryService.createDataset (name : DatasetName) (idempotencyKey : String) :
    Tx DatasetRecord :=
  Store.createDataset name idempotencyKey (requestFingerprint (creationFields name))

def registrationFields (datasetId : UUID) (manifest : Manifest) : List Bytes :=
  [datasetId.bytes, manifest.sha256.rawBytes, manifest.canonicalBytes]

/-- `RegistryService.register_version`: register or replay one already-canonical manifest. -/
def RegistryService.registerVersion (datasetId : UUID) (manifest : Manifest)
    (idempotencyKey : String) : Tx VersionRecord :=
  Store.registerVersion datasetId manifest idempotencyKey
    (requestFingerprint (registrationFields datasetId manifest))

omit [Platform] in
theorem length_bigEndian (width n : Nat) : (bigEndian width n).length = width := by
  simp [bigEndian]

omit [Platform] in
/-- The eight-byte length in front of a field. -/
def fieldHeader : LengthHeader UInt8 where
  header n := bigEndian 8 n
  width := 8
  bound := 2 ^ 64
  length_header n := length_bigEndian 8 n
  width_pos := by decide
  injective n m hn hm h := bigEndian_injective (by omega) (by omega) h

omit [Platform] in
theorem UUID.bytes_injective {id id' : UUID} (h : id.bytes = id'.bytes) : id = id' := by
  have hlt : ∀ x : UUID, x.toNat < 256 ^ 16 := by
    intro x
    have := x.isLt
    omega
  exact BitVec.eq_of_toNat_eq (bigEndian_injective (hlt id) (hlt id') h)

omit [Platform] in
theorem Sha256Digest.rawBytes_injective {d d' : Sha256Digest} (h : d.rawBytes = d'.rawBytes) :
    d = d' := by
  have hvalue : d.value = d'.value := by
    rw [← d.decode_value.2.1, ← d'.decode_value.2.1, h]
  exact Sha256Digest.ext hvalue

theorem framed_registrationFields {datasetId datasetId' : UUID} {manifest manifest' : Manifest}
    (h : framed (registrationFields datasetId manifest) =
      framed (registrationFields datasetId' manifest')) :
    datasetId = datasetId' ∧ manifest.sha256 = manifest'.sha256 ∧
      manifest.canonicalBytes = manifest'.canonicalBytes := by
  have hid : ∀ x : UUID, x.bytes.length = 16 := fun x => length_bigEndian 16 x.toNat
  have hraw : ∀ d : Sha256Digest, d.rawBytes.length = 32 := fun d => d.decode_value.2.2
  simp only [framed, registrationFields, List.flatMap_cons, List.flatMap_nil, List.append_nil,
    List.append_assoc, hid, hraw] at h
  obtain ⟨_, h⟩ := List.append_inj h rfl
  obtain ⟨hdataset, h⟩ := List.append_inj h (by rw [hid, hid])
  obtain ⟨_, h⟩ := List.append_inj h rfl
  obtain ⟨hsha, h⟩ := List.append_inj h (by rw [hraw, hraw])
  obtain ⟨_, hbytes⟩ := List.append_inj h (by rw [length_bigEndian, length_bigEndian])
  exact ⟨UUID.bytes_injective hdataset, Sha256Digest.rawBytes_injective hsha, hbytes⟩

end RoboLake
