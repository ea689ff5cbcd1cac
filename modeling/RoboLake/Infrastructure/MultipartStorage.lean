import RoboLake.Domain.Multipart
import RoboLake.Foundation.Loops

/-! # The ListParts adapter

The adapter reads the parts of a multipart upload page by page. The provider and
the library that speaks to it are outside the repository: a provider is what each
request receives, of any shape.
-/

namespace RoboLake

open Foundation

/-! ## Provider responses -/

/-- A timestamp with its microseconds and whether it names its offset. -/
structure DateTime where
  micros : Int
  aware : Bool
  deriving DecidableEq

inductive ProviderValue
  | none
  | bool (b : Bool)
  | int (n : Int)
  | str (s : String)
  | datetime (t : DateTime)
  | list (items : List ProviderValue)
  | mapping (fields : List (String × ProviderValue))
  | other

namespace ProviderValue

def get (fields : List (String × ProviderValue)) (key : String) (default : ProviderValue) :
    ProviderValue :=
  (fields.lookup key).getD default

end ProviderValue

/-- What one request receives: a response, or an exception of the client library. -/
inductive ProviderResponse
  | returned (value : ProviderValue)
  | clientError (code : String) (status : Option Int)
  | botoCoreError
  | raised (failure : Failure)

/-- What the provider sends to each numbered request with its part number marker. -/
abbrev ListPartsProvider := Nat → Option Int → ProviderResponse

/-! ## Listed parts -/

@[ext]
structure ListedProviderPart where
  partNumber : Nat
  sizeBytes : Nat
  etag : String
  checksumSha256Base64 : List Char
  modifiedAt : Option DateTime
  number_pos : 1 ≤ partNumber
  number_le : partNumber ≤ maxParts
  size_pos : 0 < sizeBytes
  etag_ne : etag ≠ ""
  modified_aware : ∀ t ∈ modifiedAt, t.aware = true
  checksum_canonical : (sha256Base64ToDigest checksumSha256Base64).isOk = true

instance : DecidableEq ListedProviderPart := fun a b =>
  decidable_of_iff (a.partNumber = b.partNumber ∧ a.sizeBytes = b.sizeBytes ∧ a.etag = b.etag ∧
      a.checksumSha256Base64 = b.checksumSha256Base64 ∧ a.modifiedAt = b.modifiedAt)
    ListedProviderPart.ext_iff.symm

theorem isOk_of_decoded {value : List Char} {d : Sha256Digest}
    (h : sha256Base64ToDigest value = .ok d) : (sha256Base64ToDigest value).isOk = true := by
  rw [h]
  rfl

namespace ListedProviderPart

/-! What the constructor has checked before the checksum. -/

section Checked

variable {partNumber sizeBytes : Int} {etag : String} {modifiedAt : Option DateTime}
  (h : (1 ≤ partNumber ∧ partNumber ≤ maxParts) ∧ 0 < sizeBytes ∧ etag ≠ "" ∧
    ∀ t ∈ modifiedAt, t.aware = true)

include h

theorem checked_number_pos : 1 ≤ partNumber.toNat := by
  omega

theorem checked_number_le : partNumber.toNat ≤ maxParts := by
  omega

theorem checked_size_pos : 0 < sizeBytes.toNat := by
  omega

theorem checked_etag_ne : etag ≠ "" := h.2.2.1

theorem checked_modified_aware : ∀ t ∈ modifiedAt, t.aware = true := h.2.2.2

end Checked

def make (partNumber sizeBytes : Int) (etag : String) (checksumSha256Base64 : List Char)
    (modifiedAt : Option DateTime) : Except Failure ListedProviderPart :=
  if h : (1 ≤ partNumber ∧ partNumber ≤ maxParts) ∧ 0 < sizeBytes ∧ etag ≠ "" ∧
      ∀ t ∈ modifiedAt, t.aware = true then
    match hc : sha256Base64ToDigest checksumSha256Base64 with
    | .ok _ => .ok ⟨partNumber.toNat, sizeBytes.toNat, etag, checksumSha256Base64, modifiedAt,
        checked_number_pos h, checked_number_le h, checked_size_pos h, checked_etag_ne h,
        checked_modified_aware h, isOk_of_decoded hc⟩
    | .error _ => .error (.domain
        (.providerContract "Provider ListParts checksum is invalid."))
  else .error (.domain (.providerContract "Provider ListParts observation is invalid."))

end ListedProviderPart

variable [Platform]

/-- A message that names the object by a fingerprint of its key. -/
def safeMessage (operation objectKey : String) : String :=
  "Object storage " ++ operation ++ " failed (object=" ++
    String.ofList ((Platform.sha256 (ascii objectKey)).value.take 12) ++ ")."

def listPartsContractError (objectKey : String) : Failure :=
  .domain (.providerContract (safeMessage "list_parts" objectKey))

/-- A server-side status may pass, any other is final. -/
def clientFailure (operation objectKey : String) (status : Option Int) : Failure :=
  if ∃ s ∈ status, s ≥ 500 then
    .domain (.transientProviderFailure (safeMessage operation objectKey))
  else .domain (.providerOperationRejected (safeMessage operation objectKey))

def parseListedPart (objectKey : String) : ProviderValue → Except Failure ListedProviderPart
  | .mapping fields =>
      let modifiedAt :=
        match ProviderValue.get fields "LastModified" .none with
        | .none => some none
        | .datetime t => some (some t)
        | _ => none
      match ProviderValue.get fields "PartNumber" .none, ProviderValue.get fields "Size" .none,
        ProviderValue.get fields "ETag" .none, ProviderValue.get fields "ChecksumSHA256" .none,
        modifiedAt with
      | .int partNumber, .int size, .str etag, .str checksum, some modifiedAt =>
          match ListedProviderPart.make partNumber size etag checksum.toList modifiedAt with
          | .ok part => .ok part
          | .error _ => .error (listPartsContractError objectKey)
      | _, _, _, _, _ => .error (listPartsContractError objectKey)
  | _ => .error (listPartsContractError objectKey)

/-! ## The page loop -/

/-- The variables of the loop; the observed parts are a map by number, in insertion order. -/
structure PartListing where
  marker : Option Int := none
  seenMarkers : List Int := []
  observed : List ListedProviderPart := []

def observeParts (objectKey : String) :
    List ProviderValue → List ListedProviderPart → Except Failure (List ListedProviderPart)
  | [], observed => .ok observed
  | raw :: raws, observed => do
      let part ← parseListedPart objectKey raw
      if part.partNumber ∈ observed.map ListedProviderPart.partNumber then
        .error (listPartsContractError objectKey)
      else observeParts objectKey raws (observed ++ [part])

/-- A marker must be a positive integer, not seen before and above the one it follows. -/
def nextMarker (objectKey : String) (l : PartListing) : ProviderValue → Except Failure Int
  | .int next =>
      if next ≤ 0 ∨ next ∈ l.seenMarkers ∨ ∃ marker ∈ l.marker, next ≤ marker then
        .error (listPartsContractError objectKey)
      else .ok next
  | _ => .error (listPartsContractError objectKey)

def sortedParts (observed : List ListedProviderPart) : List ListedProviderPart :=
  observed.insertionSort fun a b => a.partNumber ≤ b.partNumber

/-- Read the response of one request: the next turn's variables, or `none` on the last page. -/
def readPage (objectKey : String) (response : ProviderResponse) (l : PartListing) :
    Except Failure (List ListedProviderPart × Option Int) :=
  match response with
  | .clientError code status =>
      if code = "NoSuchUpload" then
        .error (.domain (.multipartSessionNotFound (safeMessage "list_parts" objectKey)))
      else .error (clientFailure "list_parts" objectKey status)
  | .botoCoreError =>
      .error (.domain (.transientProviderFailure (safeMessage "list_parts" objectKey)))
  | .raised failure => .error failure
  | .returned (.mapping fields) =>
      match ProviderValue.get fields "Parts" (.list []),
        ProviderValue.get fields "IsTruncated" .none with
      | .list parts, .bool truncated => do
          let observed ← observeParts objectKey parts l.observed
          if truncated then do
            let next ← nextMarker objectKey l
              (ProviderValue.get fields "NextPartNumberMarker" .none)
            pure (observed, some next)
          else pure (observed, none)
      | _, _ => .error (listPartsContractError objectKey)
  | .returned _ => .error (listPartsContractError objectKey)

def listPartsTurn (objectKey : String) (provider : ListPartsProvider) (request : Nat)
    (l : PartListing) : Turned (Except Failure (List ListedProviderPart)) PartListing :=
  match readPage objectKey (provider request l.marker) l with
  | .error failure => .answer (.error failure)
  | .ok (observed, none) => .answer (.ok (sortedParts observed))
  | .ok (observed, some next) =>
      .again { marker := some next, seenMarkers := l.seenMarkers ++ [next], observed := observed }

/-- Read and validate every provider page, with fuel for a number of requests. -/
def listParts (objectKey : String) (provider : ListPartsProvider) (requests : Nat) :
    Option (Except Failure (List ListedProviderPart)) :=
  Loop.run (listPartsTurn objectKey provider) requests 0 {}

end RoboLake
