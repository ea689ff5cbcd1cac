import RoboLake.Domain.Errors
import RoboLake.Foundation.Codec

/-! # Validated identifiers

Text is a list of code points, surrogates included, because the checks below
reject what has no UTF-8 encoding. The Unicode tables, SHA-256 and the JSON reader
are not part of the repository: they are the fields of `Platform`. A digest, a
dataset name and a relative path carry the proof that their constructor accepted
them, so a stored value needs no second validation.
-/

namespace RoboLake

open Foundation

/-! ## Text -/

abbrev CodePoint := Fin 0x110000

instance codePoints_neZero : NeZero 0x110000 := ⟨by decide⟩

abbrev PyStr := List CodePoint

/-- General category `Cs`. -/
def isSurrogate (c : CodePoint) : Bool := 0xD800 ≤ c.val && c.val ≤ 0xDFFF

/-- General category `Cc`. -/
def isControl (c : CodePoint) : Bool := c.val ≤ 0x1F || (0x7F ≤ c.val && c.val ≤ 0x9F)

def utf8 (c : CodePoint) : Bytes :=
  if c.val < 0x80 then [byte c.val]
  else if c.val < 0x800 then [byte (0xC0 + c.val / 64), byte (0x80 + c.val % 64)]
  else if c.val < 0x10000 then
    [byte (0xE0 + c.val / 4096), byte (0x80 + c.val / 64 % 64), byte (0x80 + c.val % 64)]
  else
    [byte (0xF0 + c.val / 262144), byte (0x80 + c.val / 4096 % 64), byte (0x80 + c.val / 64 % 64),
      byte (0x80 + c.val % 64)]

/-- `str.encode("utf-8")`; surrogates have no encoding. -/
def encodeUtf8 (s : PyStr) : Option Bytes :=
  if s.any isSurrogate then none else some (s.flatMap utf8)

def ascii (s : String) : Bytes := s.toUTF8.data.toList

def asciiChars (cs : List Char) : Bytes := cs.map fun c => byte c.toNat

def decimal (n : Nat) : Bytes := asciiChars (Nat.toDigits 10 n)

def asciiText (bs : Bytes) : PyStr := bs.map fun b => Fin.ofNat 0x110000 b.toNat

def text (s : String) : PyStr := asciiText (ascii s)

/-! ## JSON values -/

/-- What `json.loads` returns; an object keeps its pairs as read. -/
inductive Json
  | null
  | bool (b : Bool)
  | int (i : Int)
  | float (f : Float)
  | str (s : PyStr)
  | list (items : List Json)
  | object (pairs : List (PyStr × Json))

/-- How decoding and reading JSON text can fail. -/
inductive JsonError
  | unicodeDecodeError
  | jsonDecodeError
  | valueError
  | recursionError
  deriving DecidableEq, Repr

/-- The value of a key in the dictionary of an object: the last pair wins. -/
def Json.lookup (pairs : List (PyStr × Json)) (key : PyStr) : Option Json :=
  (pairs.reverse.find? fun p => p.1 = key).map Prod.snd

/-- The dictionary of an object has exactly these keys. -/
def Json.hasKeys (pairs : List (PyStr × Json)) (keys : List PyStr) : Bool :=
  pairs.all (fun p => keys.contains p.1) && keys.all fun k => pairs.any fun p => p.1 == k

/-! ## Digests -/

def isHexDigit (c : Char) : Bool := ('0' ≤ c && c ≤ '9') || ('a' ≤ c && c ≤ 'f')

def Sha256Digest.isCanonical (value : List Char) : Bool :=
  value.length == 64 && value.all isHexDigit

/-- Lowercase hexadecimal SHA-256 identity. -/
@[ext]
structure Sha256Digest where
  value : List Char
  canonical : Sha256Digest.isCanonical value = true
  deriving DecidableEq, Repr

namespace Sha256Digest

def parse (raw : List Char) : Except Failure Sha256Digest :=
  if h : isCanonical raw = true then .ok ⟨raw, h⟩
  else .error (.domain (.invalidDigest "SHA-256 must be 64 lowercase hexadecimal characters."))

def rawBytes (d : Sha256Digest) : Bytes := (Hex.decode d.value).getD []

/-- The S3 checksum header representation. -/
def checksumBase64 (d : Sha256Digest) : List Char := Base64.encode d.rawBytes

theorem parse_value (d : Sha256Digest) : parse d.value = .ok d := by
  simp [parse, d.canonical]

theorem value_of_parse {raw : List Char} {d : Sha256Digest} (h : parse raw = .ok d) :
    d.value = raw := by
  unfold parse at h
  split at h
  · cases h
    rfl
  · cases h

theorem isCanonical_encode {raw : Bytes} (h : raw.length = 32) :
    isCanonical (Hex.encode raw) = true := by
  have hdigit : ∀ n : Fin 16, isHexDigit (Hex.digit n.val) = true := by decide
  have hall : ∀ bs : Bytes, (Hex.encode bs).all isHexDigit = true := by
    intro bs
    induction bs with
    | nil => rfl
    | cons b bs ih =>
        have hb : b.toNat < 256 := b.toNat_lt
        have hhi := hdigit ⟨b.toNat / 16, by omega⟩
        have hlo := hdigit ⟨b.toNat % 16, by omega⟩
        simp only [Hex.encode, List.all_cons, hhi, hlo, ih, Bool.and_self]
  have hlength : (Hex.encode raw).length = 64 := by
    rw [Hex.length_encode, h]
  simp only [isCanonical, hlength, hall raw, beq_self_eq_true, Bool.and_self]

theorem digit_of_isHexDigit {c : Char} (h : isHexDigit c = true) : ∃ n < 16, Hex.digit n = c := by
  have hsmall : c.toNat < 128 := by
    simp only [isHexDigit, Bool.or_eq_true, Bool.and_eq_true, decide_eq_true_eq, Char.le_def,
      UInt32.le_iff_toNat_le] at h
    rcases h with h | h
    · exact lt_of_le_of_lt h.2 (by decide)
    · exact lt_of_le_of_lt h.2 (by decide)
  have hall : ∀ n : Fin 128, isHexDigit (Char.ofNat n.val) = true →
      ∃ m : Fin 16, Hex.digit m.val = Char.ofNat n.val := by decide
  obtain ⟨m, hm⟩ := hall ⟨c.toNat, hsmall⟩ (by simpa using h)
  exact ⟨m.val, m.isLt, by simpa using hm⟩

theorem decode_value (d : Sha256Digest) :
    Hex.decode d.value = some d.rawBytes ∧ Hex.encode d.rawBytes = d.value ∧
      d.rawBytes.length = 32 := by
  have hcanonical := d.canonical
  simp only [isCanonical, Bool.and_eq_true, beq_iff_eq, List.all_eq_true] at hcanonical
  obtain ⟨hlength, hdigits⟩ := hcanonical
  obtain ⟨bs, hdecode, hencode⟩ := Hex.decode_digits
    (fun c hc => digit_of_isHexDigit (hdigits c hc)) (by rw [hlength])
  have hraw : d.rawBytes = bs := by rw [rawBytes, hdecode, Option.getD_some]
  refine ⟨by rw [hraw, hdecode], by rw [hraw, hencode], ?_⟩
  have hbytes := Hex.length_encode bs
  rw [hencode, hlength] at hbytes
  rw [hraw]
  omega

end Sha256Digest

/-! ## The platform -/

/-- The parts of the interpreter's libraries that the program depends on. -/
class Platform where
  /-- `hashlib.sha256(data).hexdigest()`, also `pgcrypto`'s `digest`. -/
  sha256 : Bytes → Sha256Digest
  /-- `unicodedata.normalize("NFC", s)`. -/
  nfc : PyStr → PyStr
  nfc_nfc : ∀ s, nfc (nfc s) = nfc s
  /-- `str.casefold`. -/
  casefold : PyStr → PyStr
  /-- `str.isalpha` of one character. -/
  isalpha : CodePoint → Bool
  /-- `json.loads(data.decode("utf-8"))`. -/
  jsonLoads : Bytes → Except JsonError Json
  /-- The keys of each object that `json.loads` has closed when it raises. -/
  jsonClosed : Bytes → List (List PyStr)

export Platform (sha256 nfc nfc_nfc casefold isalpha jsonLoads jsonClosed)

/-! ## Names and paths -/

def slash : CodePoint := ⟨0x2F, by decide⟩

/-- `str.split("/")`. -/
def segments (s : PyStr) : List PyStr := s.splitOn slash

def plainText (s : PyStr) : String := String.ofList (s.map fun c => Char.ofNat c.val)

/-- A namespace or path segment that is empty or a relative reference. -/
def isUnsafeSegment (s : PyStr) : Bool := s.isEmpty || s == text "." || s == text ".."

def hasCcOrCs (s : PyStr) : Bool := s.any fun c => isControl c || isSurrogate c

def maxDatasetNameBytes : Nat := 255
def maxPathSegmentBytes : Nat := 255
def maxRelativePathBytes : Nat := 1024

namespace DatasetName

/-- The checks of the constructor on normalized text. -/
def isSafe (normalized : PyStr) (encoded : Bytes) : Bool :=
  !(normalized.isEmpty || encoded.length > maxDatasetNameBytes ||
    normalized.head? == some slash || normalized.getLast? == some slash ||
    normalized.any (fun c => c.val == 0x40) ||
    (segments normalized).any isUnsafeSegment || hasCcOrCs normalized)

end DatasetName

@[ext]
structure DatasetName [Platform] where
  value : PyStr
  normalized : nfc value = value
  safe : (encodeUtf8 value).any (DatasetName.isSafe value) = true

namespace DatasetName

variable [Platform]

instance : DecidableEq DatasetName := fun a b =>
  decidable_of_iff (a.value = b.value) ⟨DatasetName.ext, fun h => by rw [h]⟩

def parse (raw : PyStr) : Except Failure DatasetName :=
  match he : encodeUtf8 (nfc raw) with
  | none =>
      .error (.domain (.invalidDatasetName "Dataset name must contain valid Unicode scalar text."))
  | some encoded =>
      if h : isSafe (nfc raw) encoded = true then
        .ok ⟨nfc raw, nfc_nfc raw, by simpa [he] using h⟩
      else .error (.domain
        (.invalidDatasetName "Dataset name must use safe, non-empty namespace segments."))

end DatasetName

namespace RelativePath

variable [Platform]

def isSafe (normalized : PyStr) (encoded : Bytes) : Bool :=
  let driveQualified :=
    match segments normalized with
    | [c, d] :: _ => isalpha c && d.val == 0x3A
    | _ => false
  !(normalized.isEmpty || normalized.head? == some slash ||
    normalized.any (fun c => c.val == 0x5C) || driveQualified ||
    encoded.length > maxRelativePathBytes || (segments normalized).any isUnsafeSegment ||
    (segments normalized).any (fun s => (s.flatMap utf8).length > maxPathSegmentBytes) ||
    hasCcOrCs normalized)

end RelativePath

@[ext]
structure RelativePath [Platform] where
  value : PyStr
  normalized : nfc value = value
  safe : (encodeUtf8 value).any (RelativePath.isSafe value) = true

namespace RelativePath

variable [Platform]

instance : DecidableEq RelativePath := fun a b =>
  decidable_of_iff (a.value = b.value) ⟨RelativePath.ext, fun h => by rw [h]⟩

def parse (raw : PyStr) : Except Failure RelativePath :=
  match he : encodeUtf8 (nfc raw) with
  | none => .error (.domain (.unsafePath "Relative path must contain valid Unicode scalar text."))
  | some encoded =>
      if h : isSafe (nfc raw) encoded = true then
        .ok ⟨nfc raw, nfc_nfc raw, by simpa [he] using h⟩
      else .error (.domain (.unsafePath "Relative path must use safe POSIX segments."))

def bytes (p : RelativePath) : Bytes := p.value.flatMap utf8

end RelativePath

/-! ## Keys -/

abbrev UUID := BitVec 128

/-- The big-endian bytes of a number, most significant first. -/
def bigEndian (width n : Nat) : Bytes :=
  (List.range width).map fun i => byte (n / 256 ^ (width - 1 - i) % 256)

def UUID.bytes (id : UUID) : Bytes := bigEndian 16 id.toNat

def UUID.str (id : UUID) : List Char :=
  let digits := Hex.encode (bigEndian 16 id.toNat)
  digits.take 8 ++ '-' :: (digits.drop 8).take 4 ++ '-' :: (digits.drop 12).take 4 ++
    '-' :: (digits.drop 16).take 4 ++ '-' :: digits.drop 20

/-- Derive the immutable physical key for a Blob digest. -/
def objectKeyFor (digest : Sha256Digest) : List Char :=
  "blobs/sha256/".toList ++ digest.value.take 2 ++ '/' :: (digest.value.drop 2).take 2 ++
    '/' :: digest.value

end RoboLake
