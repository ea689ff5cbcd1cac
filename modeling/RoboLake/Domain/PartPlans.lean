import RoboLake.Domain.Canonical
import RoboLake.Domain.Multipart
import RoboLake.Foundation.UnitOfWork

/-! # The canonical text of a part plan

The parser reads a plan out of JSON, refuses duplicate keys, extra fields and values of
other types, sorts the parts into a plan and compares the bytes it would have written.
-/

namespace RoboLake

open Foundation

/-! ## Duplicate keys -/

mutual

/-- Some object of a JSON value has one key twice, which the object hook refuses. -/
def Json.hasDuplicateKeys : Json → Bool
  | .list items => Json.anyDuplicateKeys items
  | .object pairs => !decide (pairs.map Prod.fst).Nodup || Json.pairDuplicateKeys pairs
  | _ => false

def Json.anyDuplicateKeys : List Json → Bool
  | [] => false
  | item :: items => item.hasDuplicateKeys || Json.anyDuplicateKeys items

def Json.pairDuplicateKeys : List (PyStr × Json) → Bool
  | [] => false
  | (_, value) :: pairs => value.hasDuplicateKeys || Json.pairDuplicateKeys pairs

end

/-! ## Parsing -/

/-- The constructor of a definition checks its range as a part. -/
def PartDefinition.ofInts (partNumber offsetBytes sizeBytes : Int) (expectedSha256 : Sha256Digest) :
    Except Failure PartDefinition := do
  let part ← MultipartPart.make partNumber offsetBytes sizeBytes
  pure ⟨part.partNumber, part.offsetBytes, part.sizeBytes, expectedSha256, part.number_pos,
    part.number_le, part.size_pos⟩

namespace PartPlan

def refused {α : Type} (message : String) : Except Failure α :=
  .error (.domain (.manifestMismatch message))

def parsePart : Json → Except Failure PartDefinition
  | .object pairs =>
      if Json.hasKeys pairs [text "part_number", text "offset_bytes", text "size_bytes",
          text "sha256"] then
        match Json.lookup pairs (text "part_number"), Json.lookup pairs (text "offset_bytes"),
            Json.lookup pairs (text "size_bytes"), Json.lookup pairs (text "sha256") with
        | some (.int partNumber), some (.int offset), some (.int size), some (.str digest) =>
            match Sha256Digest.parse (Manifest.digestText digest) with
            | .error _ => refused "PartPlan digest is not canonical."
            | .ok digest => PartDefinition.ofInts partNumber offset size digest
        | _, _, _, _ => refused "PartPlan part values are invalid."
      else refused "PartPlan part fields are invalid."
  | _ => refused "PartPlan part fields are invalid."

variable [Platform]

/-- Parse, validate, and reproduce an exact canonical PartPlan. A negative number fails the check
of its field, as zero does. -/
def parseCanonical (data : Bytes) : Except Failure PartPlan :=
  match jsonLoads data with
  | .error e =>
      -- The hook sees each object as it is closed, before the text fails further on.
      if ∃ keys ∈ jsonClosed data, ¬keys.Nodup then
        refused "PartPlan JSON contains duplicate keys."
      else
        match e with
        | .valueError => .error .valueError
        | .recursionError => .error .recursionError
        | _ => refused "PartPlan must be canonical UTF-8 JSON."
  | .ok payload =>
      if payload.hasDuplicateKeys then refused "PartPlan JSON contains duplicate keys."
      else
        match payload with
        | .object pairs =>
            if Json.hasKeys pairs [text "schema_version", text "blob_size_bytes",
                text "part_size_bytes", text "part_count", text "parts"] then
              match Json.lookup pairs (text "schema_version"),
                  Json.lookup pairs (text "blob_size_bytes"),
                  Json.lookup pairs (text "part_size_bytes"),
                  Json.lookup pairs (text "part_count"), Json.lookup pairs (text "parts") with
              | some (.int schemaVersion), some (.int blobSize), some (.int partSize),
                  some (.int partCount), some (.list items) => do
                  let definitions ← items.mapM parsePart
                  let plan ← build schemaVersion.toNat blobSize.toNat partSize.toNat definitions
                  if partCount ≠ plan.partCount ∨ plan.canonicalBytes ≠ data then
                    refused "PartPlan bytes are not canonical schema version 1."
                  else pure plan
              | _, _, _, _, _ => refused "PartPlan numeric and parts fields are invalid."
            else refused "PartPlan top-level fields are invalid."
        | _ => refused "PartPlan top-level fields are invalid."

/-! ## Reading the text back -/

def partPayload (part : PartDefinition) : Json :=
  .object [(text "part_number", .int part.partNumber), (text "offset_bytes", .int part.offsetBytes),
    (text "size_bytes", .int part.sizeBytes),
    (text "sha256", .str (asciiText (asciiChars part.expectedSha256.value)))]

def payload (p : PartPlan) : Json :=
  .object [(text "schema_version", .int p.schemaVersion),
    (text "blob_size_bytes", .int p.blobSizeBytes), (text "part_size_bytes", .int p.partSizeBytes),
    (text "part_count", .int p.partCount), (text "parts", .list (p.parts.map partPayload))]

/-- `json.loads` inverts `json.dumps` on the text of the plan. -/
def LoadsDumped (p : PartPlan) : Prop := jsonLoads p.canonicalBytes = .ok p.payload

omit [Platform] in
theorem hasDuplicateKeys_payload (p : PartPlan) : p.payload.hasDuplicateKeys = false := by
  have hparts : ∀ parts : List PartDefinition,
      Json.anyDuplicateKeys (parts.map partPayload) = false := by
    intro parts
    have hkeys : ([text "part_number", text "offset_bytes", text "size_bytes",
        text "sha256"] : List PyStr).Nodup := by decide
    induction parts with
    | nil => rfl
    | cons part parts ih =>
        rw [List.map_cons, Json.anyDuplicateKeys, ih, Bool.or_false, partPayload,
          Json.hasDuplicateKeys]
        simp [Json.pairDuplicateKeys, Json.hasDuplicateKeys, hkeys]
  have hkeys : ([text "schema_version", text "blob_size_bytes", text "part_size_bytes",
      text "part_count", text "parts"] : List PyStr).Nodup := by decide
  rw [payload, Json.hasDuplicateKeys]
  simp [Json.pairDuplicateKeys, Json.hasDuplicateKeys, hkeys, hparts]

omit [Platform] in
theorem parsePart_partPayload (part : PartDefinition) :
    parsePart (partPayload part) = .ok part := by
  have h₁ : text "offset_bytes" ≠ text "part_number" := by decide
  have h₂ : text "size_bytes" ≠ text "part_number" := by decide
  have h₃ : text "size_bytes" ≠ text "offset_bytes" := by decide
  have h₄ : text "sha256" ≠ text "part_number" := by decide
  have h₅ : text "sha256" ≠ text "offset_bytes" := by decide
  have h₆ : text "sha256" ≠ text "size_bytes" := by decide
  have hnumber := part.number_pos
  have hmax := part.number_le
  have hsize := part.size_pos
  have hmake : PartDefinition.ofInts part.partNumber part.offsetBytes part.sizeBytes
      part.expectedSha256 = .ok part := by
    have hn : (1 : Int) ≤ part.partNumber ∧ (part.partNumber : Int) ≤ maxParts := by omega
    have hs : 0 ≤ (part.offsetBytes : Int) ∧ 0 < (part.sizeBytes : Int) := by omega
    rw [PartDefinition.ofInts, MultipartPart.make, dif_pos hn, dif_pos hs]
    rfl
  simp [parsePart, partPayload, Json.hasKeys, Json.lookup, h₁, h₂, h₃, h₄, h₅, h₆,
    Manifest.digestText_value, Sha256Digest.parse_value, hmake]

theorem parseCanonical_of_loads {p : PartPlan} (h : p.LoadsDumped)
    (hbuild : build p.schemaVersion p.blobSizeBytes p.partSizeBytes p.parts = .ok p) :
    parseCanonical p.canonicalBytes = .ok p := by
  have h₁ : text "blob_size_bytes" ≠ text "schema_version" := by decide
  have h₂ : text "part_size_bytes" ≠ text "schema_version" := by decide
  have h₃ : text "part_size_bytes" ≠ text "blob_size_bytes" := by decide
  have h₄ : text "part_count" ≠ text "schema_version" := by decide
  have h₅ : text "part_count" ≠ text "blob_size_bytes" := by decide
  have h₆ : text "part_count" ≠ text "part_size_bytes" := by decide
  have h₇ : text "parts" ≠ text "schema_version" := by decide
  have h₈ : text "parts" ≠ text "blob_size_bytes" := by decide
  have h₉ : text "parts" ≠ text "part_size_bytes" := by decide
  have h₁₀ : text "parts" ≠ text "part_count" := by decide
  have hparts : (p.parts.map partPayload).mapM parsePart = .ok p.parts := by
    generalize p.parts = parts
    induction parts with
    | nil => rfl
    | cons part parts ih =>
        exact Except.mapM_cons_ok.mpr ⟨part, parts, parsePart_partPayload part, ih, rfl⟩
  unfold parseCanonical
  rw [h]
  dsimp only
  rw [hasDuplicateKeys_payload]
  simp [-List.mapM_map, payload, Json.hasKeys, Json.lookup, h₁, h₂, h₃, h₄, h₅, h₆, h₇, h₈, h₉,
    h₁₀, hparts, hbuild, bind, Except.bind, pure, Except.pure]

/-- An accepted text is the canonical text of its plan. -/
theorem canonicalBytes_of_parseCanonical {data : Bytes} {p : PartPlan}
    (h : parseCanonical data = .ok p) : p.canonicalBytes = data := by
  unfold parseCanonical at h
  split at h
  · split at h
    · cases h
    · split at h
      · cases h
      · cases h
      · cases h
  · split at h
    · cases h
    · split at h
      · split at h
        · split at h
          · obtain ⟨definitions, _, h⟩ := Except.bind_ok.mp h
            obtain ⟨plan, _, h⟩ := Except.bind_ok.mp h
            split at h
            · cases h
            · rename_i hcanonical
              cases h
              rw [not_or, not_not, not_not] at hcanonical
              exact hcanonical.2
          · cases h
        · cases h
      · cases h

end PartPlan

end RoboLake
