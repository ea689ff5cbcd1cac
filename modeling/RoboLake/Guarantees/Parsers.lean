import RoboLake.Domain.PartPlans
import RoboLake.Foundation.Raises
import RoboLake.Guarantees.Planning

/-! # Untrusted bytes

Both parsers answer bytes they do not accept with a domain error, at every step of their
own. What they pass on is what the JSON reader raises beside malformed text: an integer
literal that is too long, and nesting that is too deep.
-/

namespace RoboLake

open Foundation

/-- The errors that callers handle. -/
def IsDomainError (f : Failure) : Prop := ∃ e, f = .domain e

def IsManifestMismatch (f : Failure) : Prop := ∃ message, f = .domain (.manifestMismatch message)

section Parsers

/-! ## Parts of the texts -/

theorem isManifestMismatch (message : String) :
    IsManifestMismatch (.domain (.manifestMismatch message)) := ⟨message, rfl⟩

theorem Sha256Digest.parse_raises (raw : List Char) :
    OnlyRaises IsDomainError (Sha256Digest.parse raw) := by
  unfold Sha256Digest.parse
  split
  · exact .ok _
  · exact .error ⟨_, rfl⟩

theorem PartDefinition.ofInts_raises (number offset size : Int) (d : Sha256Digest) :
    OnlyRaises IsManifestMismatch (PartDefinition.ofInts number offset size d) := by
  unfold PartDefinition.ofInts MultipartPart.make
  refine .bind ?_ fun part _ => .ok _
  split
  · split
    · exact .ok _
    · exact .error (isManifestMismatch _)
  · exact .error (isManifestMismatch _)

theorem PartPlan.parsePart_raises (item : Json) :
    OnlyRaises IsManifestMismatch (PartPlan.parsePart item) := by
  unfold PartPlan.parsePart
  split
  · refine .ite (fun _ => ?_) fun _ => .error (isManifestMismatch _)
    split
    · split
      · exact .error (isManifestMismatch _)
      · exact PartDefinition.ofInts_raises _ _ _ _
    · exact .error (isManifestMismatch _)
  · exact .error (isManifestMismatch _)

theorem validateRangesFrom_raises {α : Type} [PartRange α] {partSize count : Nat} (parts : List α)
    (expected cursor : Nat) :
    OnlyRaises IsManifestMismatch (validateRangesFrom partSize count parts expected cursor) := by
  induction parts generalizing expected cursor with
  | nil => exact .ok cursor
  | cons part parts ih =>
      unfold validateRangesFrom
      refine .ite (fun _ => .error (isManifestMismatch _)) fun _ => ?_
      refine .ite (fun _ => .error (isManifestMismatch _)) fun _ => ?_
      exact .ite (fun _ => .error (isManifestMismatch _)) fun _ => ih _ _

theorem validateRanges_raises {α : Type} [PartRange α] (blobSize partSize : Nat) (parts : List α) :
    OnlyRaises IsManifestMismatch (validateRanges blobSize partSize parts) := by
  unfold validateRanges
  refine .ite (fun _ => .error (isManifestMismatch _)) fun _ => ?_
  refine .bind (validateRangesFrom_raises parts 1 0) fun cursor _ => ?_
  exact .ite (fun _ => .error (isManifestMismatch _)) fun _ => .ok ()

theorem PartPlan.check_raises (schemaVersion blobSize partSize : Nat)
    (parts : List PartDefinition) :
    OnlyRaises IsManifestMismatch (PartPlan.check schemaVersion blobSize partSize parts) := by
  unfold PartPlan.check
  refine .ite (fun _ => .error (isManifestMismatch _)) fun _ => ?_
  refine .ite (fun _ => .error (isManifestMismatch _)) fun hsize => ?_
  have hlimits := not_not.mp hsize
  obtain ⟨selected, hselected⟩ := selectPartSize_total hlimits.2
  have hselect : selectMultipartPartSize blobSize = .ok selected := by
    unfold selectMultipartPartSize
    rw [if_pos hlimits]
    exact hselected
  rw [hselect]
  refine .bind (.ok selected) fun _ _ => ?_
  exact .ite (fun _ => .error (isManifestMismatch _)) fun _ => validateRanges_raises _ _ parts

theorem PartPlan.build_raises (schemaVersion blobSize partSize : Nat)
    (parts : List PartDefinition) :
    OnlyRaises IsManifestMismatch (PartPlan.build schemaVersion blobSize partSize parts) := by
  unfold PartPlan.build
  simp only
  split
  · exact .ok _
  · rename_i e hcheck
    exact .error (PartPlan.check_raises _ _ _ _ e hcheck)

variable [Platform]

theorem RelativePath.parse_raises (raw : PyStr) :
    OnlyRaises IsDomainError (RelativePath.parse raw) := by
  unfold RelativePath.parse
  split
  · exact .error ⟨_, rfl⟩
  · split
    · exact .ok _
    · exact .error ⟨_, rfl⟩

theorem Manifest.parseEntry_raises (fields : PyStr × Int × PyStr) :
    OnlyRaises IsDomainError (Manifest.parseEntry fields) := by
  unfold Manifest.parseEntry ManifestEntry.make
  refine .bind (RelativePath.parse_raises _) fun path _ => ?_
  refine .bind (Sha256Digest.parse_raises _) fun digest _ => ?_
  exact .ite (fun _ => .error ⟨_, rfl⟩) fun _ => .ok _

theorem Manifest.build_raises (supplied : List ManifestEntry) :
    OnlyRaises IsDomainError (Manifest.build supplied) := by
  unfold Manifest.build
  refine .ite (fun _ => .error ⟨_, rfl⟩) fun _ => ?_
  simp only
  refine .ite (fun _ => .error ⟨_, rfl⟩) fun _ => ?_
  refine .ite (fun _ => .error ⟨_, rfl⟩) fun _ => ?_
  exact .ite (fun _ => .error ⟨_, rfl⟩) fun _ => .ok _

/-! ## The reader -/

/-- The reader meets an integer literal that is too long, or nesting that is too deep. -/
def ReaderGivesUp (data : Bytes) : Prop :=
  jsonLoads data = .error .valueError ∨ jsonLoads data = .error .recursionError

/-- What is read is refused with a domain error or accepted. -/
theorem Manifest.fromCanonicalBytes_raises {data : Bytes}
    (h : maxManifestBytes < data.length ∨ ¬ReaderGivesUp data) :
    OnlyRaises IsDomainError (Manifest.fromCanonicalBytes data) := by
  unfold Manifest.fromCanonicalBytes
  refine .ite (fun _ => .error ⟨_, rfl⟩) fun hsmall => ?_
  have hread := h.resolve_left hsmall
  unfold ReaderGivesUp at hread
  split
  · rename_i hvalue
    exact absurd (.inl hvalue) hread
  · rename_i hdeep
    exact absurd (.inr hdeep) hread
  · exact .error ⟨_, rfl⟩
  · split
    · refine .ite (fun _ => ?_) fun _ => .error ⟨_, rfl⟩
      split
      · refine .ite (fun _ => ?_) fun _ => .error ⟨_, rfl⟩
        split
        · exact .error ⟨_, rfl⟩
        · refine .bind (.mapM _ fun fields _ => Manifest.parseEntry_raises fields)
            fun entries _ => ?_
          refine .bind (Manifest.build_raises entries) fun rebuilt _ => ?_
          exact .ite (fun _ => .ok _) fun _ => .error ⟨_, rfl⟩
      · exact .error ⟨_, rfl⟩
    · exact .error ⟨_, rfl⟩

theorem PartPlan.parseCanonical_raises {data : Bytes}
    (h : (∃ keys ∈ jsonClosed data, ¬keys.Nodup) ∨ ¬ReaderGivesUp data) :
    OnlyRaises IsManifestMismatch (PartPlan.parseCanonical data) := by
  unfold PartPlan.parseCanonical
  split
  · rename_i e hread
    refine .ite (fun _ => .error (isManifestMismatch _)) fun hunique => ?_
    have hreader := h.resolve_left hunique
    unfold ReaderGivesUp at hreader
    rw [hread] at hreader
    split
    · exact absurd (.inl rfl) hreader
    · exact absurd (.inr rfl) hreader
    · exact .error (isManifestMismatch _)
  · refine .ite (fun _ => .error (isManifestMismatch _)) fun _ => ?_
    split
    · refine .ite (fun _ => ?_) fun _ => .error (isManifestMismatch _)
      split
      · refine .bind (.mapM _ fun item _ => PartPlan.parsePart_raises item) fun definitions _ => ?_
        refine .bind (PartPlan.build_raises _ _ _ definitions) fun plan _ => ?_
        exact .ite (fun _ => .error (isManifestMismatch _)) fun _ => .ok plan
      · exact .error (isManifestMismatch _)
    · exact .error (isManifestMismatch _)

/-! ## What escapes -/

theorem Manifest.fromCanonicalBytes_escapes {data : Bytes}
    (hsmall : ¬maxManifestBytes < data.length)
    (h : ReaderGivesUp data) : ¬OnlyRaises IsDomainError (Manifest.fromCanonicalBytes data) := by
  intro hall
  unfold Manifest.fromCanonicalBytes at hall
  rw [if_neg hsmall] at hall
  rcases h with hread | hread
  · rw [hread] at hall
    obtain ⟨e, he⟩ := OnlyRaises.error_iff.mp hall
    cases he
  · rw [hread] at hall
    obtain ⟨e, he⟩ := OnlyRaises.error_iff.mp hall
    cases he

/-- So does the plan parser, unless its hook has refused an object before. -/
theorem PartPlan.parseCanonical_escapes {data : Bytes}
    (hunique : ¬∃ keys ∈ jsonClosed data, ¬keys.Nodup) (h : ReaderGivesUp data) :
    ¬OnlyRaises IsManifestMismatch (PartPlan.parseCanonical data) := by
  intro hall
  unfold PartPlan.parseCanonical at hall
  rcases h with hread | hread
  · simp only [hread, if_neg hunique] at hall
    obtain ⟨message, he⟩ := OnlyRaises.error_iff.mp hall
    cases he
  · simp only [hread, if_neg hunique] at hall
    obtain ⟨message, he⟩ := OnlyRaises.error_iff.mp hall
    cases he

/-- Untrusted bytes meet a domain error or are accepted exactly when the reader does not give up
on them, or the parser has refused them before it does. -/
theorem untrusted_bytes_raise_domain_errors_iff (data : Bytes) :
    (OnlyRaises IsDomainError (Manifest.fromCanonicalBytes data) ↔
      maxManifestBytes < data.length ∨ ¬ReaderGivesUp data) ∧
    (OnlyRaises IsManifestMismatch (PartPlan.parseCanonical data) ↔
      (∃ keys ∈ jsonClosed data, ¬keys.Nodup) ∨ ¬ReaderGivesUp data) := by
  refine ⟨⟨fun hall => ?_, Manifest.fromCanonicalBytes_raises⟩,
    ⟨fun hall => ?_, PartPlan.parseCanonical_raises⟩⟩
  · by_contra hnot
    obtain ⟨hsmall, hgives⟩ := not_or.mp hnot
    exact Manifest.fromCanonicalBytes_escapes hsmall (not_not.mp hgives) hall
  · by_contra hnot
    obtain ⟨hunique, hgives⟩ := not_or.mp hnot
    exact PartPlan.parseCanonical_escapes hunique (not_not.mp hgives) hall

end Parsers

end RoboLake

namespace RoboLake.Sample

open Foundation

/-- A platform whose JSON reader knows the numbers of nines, up to the digits an integer may
have. -/
@[reducible]
def nines : Platform :=
  { platform with
    jsonLoads := fun data =>
      if data = [] ∨ ∃ b ∈ data, b ≠ 57 then .error .jsonDecodeError
      else if 4300 < data.length then .error .valueError
      else .ok (.int (10 ^ data.length - 1)) }

def longInteger : Bytes := List.replicate 4301 57

theorem length_longInteger : longInteger.length = 4301 := List.length_replicate

theorem jsonLoads_longInteger : nines.jsonLoads longInteger = .error .valueError := by
  have hnines : ¬(longInteger = [] ∨ ∃ b ∈ longInteger, b ≠ 57) := by
    rw [not_or]
    constructor
    · intro hempty
      have hlength := length_longInteger
      rw [hempty] at hlength
      cases hlength
    · intro hother
      obtain ⟨b, hb, hne⟩ := hother
      exact hne (List.eq_of_mem_replicate hb)
  have hlong : 4300 < longInteger.length := by
    rw [length_longInteger]
    decide
  change (if longInteger = [] ∨ ∃ b ∈ longInteger, b ≠ 57 then _ else _) = _
  rw [if_neg hnines, if_pos hlong]

/-- An integer literal of 4,301 digits leaves both parsers with a plain `ValueError`. -/
theorem sample_long_integer_escapes :
    (¬∀ data, OnlyRaises IsDomainError (@Manifest.fromCanonicalBytes nines data)) ∧
      ¬∀ data, OnlyRaises IsManifestMismatch (@PartPlan.parseCanonical nines data) := by
  have hgives : @ReaderGivesUp nines longInteger := .inl jsonLoads_longInteger
  have hsmall : ¬maxManifestBytes < longInteger.length := by
    rw [length_longInteger]
    decide
  have hunique : ¬∃ keys ∈ nines.jsonClosed longInteger, ¬keys.Nodup := by
    intro hkeys
    obtain ⟨keys, hmem, _⟩ := hkeys
    exact absurd hmem List.not_mem_nil
  exact ⟨fun hall => @Manifest.fromCanonicalBytes_escapes nines _ hsmall hgives (hall longInteger),
    fun hall => @PartPlan.parseCanonical_escapes nines _ hunique hgives (hall longInteger)⟩

end RoboLake.Sample
