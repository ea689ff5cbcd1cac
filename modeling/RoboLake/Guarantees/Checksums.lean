import RoboLake.Registry.Receipts

/-! # Spellings of a digest

The registry stores Base64 texts and compares texts, while a receipt is validated by the
digest it decodes to. Only the canonical text of a digest is accepted, so the two
comparisons agree.
-/

namespace RoboLake

open Foundation Store Migrations

section Checksums

variable {d : Sha256Digest} {s : List Char}

/-- Exactly the canonical text of a digest decodes to it. -/
theorem sha256Base64ToDigest_ok :
    sha256Base64ToDigest s = .ok d ↔ s = sha256DigestToBase64 d := by
  constructor
  · intro h
    exact (checksumBase64_of_sha256Base64ToDigest h).symm
  · intro h
    rw [h]
    exact sha256Base64ToDigest_checksumBase64 d

/-- The trigger lets exactly the texts pass that decode to the planned digest. -/
theorem not_holds_checksumDiffers_some :
    ¬(checksumDiffers d (some s)).Holds ↔ sha256Base64ToDigest s = .ok d := by
  rw [sha256Base64ToDigest_ok]
  have hcanonical : isNoncanonicalBase64 (sha256DigestToBase64 d) = false := by
    unfold isNoncanonicalBase64 sha256DigestToBase64
    rw [Base64.decode_encode]
    simp
  simp only [checksumDiffers, Ternary.holds_lift]
  constructor
  · intro h
    by_contra hne
    exact h ⟨s, rfl, .inl hne⟩
  · intro h hdiffers
    obtain ⟨c, hc, hdiffers⟩ := hdiffers
    cases hc
    subst h
    rcases hdiffers with hne | hnoncanonical
    · exact hne rfl
    · rw [hcanonical] at hnoncanonical
      cases hnoncanonical

/-! ## Compared texts -/

theorem validateFor_of_text {receipt : CompletedPartReceipt} :
    receipt.responseChecksumSha256Base64 = sha256DigestToBase64 d ↔
      receipt.validateFor d = .ok receipt := by
  rw [CompletedPartReceipt.validateFor_ok, sha256Base64ToDigest_ok]
  exact ⟨fun h => ⟨rfl, h⟩, fun h => h.2⟩

/-- An observation confirms a part whose receipt has its ETag, where both texts decode to the
planned digest. -/
def ConfirmedBy (part : UploadPartModel) (observation : ProviderPartObservation) : Prop :=
  observation.sizeBytes = part.sizeBytes ∧
    sha256Base64ToDigest observation.checksumSha256Base64 = .ok part.sha256 ∧
    part.uploadResponseEtag = some observation.etag ∧
    ∃ checksum, part.uploadResponseChecksumSha256Base64 = some checksum ∧
      sha256Base64ToDigest checksum = .ok part.sha256

theorem isConfirmed_iff_confirmedBy {part : UploadPartModel}
    {observation : ProviderPartObservation} {observedAt : Timestamp} :
    isConfirmed part (some observation) observedAt = true ↔ ConfirmedBy part observation := by
  have htext : part.sha256.checksumBase64 = sha256DigestToBase64 part.sha256 := rfl
  rw [isConfirmed_iff]
  simp only [ConfirmedBy, sha256Base64ToDigest_ok]
  constructor
  · intro h
    obtain ⟨o, ho, hsize, hchecksum, hetag, hreceipt⟩ := h
    cases ho
    rw [hchecksum, htext] at hreceipt
    exact ⟨hsize, hchecksum, hetag, _, hreceipt, rfl⟩
  · intro h
    obtain ⟨hsize, hchecksum, hetag, checksum, hreceipt, rfl⟩ := h
    refine ⟨observation, rfl, hsize, hchecksum, hetag, ?_⟩
    rw [hchecksum]
    exact hreceipt

/-- One text spells a digest, and comparing texts decides what comparing digests does: in the
receipt, in the trigger of the part table and in the reconciliation of a listed part. -/
theorem digest_spellings_correspond (d : Sha256Digest) :
    (sha256Base64ToDigest (sha256DigestToBase64 d) = .ok d ∧
      sha256DigestToBase64 d = d.checksumBase64) ∧
    (∀ s, sha256Base64ToDigest s = .ok d ↔ s = sha256DigestToBase64 d) ∧
    (∀ receipt : CompletedPartReceipt,
      receipt.responseChecksumSha256Base64 = sha256DigestToBase64 d ↔
        receipt.validateFor d = .ok receipt) ∧
    (∀ s, ¬(checksumDiffers d (some s)).Holds ↔ sha256Base64ToDigest s = .ok d) ∧
    ∀ part observation observedAt,
      isConfirmed part (some observation) observedAt = true ↔ ConfirmedBy part observation :=
  ⟨⟨sha256Base64ToDigest_checksumBase64 d, rfl⟩, fun _ => sha256Base64ToDigest_ok,
    fun _ => validateFor_of_text, fun _ => not_holds_checksumDiffers_some,
    fun _ _ _ => isConfirmed_iff_confirmedBy⟩

end Checksums

end RoboLake
