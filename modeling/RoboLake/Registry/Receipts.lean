import RoboLake.Registry.Reachable

/-! # Receipts and listings of parts

What a part knows about its upload: a receipt is stored whole or not at all, every
part beyond PENDING has one, and a VERIFIED part was confirmed by a listing that
agrees with its receipt and its plan.
-/

namespace RoboLake

open Foundation Store

/-! ## Observations -/

/-- The observation agrees with the plan and with the stored receipt of the part. -/
structure Confirms (o : ProviderPartObservation) (part : UploadPartModel) : Prop where
  size : o.sizeBytes = part.sizeBytes
  checksum : o.checksumSha256Base64 = part.sha256.checksumBase64
  etag : part.uploadResponseEtag = some o.etag
  receipt : part.uploadResponseChecksumSha256Base64 = some o.checksumSha256Base64

def confirmedPart (part : UploadPartModel) (o : ProviderPartObservation) (observedAt : Timestamp) :
    UploadPartModel :=
  { part with
    listedEtag := some o.etag
    listedChecksumSha256Base64 := some o.checksumSha256Base64
    listedSizeBytes := some o.sizeBytes
    providerListedAt := some observedAt
    lastErrorCode := none }

theorem applyProviderPartObservation_of_confirms {o : ProviderPartObservation}
    {part : UploadPartModel} (h : Confirms o part) (observedAt : Timestamp) :
    applyProviderPartObservation part (some o) observedAt =
      (confirmedPart part o observedAt, true) := by
  obtain ⟨hsize, hchecksum, hetag, hreceipt⟩ := h
  rw [hchecksum] at hreceipt
  simp [applyProviderPartObservation, confirmedPart, hsize, hchecksum, hetag, hreceipt]

theorem isConfirmed_iff {part : UploadPartModel} {observation : Option ProviderPartObservation}
    {observedAt : Timestamp} :
    isConfirmed part observation observedAt = true ↔
      ∃ o, observation = some o ∧ Confirms o part := by
  constructor
  · intro h
    cases observation with
    | none => cases h
    | some o =>
        refine ⟨o, rfl, ?_⟩
        simp only [isConfirmed, applyProviderPartObservation] at h
        split at h
        · cases h
        · rename_i hsize
          split at h
          · cases h
          · rename_i hchecksum
            split at h
            · cases h
            · split at h
              · cases h
              · rename_i hmatch
                simp only [ne_eq, not_or, not_not] at hsize hchecksum hmatch
                exact ⟨hsize, hchecksum, hmatch.1, hmatch.2⟩
  · rintro ⟨o, rfl, h⟩
    rw [isConfirmed, applyProviderPartObservation_of_confirms h]

theorem observedPart_of_confirms {o : ProviderPartObservation} {part : UploadPartModel}
    (h : Confirms o part) (observedAt : Timestamp) :
    observedPart part (some o) observedAt = { confirmedPart part o observedAt with
      state := if part.state = .pending then .uploaded else part.state } := by
  simp only [observedPart, applyProviderPartObservation_of_confirms h, if_true]
  by_cases hpending : part.state = .pending
  · simp [confirmedPart, hpending]
  · simp [confirmedPart, hpending]

theorem observedPart_reset {part : UploadPartModel} {observation : Option ProviderPartObservation}
    {observedAt : Timestamp} (h : isConfirmed part observation observedAt = false) :
    (observedPart part observation observedAt).state = .pending := by
  rw [isConfirmed] at h
  simp [observedPart, h]

/-! ## Sound parts -/

/-- The part has a complete receipt for its planned digest. -/
structure HasReceipt (p : UploadPartModel) : Prop where
  etag : ∃ etag, p.uploadResponseEtag = some etag ∧ etag ≠ ""
  checksum : p.uploadResponseChecksumSha256Base64 = some p.sha256.checksumBase64
  received : p.uploadResponseReceivedAt ≠ none
  uploaded : p.uploadedAt ≠ none

/-- A listing agrees with the receipt, the planned digest and the planned size. -/
structure HasListing (p : UploadPartModel) : Prop where
  etag : p.listedEtag = p.uploadResponseEtag
  checksum : p.listedChecksumSha256Base64 = some p.sha256.checksumBase64
  size : p.listedSizeBytes = some p.sizeBytes

/-- A receipt is whole or absent, and progress is backed by it. -/
structure PartSound (p : UploadPartModel) : Prop where
  whole : hasAnyReceiptField p = true → HasReceipt p
  progress : p.state ≠ .pending → hasAnyReceiptField p = true
  listing : p.state = .verified → HasListing p

theorem PartSound.receipt {p : UploadPartModel} (h : PartSound p) (hstate : p.state ≠ .pending) :
    HasReceipt p := h.whole (h.progress hstate)

theorem partSound_pending (sessionId : UUID) (d : PartDefinition) :
    PartSound (pendingPart sessionId d) where
  whole := nofun
  progress := fun h => absurd rfl h
  listing := nofun

theorem partSound_withReceipt {part : UploadPartModel} {receipt receipt' : CompletedPartReceipt}
    (h : receipt.validateFor part.sha256 = .ok receipt') (now : Timestamp) :
    PartSound (withReceipt part receipt now) where
  whole _ := by
    obtain ⟨_, hdigest⟩ := CompletedPartReceipt.validateFor_ok.mp h
    refine ⟨⟨_, rfl, receipt.etag_ne⟩, ?_, nofun, nofun⟩
    rw [withReceipt, checksumBase64_of_sha256Base64ToDigest hdigest]
  progress _ := rfl
  listing := nofun

theorem hasAnyReceiptField_observedPart (p : UploadPartModel)
    (observation : Option ProviderPartObservation) (observedAt : Timestamp) :
    hasAnyReceiptField (observedPart p observation observedAt) = hasAnyReceiptField p := by
  obtain ⟨_, _, _, _, _, _, _, hrow⟩ := observedPart_frame p observation observedAt
  rw [hrow]
  rfl

theorem hasReceipt_observedPart {p : UploadPartModel} (h : HasReceipt p)
    (observation : Option ProviderPartObservation) (observedAt : Timestamp) :
    HasReceipt (observedPart p observation observedAt) := by
  obtain ⟨_, _, _, _, _, _, _, hrow⟩ := observedPart_frame p observation observedAt
  rw [hrow]
  exact ⟨h.etag, h.checksum, h.received, h.uploaded⟩

theorem hasAnyReceiptField_of_confirms {o : ProviderPartObservation} {p : UploadPartModel}
    (h : Confirms o p) : hasAnyReceiptField p = true := by
  simp [hasAnyReceiptField, h.etag]

theorem hasListing_confirmedPart {o : ProviderPartObservation} {p : UploadPartModel}
    (h : Confirms o p) (observedAt : Timestamp) : HasListing (confirmedPart p o observedAt) where
  etag := h.etag.symm
  checksum := congrArg some h.checksum
  size := congrArg some h.size

theorem partSound_observedPart {p : UploadPartModel} (h : PartSound p)
    (observation : Option ProviderPartObservation) (observedAt : Timestamp) :
    PartSound (observedPart p observation observedAt) := by
  have hany := hasAnyReceiptField_observedPart p observation observedAt
  cases hc : isConfirmed p observation observedAt with
  | false =>
      have hreset := observedPart_reset hc
      refine ⟨fun ha => hasReceipt_observedPart (h.whole (hany ▸ ha)) _ _,
        fun hn => absurd hreset hn, fun hv => ?_⟩
      rw [hreset] at hv
      cases hv
  | true =>
      obtain ⟨o, rfl, ho⟩ := isConfirmed_iff.mp hc
      have hreceipt := hasAnyReceiptField_of_confirms ho
      refine ⟨fun _ => hasReceipt_observedPart (h.whole hreceipt) _ _,
        fun _ => hany.trans hreceipt, fun _ => ?_⟩
      rw [observedPart_of_confirms ho]
      obtain ⟨hetag, hchecksum, hsize⟩ := hasListing_confirmedPart ho observedAt
      exact ⟨hetag, hchecksum, hsize⟩

theorem partSound_verified {p : UploadPartModel} (h : PartSound p)
    {observation : Option ProviderPartObservation} {observedAt : Timestamp}
    (hc : isConfirmed p observation observedAt = true) (verifiedAt : Option Timestamp) :
    PartSound { observedPart p observation observedAt with
      state := .verified, verifiedAt := verifiedAt } := by
  obtain ⟨o, rfl, ho⟩ := isConfirmed_iff.mp hc
  have hreceipt := hasAnyReceiptField_of_confirms ho
  obtain ⟨hetag, hchecksum, hreceived, huploaded⟩ := h.whole hreceipt
  obtain ⟨hlisted, hlistedChecksum, hsize⟩ := hasListing_confirmedPart ho observedAt
  rw [observedPart_of_confirms ho]
  exact ⟨fun _ => ⟨hetag, hchecksum, hreceived, huploaded⟩, fun _ => hreceipt,
    fun _ => ⟨hlisted, hlistedChecksum, hsize⟩⟩

theorem partSound_reconciledPart {p : UploadPartModel} (h : PartSound p)
    (observations : List ProviderPartObservation) (observedAt : Timestamp) :
    PartSound (reconciledPart observations observedAt p) := by
  unfold reconciledPart
  split
  · rename_i hnew
    rw [isNewlyResolved, Bool.and_eq_true] at hnew
    exact partSound_verified h hnew.1 _
  · exact partSound_observedPart h _ _

theorem partSound_recoveredOrReset {p : UploadPartModel} (h : PartSound p)
    (observations : List ProviderPartObservation) (observedAt : Timestamp) :
    PartSound (recoveredOrReset observations observedAt p) := by
  unfold recoveredOrReset
  split
  · rename_i hc
    exact partSound_verified h hc _
  · exact partSound_observedPart h _ _

/-! ## Every reachable registry -/

variable [Platform]

omit [Platform] in
theorem PartsMapped.sound {sessionId : UUID} {g : UploadPartModel → UploadPartModel}
    {parts parts' : Relation UploadPartModel} (hmap : PartsMapped sessionId g parts parts')
    (hg : ∀ p, PartSound p → PartSound (g p)) (h : ∀ p ∈ parts.rows, PartSound p) :
    ∀ p ∈ parts'.rows, PartSound p := by
  intro p' hp'
  obtain ⟨p, hp, rfl, _⟩ := hmap.mem hp'
  split
  · exact hg p (h p hp)
  · exact h p hp

theorem partSound_of_effect {env : Env} {r : Registry} {op : Operation} {db : Database}
    (heffect : Effect env r op db) (h : ∀ p ∈ r.db.parts.rows, PartSound p) :
    ∀ p ∈ db.parts.rows, PartSound p := by
  cases heffect with
  | multipartCreated _ _ _ _ _ hparts _ =>
      intro p hp
      rw [parts_bind, hparts, List.mem_append, List.mem_map] at hp
      rcases hp with hp | ⟨d, _, rfl⟩
      · exact h p hp
      · exact partSound_pending _ d
  | partRecorded _ _ _ _ hreceipt _ =>
      exact Relation.forall_replace h (partSound_withReceipt hreceipt _)
  | partsReconciled _ _ _ hparts =>
      exact hparts.sound (fun _ hp => partSound_reconciledPart hp _ _) h
  | partsRecovered _ _ _ hparts _ =>
      exact hparts.sound (fun _ hp => partSound_recoveredOrReset hp _ _) h
  | completionResumed _ _ _ _ hparts _ =>
      exact hparts.sound (fun _ hp => partSound_recoveredOrReset hp _ _) h
  | _ => exact h

theorem partSound_of_reachable {r : Registry} (h : store.Reachable r) :
    ∀ p ∈ r.db.parts.rows, PartSound p :=
  reachable_induction (I := fun r => ∀ p ∈ r.db.parts.rows, PartSound p) (fun _ hp => by cases hp)
    (fun _ _ _ _ _ _ _ => partSound_of_effect) h

end RoboLake
