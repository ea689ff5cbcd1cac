import RoboLake.Registry.Accepted
import RoboLake.Registry.Plans
import RoboLake.Registry.Receipts

/-! # Contexts that load

The context of a multipart session is rebuilt from its rows with every check of its
values made again. On planned rows with sound parts these checks all pass, so a
call that ends by loading a context never fails there.
-/

namespace RoboLake

open Foundation Work Store

/-! ## Part records -/

theorem partDefinition_of_range {p : UploadPartModel} {d : PartDefinition}
    (h : plannedRange p = definedRange d) : partDefinition p = .ok d := by
  obtain ⟨number, offset, size, sha256, hpos, hle, hsize⟩ := d
  simp only [plannedRange, definedRange, Prod.mk.injEq] at h
  obtain ⟨rfl, rfl, rfl, rfl⟩ := h
  simp [partDefinition, PartDefinition.make, hpos, hle, hsize]

theorem mapM_partDefinition {parts : List UploadPartModel} {ds : List PartDefinition}
    (h : parts.map plannedRange = ds.map definedRange) : parts.mapM partDefinition = .ok ds := by
  induction parts generalizing ds with
  | nil =>
      have hds : ds = [] := List.map_eq_nil_iff.mp h.symm
      rw [hds]
      rfl
  | cons p parts ih =>
      cases ds with
      | nil => cases h
      | cons d ds =>
          obtain ⟨hrange, hrest⟩ := List.cons.inj h
          rw [List.mapM_cons, partDefinition_of_range hrange, ih hrest]
          rfl

theorem responseReceipt_of_sound {p : UploadPartModel} (h : PartSound p)
    (hpos : 1 ≤ p.partNumber) (hle : p.partNumber ≤ maxParts) :
    ∃ receipt, responseReceipt p = .ok receipt := by
  unfold responseReceipt
  split
  · rename_i etag checksum hetag hchecksum
    have hreceipt : HasReceipt p := h.whole (by simp [hasAnyReceiptField, hetag])
    obtain ⟨etag', hetag', hne⟩ := hreceipt.etag
    have hsame : etag' = etag := Option.some.inj (hetag'.symm.trans hetag)
    have hspelling : checksum = p.sha256.checksumBase64 :=
      Option.some.inj (hchecksum.symm.trans hreceipt.checksum)
    have hdigest : sha256Base64ToDigest checksum = .ok p.sha256 := by
      rw [hspelling, sha256Base64ToDigest_checksumBase64]
    have hmake : CompletedPartReceipt.make p.partNumber etag checksum =
        .ok ⟨p.partNumber, etag, checksum, hpos, hle, hsame ▸ hne, by rw [hdigest]; rfl⟩ := by
      unfold CompletedPartReceipt.make
      rw [dif_pos ⟨hpos, hle⟩, dif_pos (hsame ▸ hne)]
      split
      · rfl
      · rename_i e herror
        rw [hdigest] at herror
        cases herror
    have hvalid : ∀ receipt : CompletedPartReceipt,
        receipt.responseChecksumSha256Base64 = checksum →
        receipt.validateFor p.sha256 = .ok receipt := by
      intro receipt hsum
      exact CompletedPartReceipt.validateFor_ok.mpr ⟨rfl, by rw [hsum, hdigest]⟩
    simp only [hmake, bind, Except.bind, hvalid]
    exact ⟨_, rfl⟩
  · exact ⟨none, rfl⟩

theorem uploadPartRecord_of_sound {p : UploadPartModel} {d : PartDefinition} (h : PartSound p)
    (hrange : plannedRange p = definedRange d) : ∃ record, uploadPartRecord p = .ok record := by
  have hnumber : p.partNumber = d.partNumber := (Prod.mk.inj hrange).1
  obtain ⟨receipt, hreceipt⟩ := responseReceipt_of_sound h (hnumber ▸ d.number_pos)
    (hnumber ▸ d.number_le)
  refine ⟨⟨p.uploadSessionId, d, p.state, receipt⟩, ?_⟩
  simp only [uploadPartRecord, hreceipt, partDefinition_of_range hrange]
  rfl

theorem mapM_uploadPartRecord {parts : List UploadPartModel} {ds : List PartDefinition}
    (h : parts.map plannedRange = ds.map definedRange) (hsound : ∀ p ∈ parts, PartSound p) :
    ∃ records, parts.mapM uploadPartRecord = .ok records := by
  induction parts generalizing ds with
  | nil => exact ⟨[], rfl⟩
  | cons p parts ih =>
      cases ds with
      | nil => cases h
      | cons d ds =>
          obtain ⟨hrange, hrest⟩ := List.cons.inj h
          obtain ⟨record, hrecord⟩ := uploadPartRecord_of_sound (hsound p List.mem_cons_self) hrange
          obtain ⟨records, hrecords⟩ := ih hrest fun q hq => hsound q (List.mem_cons_of_mem p hq)
          refine ⟨record :: records, ?_⟩
          rw [List.mapM_cons, hrecord, hrecords]
          rfl

/-! ## Plans -/

/-- The parts of a plan are in order already, so building it again gives the plan. -/
theorem PartPlan.build_parts (plan : PartPlan) :
    PartPlan.build plan.schemaVersion plan.blobSizeBytes plan.partSizeBytes plan.parts =
      .ok plan := by
  have hsorted : plan.parts.Pairwise fun a b => a.partNumber ≤ b.partNumber := by
    have hnumbers : (plan.parts.map PartDefinition.partNumber).Pairwise (· < ·) := by
      rw [plan.numbers]
      exact List.pairwise_lt_range'
    rw [List.pairwise_map] at hnumbers
    exact hnumbers.imp fun hlt => hlt.le
  unfold PartPlan.build
  simp only [hsorted.insertionSort_eq]
  split
  · rfl
  · rename_i e herror
    rw [hsorted.insertionSort_eq, plan.valid] at herror
    cases herror

/-! ## Contexts -/

variable [Platform]

structure ContextOf (u : UploadSessionModel) (plan : PartPlan) (context : MultipartUploadContext) :
    Prop where
  id : context.session.id = u.id
  blob : context.session.blobId = u.blobId
  generation : u.sessionGeneration = some context.session.generation
  state : context.session.state = u.state
  partPlan : context.session.partPlan = plan

theorem multipartContext_of_planned {db : Database} {u : UploadSessionModel} {plan : PartPlan}
    {b : BlobModel} (h : Planned db u plan) (hsound : ∀ p ∈ db.parts.rows, PartSound p)
    (hb : db.blobs.get? u.blobId = some b) :
    ∃ context, multipartContext u b (db.partsOf u.id) = .ok context ∧ ContextOf u plan context := by
  obtain ⟨generation, hgeneration⟩ := Option.ne_none_iff_exists'.mp h.generation
  obtain ⟨b', hb', hsize⟩ := h.blob
  have hsame : b' = b := Option.some.inj (hb'.symm.trans hb)
  rw [hsame] at hsize
  have hranges : (db.partsOf u.id).map plannedRange = plan.parts.map definedRange := h.ranges
  obtain ⟨records, hrecords⟩ := mapM_uploadPartRecord hranges fun p hp =>
    hsound p (Database.mem_partsOf.mp hp).1
  have hcontext : multipartContext u b (db.partsOf u.id) = .ok {
      session := {
        id := u.id
        blobId := u.blobId
        initiatingVersionId := u.initiatingVersionId
        generation := generation
        state := u.state
        partPlan := plan
        providerUploadId := u.providerUploadId
        completionPhase := u.completionPhase
        failureCode := u.failureCode }
      blob := blobRecord b
      parts := records } := by
    simp only [multipartContext, hgeneration, mapM_partDefinition hranges, h.schemaVersion,
      h.partSize, h.sha256, hsize, hrecords, plan.build_parts, bind, Except.bind]
    rfl
  exact ⟨_, hcontext, rfl, rfl, hgeneration, rfl, rfl⟩

theorem ends_loadMultipartContext {s : TxState} {u : UploadSessionModel} {plan : PartPlan}
    {Q : MultipartUploadContext → TxState → Prop} (h : Planned s.db u plan)
    (hsound : ∀ p ∈ s.db.parts.rows, PartSound p) (hQ : ∀ context, ContextOf u plan context →
      Q context s) : Ends (loadMultipartContext u) s Q := by
  obtain ⟨b, hb, _⟩ := h.blob
  obtain ⟨context, hcontext, hof⟩ := multipartContext_of_planned h hsound hb
  simp only [loadMultipartContext, ends_bind, ends_fetch, ends_select, ends_ofExcept]
  exact ⟨b, hb, context, hcontext, hQ context hof⟩

end RoboLake
