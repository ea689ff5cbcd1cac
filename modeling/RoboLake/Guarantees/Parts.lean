import RoboLake.Registry.Plans
import RoboLake.Registry.Receipts

/-! # Parts

Progress of a part is backed by its receipt and by a listing, and a part that was
reset takes a receipt again exactly when its stored one agrees.
-/

namespace RoboLake

open Foundation Store Migrations

/-! ## Progress -/

section Progress

variable [Platform] {r : Registry}

theorem numbers_of_planned {u : UploadSessionModel} (h : AllPlanned r.db)
    (hu : u ∈ r.db.sessions.rows) (hm : u.strategy = .multipart) :
    ∃ n, u.plannedPartCount = some n ∧
      (r.db.partsOf u.id).map UploadPartModel.partNumber = List.range' 1 n := by
  obtain ⟨plan, hcount, _, hranges⟩ := h u hu hm
  have hnumbers := congrArg (List.map Prod.fst) hranges
  rw [rangesOf, List.map_map, List.map_map] at hnumbers
  exact ⟨plan.partCount, hcount, hnumbers.trans plan.numbers⟩

/-- VERIFIED and UPLOADED parts have their receipts, finishing sessions have every planned part
VERIFIED, and the planned ranges of a session never change. -/
theorem progress_is_receipt_backed (h : store.Reachable r) :
    (∀ p ∈ r.db.parts.rows, p.state = .verified →
      p.uploadResponseEtag ≠ none ∧ p.listedEtag = p.uploadResponseEtag ∧
        p.uploadResponseChecksumSha256Base64 = some p.sha256.checksumBase64 ∧
        p.listedChecksumSha256Base64 = some p.sha256.checksumBase64 ∧
        p.listedSizeBytes = some p.sizeBytes) ∧
    (∀ p ∈ r.db.parts.rows, p.state = .uploaded → HasReceipt p) ∧
    (∀ u ∈ r.db.sessions.rows, u.state = .completing ∨ u.state = .completed →
      (∀ p ∈ r.db.partsOf u.id, p.state = .verified) ∧
        (u.strategy = .multipart → ∃ n, u.plannedPartCount = some n ∧
          (r.db.partsOf u.id).map UploadPartModel.partNumber = List.range' 1 n)) ∧
    ∀ u ∈ r.db.sessions.rows, ∀ calls,
      ((store.runFrom r calls).db.partsOf u.id).map plannedRange =
        (r.db.partsOf u.id).map plannedRange := by
  have hsound := partSound_of_reachable h
  refine ⟨fun p hp hv => ?_, fun p hp hu => ?_, fun u hu hf => ⟨fun p hp => ?_, ?_⟩,
    fun u hu => rangesOf_run h hu⟩
  · have hreceipt := (hsound p hp).receipt (by rw [hv]; nofun)
    obtain ⟨hetag, hchecksum, hsize⟩ := (hsound p hp).listing hv
    obtain ⟨etag, hresponse, _⟩ := hreceipt.etag
    exact ⟨by rw [hresponse]; nofun, hetag, hreceipt.checksum, hchecksum, hsize⟩
  · exact (hsound p hp).receipt (by rw [hu]; nofun)
  · obtain ⟨hp, hpu⟩ := Database.mem_partsOf.mp hp
    refine allVerified_of_reachable h u hu ?_ p hp hpu
    rcases hf with hf | hf
    · rw [hf]
      rfl
    · rw [hf]
      rfl
  · exact numbers_of_planned (allPlanned_of_reachable h) hu

end Progress

namespace Sample

/-- An uploaded part has its receipt, and the published session has its 75 parts VERIFIED. -/
theorem sample_progress_is_receipt_backed :
    HasReceipt (uploadedPart 0) ∧
    ∃ u, (store.runFrom store.start published).db.sessions.get? 300 = some u ∧
      (∃ n, u.plannedPartCount = some n ∧
        ((store.runFrom store.start published).db.partsOf u.id).map UploadPartModel.partNumber =
          List.range' 1 n) ∧
      (∀ p ∈ (store.runFrom store.start published).db.partsOf u.id,
        p.state = .verified ∧ p.uploadResponseEtag ≠ none ∧
          p.listedEtag = p.uploadResponseEtag) ∧
      ∀ calls, ((store.runFrom (store.runFrom store.start published) calls).db.partsOf u.id).map
        plannedRange =
          ((store.runFrom store.start published).db.partsOf u.id).map plannedRange := by
  obtain ⟨_, hsession, _⟩ := published_facts
  obtain ⟨u, hu, hrow⟩ := (Option.any_eq_true _ _).mp hsession
  obtain ⟨_, hmultipart, hcompleted⟩ := of_decide_eq_true hrow
  have hfirst : uploadedPart 0 ∈ uploaded.db.parts.rows := List.mem_ofFn.mpr ⟨0, rfl⟩
  have hmem := Relation.mem_of_get? hu
  obtain ⟨_, hreceipts, _⟩ := progress_is_receipt_backed reachable_uploaded
  obtain ⟨hverified, _, hfinished, hfrozen⟩ := progress_is_receipt_backed reachable_published
  obtain ⟨hparts, hnumbers⟩ := hfinished u hmem (.inr hcompleted)
  refine ⟨hreceipts _ hfirst rfl, u, hu, hnumbers hmultipart, fun p hp => ?_, hfrozen u hmem⟩
  have hstate := hparts p hp
  obtain ⟨hetag, hlisted, _⟩ := hverified p (Database.mem_partsOf.mp hp).1 hstate
  exact ⟨hstate, hetag, hlisted⟩

end Sample

end RoboLake
