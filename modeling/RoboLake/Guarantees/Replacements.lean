import RoboLake.Registry.Accepted.Parts
import RoboLake.Registry.Contexts
import RoboLake.Guarantees.Reconciliation

/-! # Replaced parts

A part that a listing reset to PENDING keeps its receipt. The next upload of the part
answers with a receipt of its own, which the store takes only where it kept none or
the same one.
-/

namespace RoboLake

open Foundation Work Store Migrations

/-! ## Stored receipts -/

theorem CompletedPartReceipt.make_self (receipt : CompletedPartReceipt) :
    CompletedPartReceipt.make receipt.partNumber receipt.responseEtag
      receipt.responseChecksumSha256Base64 = .ok receipt := by
  unfold CompletedPartReceipt.make
  rw [dif_pos ⟨receipt.number_pos, receipt.number_le⟩, dif_pos receipt.etag_ne]
  split
  · rfl
  · rename_i e herror
    have hcanonical := receipt.checksum_canonical
    rw [herror] at hcanonical
    cases hcanonical

theorem CompletedPartReceipt.etag_of_make {n : Nat} {etag : String} {checksum : List Char}
    {receipt : CompletedPartReceipt}
    (h : CompletedPartReceipt.make n etag checksum = .ok receipt) :
    receipt.responseEtag = etag := by
  unfold CompletedPartReceipt.make at h
  split at h
  · split at h
    · split at h
      · cases h
        rfl
      · cases h
    · cases h
  · cases h

theorem responseReceipt_of_stored {p : UploadPartModel} {receipt : CompletedPartReceipt}
    (hnumber : p.partNumber = receipt.partNumber)
    (hetag : p.uploadResponseEtag = some receipt.responseEtag)
    (hchecksum : p.uploadResponseChecksumSha256Base64 = some receipt.responseChecksumSha256Base64)
    (hvalid : receipt.validateFor p.sha256 = .ok receipt) :
    responseReceipt p = .ok (some receipt) := by
  unfold responseReceipt
  rw [hetag, hchecksum, hnumber]
  simp only [receipt.make_self, bind, Except.bind, hvalid]
  rfl

theorem etag_of_responseReceipt {p : UploadPartModel} {receipt : CompletedPartReceipt}
    (h : responseReceipt p = .ok (some receipt)) :
    p.uploadResponseEtag = some receipt.responseEtag := by
  unfold responseReceipt at h
  split at h
  · rename_i etag checksum hetag _
    obtain ⟨made, hmade, h⟩ := Except.bind_ok.mp h
    obtain ⟨valid, hvalid, h⟩ := Except.bind_ok.mp h
    cases h
    obtain ⟨rfl, _⟩ := CompletedPartReceipt.validateFor_ok.mp hvalid
    rw [hetag, CompletedPartReceipt.etag_of_make hmade]
  · cases h

theorem uploadPartRecord_receipt {p : UploadPartModel} {record : UploadPartRecord}
    (h : uploadPartRecord p = .ok record) : responseReceipt p = .ok record.responseReceipt := by
  unfold uploadPartRecord at h
  obtain ⟨receipt, hreceipt, h⟩ := Except.bind_ok.mp h
  obtain ⟨definition, _, h⟩ := Except.bind_ok.mp h
  cases h
  exact hreceipt

theorem CompletedPartReceipt.validateFor_of_checksum {receipt : CompletedPartReceipt}
    {sha256 : Sha256Digest} (h : receipt.responseChecksumSha256Base64 = sha256.checksumBase64) :
    receipt.validateFor sha256 = .ok receipt :=
  validateFor_ok.mpr ⟨rfl, by rw [h, sha256Base64ToDigest_checksumBase64]⟩

/-! ## Recorded receipts -/

section Receipts

variable [Platform] {env : Env} {r : Registry} {u : UploadSessionModel} {p : UploadPartModel}
  {ownerId : UUID} {epoch : Nat} {receipt : CompletedPartReceipt}

omit [Platform] in
theorem partStep_withReceipt (h : PartStored p) (hpending : p.state = .pending)
    (hvalid : receipt.validateFor p.sha256 = .ok receipt) (now : Timestamp) :
    PartUpdated u p (withReceipt p receipt now) := by
  obtain ⟨_, hdigest⟩ := CompletedPartReceipt.validateFor_ok.mp hvalid
  have hchecks := h.checks
  simp only [partChecks, satisfied_cons, Rule.violated_range] at hchecks
  refine ⟨rfl, rfl, .inr ?_, partSound_withReceipt hvalid now, ⟨?_, h.checksums.2⟩,
    hchecks.2.2.1, ?_, fun hne => absurd hpending hne, fun hne => absurd hpending hne⟩
  · rw [hpending]
    simp [withReceipt, partEdges]
  · intro c hc
    cases hc
    exact (checksumBase64_of_sha256Base64ToDigest hdigest).symm
  · intro hverified
    cases hverified

theorem exists_definition (h : store.Reachable r) (hu : r.db.sessions.get? u.id = some u)
    (hm : u.strategy = .multipart) (hp : r.db.parts.get? (u.id, receipt.partNumber) = some p) :
    ∃ d : PartDefinition, plannedRange p = definedRange d := by
  obtain ⟨plan, hplan⟩ := planned_of_reachable h (Relation.mem_of_get? hu) hm
  have hkey : key p = (u.id, receipt.partNumber) := Relation.key_of_get? hp
  have hmem : p ∈ r.db.partsOf u.id :=
    Database.mem_partsOf.mpr ⟨Relation.mem_of_get? hp, congrArg Prod.fst hkey⟩
  have hrange : plannedRange p ∈ plan.parts.map definedRange :=
    hplan.ranges ▸ List.mem_map_of_mem hmem
  obtain ⟨d, _, hd⟩ := List.mem_map.mp hrange
  exact ⟨d, hd.symm⟩

/-- What the part stores once the receipt is accepted. -/
def StoresReceipt (p : UploadPartModel) (receipt : CompletedPartReceipt) : Prop :=
  p.uploadResponseEtag = some receipt.responseEtag ∧
    p.uploadResponseChecksumSha256Base64 = some receipt.responseChecksumSha256Base64

theorem ends_storeReceipt {s : TxState} {d : PartDefinition}
    {Q : UploadPartRecord → TxState → Prop} (hlawful : Lawful s.db)
    (hu : s.db.sessions.get? u.id = some u) (hm : u.strategy = .multipart)
    (hactive : u.state.isActive = true) (hp : s.db.parts.get? (key p) = some p)
    (hpu : p.uploadSessionId = u.id) (hstored : PartStored p) (hpending : p.state = .pending)
    (hvalid : receipt.validateFor p.sha256 = .ok receipt) (hrange : plannedRange p = definedRange d)
    (hQ : ∀ now record, Q record { s.ticked with
      db := { s.db with parts := s.db.parts.replace (withReceipt p receipt now) } }) :
    Ends (do
      let now ← clockTimestamp
      flushPart (withReceipt p receipt now)
      ofExcept (uploadPartRecord (withReceipt p receipt now))) s Q := by
  simp only [ends_bind]
  rw [ends_clockTimestamp]
  have hparent : s.db.sessions.get? p.uploadSessionId = some u := by
    rw [hpu]
    exact hu
  have hstep := partStep_withReceipt (u := u) hstored hpending hvalid s.ticked.now
  refine ends_flushPart hlawful hp (partRules_of_step hlawful hparent hm hactive hp hstep)
    fun _ => ?_
  obtain ⟨record, hrecord⟩ := uploadPartRecord_of_sound hstep.sound (d := d) hrange
  rw [ends_ofExcept]
  exact ⟨record, hrecord, hQ _ _⟩

/-- The current owner of a running session records a receipt of the planned digest for a PENDING
part that has no receipt or this one. -/
theorem transact_recordUploadedPart (h : store.Reachable r)
    (hu : r.db.sessions.get? u.id = some u) (hstate : u.state = .inProgress)
    (hlease : HoldsAdmission r.db u.id ownerId epoch (r.now + env.ticks.headD 0))
    (hp : r.db.parts.get? (u.id, receipt.partNumber) = some p) (hpending : p.state = .pending)
    (hchecksum : receipt.responseChecksumSha256Base64 = p.sha256.checksumBase64)
    (hfree : p.uploadResponseEtag = none ∨ p.uploadResponseEtag = some receipt.responseEtag) :
    ∃ record db, transact (recordUploadedPart u.id ownerId epoch receipt) env r =
        (.ok record, ⟨db, r.later env⟩) ∧
      (∃ p', db.parts.get? (u.id, receipt.partNumber) = some p' ∧ StoresReceipt p' receipt ∧
        plannedRange p' = plannedRange p) ∧
      ∃ activityAt, db.sessions.get? u.id = some { u with lastActivityAt := activityAt } := by
  have hm := multipart_of_holdsAdmission h hu hlease
  have hlawful := (committed_of_reachable h).lawful
  have hstored := partStored_of_reachable h p (Relation.mem_of_get? hp)
  have hvalid := CompletedPartReceipt.validateFor_of_checksum hchecksum
  have hkey : key p = (u.id, receipt.partNumber) := Relation.key_of_get? hp
  have hnumber : p.partNumber = receipt.partNumber := congrArg Prod.snd hkey
  have hpu : p.uploadSessionId = u.id := congrArg Prod.fst hkey
  obtain ⟨d, hrange⟩ := exists_definition h hu hm hp
  obtain ⟨record, hrecord⟩ := uploadPartRecord_of_sound hstored.sound hrange
  have hnow : ∀ clock, (beginTx env r).ticked.ticked.now ≤ clock → r.now ≤ clock :=
    fun _ hclock => ((elapses_ticked _).trans (elapses_ticked _)).now_le.trans hclock
  refine transact_of_ends ?_
  simp only [recordUploadedPart, ends_bind]
  refine ends_fetchAdmitted hu hstate hlease ?_
  rw [ends_clockTimestamp]
  refine @ends_updateSession _ _ _ u _ hlawful hu
    (sessionRules_of_activity hlawful hu hm hstate u.lastProviderReconciledAt _) fun hlawful₁ => ?_
  rw [ends_fetch]
  refine ⟨p, hp, ?_⟩
  rw [ends_ofExcept]
  refine ⟨receipt, hvalid, ?_⟩
  rw [ends_ofExcept]
  refine ⟨record, hrecord, ?_⟩
  have hnoted : ∀ activityAt, (r.db.sessions.replace { u with lastActivityAt := activityAt }).get?
      u.id = some { u with lastActivityAt := activityAt } := by
    intro activityAt
    exact Relation.get?_replace_self (r := { u with lastActivityAt := activityAt }) hu
  rcases hfree with hnone | hsame
  · have hany : hasAnyReceiptField p = false := by
      by_contra hsome
      obtain ⟨etag, hetag, _⟩ := (hstored.sound.whole (by simpa using hsome)).etag
      rw [hnone] at hetag
      cases hetag
    rw [hany, if_neg Bool.false_ne_true]
    let noted : UploadSessionModel := { u with
      lastProviderReconciledAt := u.lastProviderReconciledAt
      lastActivityAt := (beginTx env r).ticked.ticked.now }
    have hget : r.db.parts.get? (key p) = some p := hkey ▸ hp
    refine @ends_storeReceipt _ noted p receipt _ d _ ?_ (hnoted _) hm (by rw [hstate]; rfl) ?_ hpu
      hstored hpending hvalid hrange ?_
    · exact hlawful₁
    · exact hget
    · intro now record
      refine ⟨⟨⟨withReceipt p receipt now, ?_, ⟨rfl, rfl⟩, rfl⟩, _, hnoted _⟩, ?_⟩
      · have hself : (r.db.parts.replace (withReceipt p receipt now)).get? (key p) =
            some (withReceipt p receipt now) :=
          Relation.get?_replace_self (r := withReceipt p receipt now) hget
        rw [← hkey]
        exact hself
      · intro x hx clock hclock
        have htouched : x = .session u.blobId := by simpa using hx
        rw [htouched]
        exact publication_of_activity h hu hm hstate rfl hstate rfl rfl
          (hnow clock ((elapses_ticked _).now_le.trans hclock))
  · have hany : hasAnyReceiptField p = true := by simp [hasAnyReceiptField, hsame]
    have hstoredChecksum : p.uploadResponseChecksumSha256Base64 =
        some receipt.responseChecksumSha256Base64 := by
      rw [(hstored.sound.whole hany).checksum, hchecksum]
    have hreceipt : record.responseReceipt = some receipt := by
      have hread := uploadPartRecord_receipt hrecord
      rw [responseReceipt_of_stored hnumber hsame hstoredChecksum hvalid] at hread
      exact (Except.ok.inj hread).symm
    rw [if_pos hany]
    simp only [ends_bind, ends_fetch, ends_require]
    refine ⟨receipt, hreceipt, rfl, ?_⟩
    rw [ends_pure]
    refine ⟨⟨⟨p, hp, ⟨hsame, hstoredChecksum⟩, rfl⟩, _, hnoted _⟩, ?_⟩
    intro x hx clock hclock
    have htouched : x = .session u.blobId := by simpa using hx
    rw [htouched]
    exact publication_of_activity h hu hm hstate rfl hstate rfl rfl (hnow clock hclock)

/-! ## Replaced parts -/

theorem etag_of_recorded {record : UploadPartRecord} {r' : Registry}
    (hp : r.db.parts.get? (u.id, receipt.partNumber) = some p)
    (h : transact (recordUploadedPart u.id ownerId epoch receipt) env r = (.ok record, r')) :
    p.uploadResponseEtag = none ∨ p.uploadResponseEtag = some receipt.responseEtag := by
  have hok : (transact (recordUploadedPart u.id ownerId epoch receipt) env r).1 = .ok record := by
    rw [h]
  obtain ⟨s, hrun, _⟩ := returned_of_transact hok
  obtain ⟨x, hx, _, _, hrun⟩ := run_fetchAdmitted_bind_ok hrun
  simp only [run_clockTimestamp_bind, run_perform_bind_ok, run_fetch_bind_ok,
    run_ofExcept_bind_ok] at hrun
  obtain ⟨s₁, hw, part, hpart, _, _, stored, hstored, hrun⟩ := hrun
  obtain ⟨_, _, _, rfl⟩ := exec_updateSession_ok.mp hw
  have hsame : part = p := Option.some.inj (hpart.symm.trans hp)
  subst hsame
  by_cases hany : hasAnyReceiptField part = true
  · rw [if_pos hany] at hrun
    simp only [run_fetch_bind_ok, run_require_bind_ok] at hrun
    obtain ⟨existing, hexisting, heq, _⟩ := hrun
    have hread := uploadPartRecord_receipt hstored
    rw [hexisting, heq] at hread
    exact .inr (etag_of_responseReceipt hread)
  · left
    by_contra hsome
    obtain ⟨etag, hetag⟩ := Option.ne_none_iff_exists'.mp hsome
    exact hany (by simp [hasAnyReceiptField, hetag])

/-- The receipt is accepted and stored, and a listing that agrees with it and the planned size then
makes the part VERIFIED. -/
def Replaces (env : Env) (r : Registry) (sessionId ownerId : UUID) (epoch : Nat)
    (receipt : CompletedPartReceipt) (sizeBytes : Nat) : Prop :=
  ∃ record db, transact (recordUploadedPart sessionId ownerId epoch receipt) env r =
      (.ok record, ⟨db, r.later env⟩) ∧
    (∃ p, db.parts.get? (sessionId, receipt.partNumber) = some p ∧ StoresReceipt p receipt) ∧
    ∀ env' observations attribution,
      HoldsAdmission db sessionId ownerId epoch (r.later env + env'.ticks.headD 0) →
      distinctParts observations → allPlanned observations (db.partsOf sessionId) →
      (∀ o ∈ observations, o.sizeBytes < bigint) →
      (∃ o ∈ observations, o.partNumber = receipt.partNumber ∧ o.sizeBytes = sizeBytes ∧
        o.etag = receipt.responseEtag ∧
        o.checksumSha256Base64 = receipt.responseChecksumSha256Base64) →
      ∃ result db' p, transact (reconcileParts sessionId ownerId epoch observations attribution)
          env' ⟨db, r.later env⟩ = (.ok result, ⟨db', Registry.later ⟨db, r.later env⟩ env'⟩) ∧
        db'.parts.get? (sessionId, receipt.partNumber) = some p ∧ p.state = .verified

end Receipts

namespace Sample

/-- The first part was uploaded, and the provider then did not list it. -/
def reset : List Call :=
  running ++ [⟨.recordUploadedPart 300 400 1 (receipt 0), env 7⟩,
    ⟨.reconcileParts 300 400 1 [] .reconciled, env 8⟩]

def freshReceipt : CompletedPartReceipt where
  partNumber := 1
  responseEtag := "fresh"
  responseChecksumSha256Base64 := (partDigest 0).checksumBase64
  number_pos := number_pos 0
  number_le := number_le 0
  etag_ne := by decide
  checksum_canonical := checksum_canonical_first

set_option maxRecDepth 100000 in
theorem reset_facts :
    (((store.runFrom store.start reset).db.sessions.get? 300).any
      fun u => u.state = .inProgress) = true ∧
    HoldsAdmission (store.runFrom store.start reset).db 300 400 1
      ((store.runFrom store.start reset).now + (env 9).ticks.headD 0) ∧
    (((store.runFrom store.start reset).db.parts.get? (300, 1)).any
      fun p => p.state = .pending ∧ p.sha256 = partDigest 0 ∧
        p.uploadResponseEtag = some "etag") = true := by
  rw [reset, running, List.append_assoc, List.cons_append, runFrom_resolution]
  decide +kernel

end Sample

end RoboLake
