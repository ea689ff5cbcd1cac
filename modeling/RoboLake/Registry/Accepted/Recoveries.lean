import RoboLake.Registry.Accepted.Parts
import RoboLake.Registry.Contexts

/-! # Recoveries that resume

A recovery whose evidence leaves some part unresolved gives the session back to its
upload: the facts are recorded, the parts are reconciled, the session runs again and
the lease of the claim ends.
-/

namespace RoboLake

open Foundation Work Store Migrations

variable [Platform] {env : Env} {r : Registry}

/-! ## Renewals -/

theorem renewals_of_effect {op : Operation} {db : Database} (heffect : Effect env r op db)
    (h : ∀ l ∈ r.db.completionLeases.rows, l.renewedAt ≤ r.now) :
    ∀ l ∈ db.completionLeases.rows, l.renewedAt ≤ r.later env := by
  have hlater : ∀ l ∈ r.db.completionLeases.rows, l.renewedAt ≤ r.later env := by
    intro l hl
    exact (h l hl).trans (Nat.le_add_right _ _)
  cases heffect with
  | completionClaimed _ _ _ _ hnow _ hnone _ => exact Relation.forall_insert hlater hnone hnow
  | completionTaken _ _ _ _ hnow _ _ _ _ => exact Relation.forall_replace hlater hnow
  | completionRenewed _ _ hnow => exact Relation.forall_replace hlater hnow
  | attemptInvalidated _ _ _ _ hnow => exact Relation.forall_replace hlater hnow
  | completionResumed _ _ _ _ _ hnow => exact Relation.forall_replace hlater hnow
  | completionVerified _ _ _ _ _ _ _ _ hnow => exact Relation.forall_replace hlater hnow
  | _ => exact hlater

theorem renewals_of_reachable (h : store.Reachable r) :
    ∀ l ∈ r.db.completionLeases.rows, l.renewedAt ≤ r.now :=
  reachable_induction (I := fun r => ∀ l ∈ r.db.completionLeases.rows, l.renewedAt ≤ r.now)
    (fun _ hl => by cases hl) (fun _ _ _ _ _ _ _ heffect => renewals_of_effect heffect) h

/-! ## Rows of a recovery -/

theorem sessionRules_of_recovery {db : Database} {u : UploadSessionModel}
    (h : Lawful db) (hu : db.sessions.get? u.id = some u) (hm : u.strategy = .multipart)
    (hstate : u.state = .completing) (hfacts : CompletionFacts u)
    (hresolved : ¬HasUnresolvedPart db u.id) (evidence : PartialCompletionEvidence) :
    Satisfied (guardUploadSession db u (withRecoveryFacts u evidence) ++
      sessionConstraints db (withRecoveryFacts u evidence)) := by
  have hrequested := hfacts.requested hstate
  have hreason := hfacts.reason hstate
  have hphase := hfacts.phase hstate
  rw [satisfied_append]
  constructor
  · simp [guardUploadSession, guardMultipartSession, withRecoveryFacts, hm, hstate, hrequested,
      hreason, hphase, hresolved]
  · exact h.sessionConstraints_kept hu rfl rfl rfl (fun ha => ha)
      (h.session_checks u (Relation.mem_of_get? hu))

theorem sessionRules_of_resume {db : Database} {u : UploadSessionModel} {result : CompletionResult}
    (h : Lawful db) (hu : db.sessions.get? u.id = some u) (hm : u.strategy = .multipart)
    (hstate : u.state = .completing) (habsent : u.finalAbsenceObservedAt ≠ none)
    (hreconciled : u.lastProviderReconciledAt ≠ none)
    (hresult : u.lastCompletionResult = some result)
    (hallowed : result = .ambiguous ∨ result = .embeddedError)
    (hunresolved : HasUnresolvedPart db u.id) (now : Timestamp) :
    Satisfied (guardUploadSession db u { u with
        state := .inProgress, completionReason := none, completionPhase := none
        lastActivityAt := now } ++
      sessionConstraints db { u with
        state := .inProgress, completionReason := none, completionPhase := none
        lastActivityAt := now }) := by
  have hchecks := h.session_checks u (Relation.mem_of_get? hu)
  rw [satisfied_append]
  constructor
  · simp [guardUploadSession, guardMultipartSession, hm, hstate, habsent, hreconciled, hresult,
      hunresolved, multipartEdges]
    exact hallowed.resolve_left
  · refine h.sessionConstraints_kept hu rfl rfl rfl (fun _ => by rw [hstate]; rfl) ?_
    simp only [sessionChecks, satisfied_cons, satisfied_nil, and_true, Rule.violated_range,
      Rule.violated_check] at hchecks ⊢
    obtain ⟨h₁, h₂, h₃, h₄, h₅, h₆, h₇, h₈, h₉, h₁₀⟩ := hchecks
    refine ⟨h₁, h₂, h₃, h₄, h₅, h₆, h₇, h₈, ?_, h₁₀⟩
    simpa [providerIdCheck, hm, hstate] using h₉

theorem ends_endCompletion {s : TxState} {l : MultipartCompletionLeaseModel} {now : Timestamp}
    {Q : Unit → TxState → Prop} (h : Lawful s.db)
    (hl : s.db.completionLeases.get? l.uploadSessionId = some l)
    (hlive : s.ticked.now < l.expiresAt) (hrenewed : l.renewedAt ≤ now) (hnow : now < l.expiresAt)
    (hQ : Q () { s.ticked with db := { s.db with
      completionLeases := s.db.completionLeases.replace { l with
        renewedAt := now, expiresAt := now } } }) : Ends (endCompletion l now) s Q := by
  let ended : MultipartCompletionLeaseModel := { l with renewedAt := now, expiresAt := now }
  have hmem := Relation.mem_of_get? hl
  have hchecks := h.completion_checks l hmem
  have hparent := h.completion_session.get hmem
  simp only [completionLeaseChecks, satisfied_cons, satisfied_nil, and_true, Rule.violated_range,
    Rule.violated_check, Ternary.refuted_of, not_not] at hchecks
  obtain ⟨hrange, hepoch, hacquired, _⟩ := hchecks
  have hrules : Satisfied (guardCompletionLease s.ticked.now l ended ++
      completionLeaseConstraints s.db ended) := by
    obtain ⟨u, hu⟩ := hparent
    rw [satisfied_append]
    constructor
    · simp [guardCompletionLease, ended, hrenewed, hlive]
    · simp only [completionLeaseConstraints, completionLeaseChecks, satisfied_append,
        satisfied_cons, satisfied_nil, and_true, Rule.violated_range, Rule.violated_check,
        Rule.violated_foreignKey, Ternary.refuted_of, not_not]
      exact ⟨⟨hrange, hepoch, hacquired.trans hrenewed, le_refl _⟩, by rw [hu]; rfl⟩
  have hexec : execWrite (.updateCompletionLease ended) s = .ok { s.ticked with db := { s.db with
      completionLeases := s.db.completionLeases.replace ended } } :=
    exec_updateCompletionLease_ok.mpr ⟨l, hl, hrules, rfl⟩
  unfold Ends endCompletion flushCompletionLease flush
  rw [run_inspect]
  split
  · rename_i hsame
    have hequal : some l = some ended := hl.symm.trans hsame
    have hexpires := congrArg MultipartCompletionLeaseModel.expiresAt (Option.some.inj hequal)
    exact absurd hexpires hnow.ne'
  · exact ⟨(), _, run_perform_ok.mpr hexec, hQ⟩

/-! ## Parts of a recovery -/

omit [Platform] in
theorem recoveredOrReset_frame (observations : List ProviderPartObservation)
    (observedAt : Timestamp) (p : UploadPartModel) :
    ∃ state etag checksum size listedAt verifiedAt code,
      recoveredOrReset observations observedAt p = { p with
        state := state
        listedEtag := etag, listedChecksumSha256Base64 := checksum, listedSizeBytes := size
        providerListedAt := listedAt, verifiedAt := verifiedAt, lastErrorCode := code } := by
  obtain ⟨state, etag, checksum, size, listedAt, verifiedAt, code, hrow⟩ :=
    observedPart_frame p (observationOf observations p.partNumber) observedAt
  unfold recoveredOrReset recoveredPart
  split
  · rw [hrow]
    exact ⟨_, _, _, _, _, _, _, rfl⟩
  · exact ⟨_, _, _, _, _, _, _, hrow⟩

theorem rangesOf_mapped {db db' : Database} {sessionId : UUID}
    {g : UploadPartModel → UploadPartModel} (h : PartsMapped sessionId g db.parts db'.parts)
    (hg : ∀ p, plannedRange (g p) = plannedRange p) :
    rangesOf db' sessionId = rangesOf db sessionId := by
  refine eq_of_increasing (rangesOf_increasing _ _) (rangesOf_increasing _ _) fun x => ?_
  rw [mem_rangesOf, mem_rangesOf]
  constructor
  · intro hx
    obtain ⟨p', hp', hpu, hrange⟩ := hx
    obtain ⟨p, hp, himage, hkey⟩ := Relation.Mapped.mem h hp'
    have hsession : p.uploadSessionId = sessionId := (congrArg Prod.fst hkey).trans hpu
    rw [if_pos hsession] at himage
    exact ⟨p, hp, hsession, by rw [← hg p, himage, hrange]⟩
  · intro hx
    obtain ⟨p, hp, hpu, hrange⟩ := hx
    have hget : db.parts.get? (key p) = some p := Relation.get?_of_mem hp
    have himage := Relation.Mapped.get h hget
    rw [if_pos hpu] at himage
    have hkey : key (g p) = key p := Relation.key_of_get? himage
    exact ⟨g p, Relation.mem_of_get? himage, (congrArg Prod.fst hkey).trans hpu,
      (hg p).trans hrange⟩

/-- Reconciling the parts of recorded work tells whether all were confirmed. -/
theorem ends_reconcileRecovered {s : TxState} {u : UploadSessionModel}
    {evidence : PartialCompletionEvidence} {parts : List UploadPartModel}
    {Q : Bool → TxState → Prop} (hlawful : Lawful s.db) (hparts : parts = s.db.partsOf u.id)
    (hu : s.db.sessions.get? u.id = some u) (hm : u.strategy = .multipart)
    (hactive : u.state.isActive = true) (hstored : ∀ p ∈ s.db.parts.rows, PartStored p)
    (hreconciled : u.lastProviderReconciledAt ≠ none)
    (hsizes : ∀ o ∈ evidence.providerParts, o.sizeBytes < bigint)
    (hQ : ∀ t, Lawful { s.db with parts := t } →
      PartsMapped u.id (recoveredOrReset evidence.providerParts evidence.providerReconciledAt)
        s.db.parts t →
      Q ((parts.filter fun p =>
          isConfirmed p (observationOf evidence.providerParts p.partNumber)
            evidence.providerReconciledAt).length == parts.length)
        { s with db := { s.db with parts := t } }) :
    Ends (reconcileRecovered parts evidence) s Q := by
  simp only [reconcileRecovered, ends_bind]
  refine @ends_passes _ s u evidence.providerParts evidence.providerReconciledAt _ _ _ _ hlawful
    hparts hu hm hactive hstored hreconciled hsizes ?_ ?_
  · intro p _ hagain
    exact ⟨hagain, _, Option.some_ne_none _, rfl⟩
  · intro t hlawful' hmapped
    rw [ends_pure]
    exact hQ t hlawful' hmapped

/-- The same-MPU branch gives accepted work with an unconfirmed part back to its upload. -/
theorem ends_recoverParts {s : TxState} {u : UploadSessionModel} {plan : PartPlan}
    {l : MultipartCompletionLeaseModel} {evidence : PartialCompletionEvidence} {now : Timestamp}
    {Q : CompletionRecoveryResult → TxState → Prop} (hlawful : Lawful s.db)
    (hu : s.db.sessions.get? u.id = some u) (hm : u.strategy = .multipart)
    (hstate : u.state = .completing) (hfacts : CompletionFacts u)
    (hresolved : ¬HasUnresolvedPart s.db u.id) (hplan : Planned s.db u plan)
    (hstored : ∀ p ∈ s.db.parts.rows, PartStored p)
    (hl : s.db.completionLeases.get? l.uploadSessionId = some l)
    (hlive : s.ticked.now < l.expiresAt) (hrenewed : l.renewedAt ≤ now) (hnow : now < l.expiresAt)
    (hreason : evidence.recoveryReason = .partsPartial)
    (hsizes : ∀ o ∈ evidence.providerParts, o.sizeBytes < bigint)
    (hunconfirmed : ¬∀ p ∈ s.db.partsOf u.id,
      isConfirmed p (observationOf evidence.providerParts p.partNumber)
        evidence.providerReconciledAt = true)
    (hQ : ∀ context t ts, (∀ x ∈ ts, x = .session u.blobId) →
      Q ⟨.resumePartUpload, context⟩ { s.ticked with
        db := { s.db with
          sessions := s.db.sessions.replace { withRecoveryFacts u evidence with
            state := .inProgress, completionReason := none, completionPhase := none
            lastActivityAt := now }
          parts := t
          completionLeases := s.db.completionLeases.replace { l with
            renewedAt := now, expiresAt := now } }
        touched := s.touched ++ ts }) :
    Ends (recoverParts u l (s.db.partsOf u.id) evidence now) s Q := by
  have hsubset : evidence.recoveryReason ≠ .partsReady := by
    rw [hreason]
    simp
  let recovered : UploadSessionModel := withRecoveryFacts u evidence
  have hresult : recovered.lastCompletionResult = some evidence.persistedCompletionResult := rfl
  have hallowed : evidence.persistedCompletionResult = .ambiguous ∨
      evidence.persistedCompletionResult = .embeddedError := by
    have hallows := evidence.result_allowed
    unfold PartialCompletionEvidence.persistedCompletionResult
    rw [hreason] at hallows ⊢
    cases hcompletion : evidence.completionResult with
    | none => exact .inl rfl
    | some result =>
        rw [hcompletion] at hallows
        simpa [CompletionRecoveryReason.allows, CompletionRecoveryReason.sameMpu] using hallows
  have hactive : recovered.state.isActive = true := by
    change u.state.isActive = true
    rw [hstate]
    rfl
  simp only [recoverParts, ends_bind]
  refine @ends_flushSession _ s _ u recovered hlawful hu
    (sessionRules_of_recovery hlawful hu hm hstate hfacts hresolved evidence)
    fun ts hts hlawful₁ => ?_
  have hstored₁ : (s.db.sessions.replace recovered).get? recovered.id = some recovered :=
    Relation.get?_replace_self (r := recovered) hu
  refine @ends_reconcileRecovered _ _ recovered evidence _ _ ?_ rfl ?_ hm hactive ?_
    (Option.some_ne_none _) hsizes ?_
  · exact hlawful₁
  · exact hstored₁
  · exact hstored
  · intro t hlawful₂ hmapped₂
    have hmapped : PartsMapped u.id (recoveredOrReset evidence.providerParts
        evidence.providerReconciledAt) s.db.parts t := hmapped₂
    rw [if_neg hsubset]
    simp only [ends_bind, ends_require]
    refine ⟨hreason, ?_, ?_⟩
    · rw [beq_eq_false_iff_ne, ne_eq, List.length_filter_eq_length_iff]
      exact hunconfirmed
    · have hunresolved : HasUnresolvedPart
          { s.db with sessions := s.db.sessions.replace recovered, parts := t } recovered.id := by
        rw [not_forall] at hunconfirmed
        obtain ⟨p, hp⟩ := hunconfirmed
        obtain ⟨hmem, hfalse⟩ := Classical.not_imp.mp hp
        obtain ⟨hrow, hpu⟩ := Database.mem_partsOf.mp hmem
        have hget : s.db.parts.get? (key p) = some p := Relation.get?_of_mem hrow
        have himage := Relation.Mapped.get hmapped hget
        rw [if_pos hpu, recoveredOrReset, if_neg hfalse] at himage
        have hreset := observedPart_reset (Bool.eq_false_iff.mpr hfalse)
        refine ⟨_, Relation.mem_of_get? himage, ?_, ?_⟩
        · have hkey := congrArg Prod.fst (Relation.key_of_get? himage)
          exact hkey.trans hpu
        · rw [hreset]
          simp
      let resumed : UploadSessionModel := { recovered with
        state := .inProgress, completionReason := none, completionPhase := none
        lastActivityAt := now }
      refine @ends_flushSession _ _ _ recovered resumed ?_ ?_ ?_ ?_
      · exact hlawful₂
      · exact hstored₁
      · exact sessionRules_of_resume hlawful₂ hstored₁ hm hstate (Option.some_ne_none _)
          (Option.some_ne_none _) hresult hallowed hunresolved now
      · intro ts' hts' hlawful₃
        refine ends_endCompletion ?_ ?_ ?_ hrenewed hnow ?_
        · exact hlawful₃
        · exact hl
        · exact hlive
        · have hranges := @rangesOf_mapped _ s.db { s.db with parts := t } _ _ hmapped
            fun p => by
              obtain ⟨_, _, _, _, _, _, _, hrow⟩ := recoveredOrReset_frame evidence.providerParts
                evidence.providerReconciledAt p
              rw [hrow]
              rfl
          refine @ends_loadMultipartContext _ _ resumed plan _ ?_ ?_ ?_
          · exact ⟨hplan.generation, hplan.count, hplan.sha256, hplan.schemaVersion, hplan.partSize,
              hplan.blob, hranges.trans hplan.ranges⟩
          · exact hmapped.sound (fun _ hp => partSound_recoveredOrReset hp _ _)
              fun p hp => (hstored p hp).sound
          · intro context _
            rw [ends_pure]
            have htouched : ∀ x ∈ ts ++ ts', x = .session u.blobId := by
              intro x hx
              rcases List.mem_append.mp hx with hx | hx
              · exact hts x hx
              · exact hts' x hx
            have hstate' := hQ context t (ts ++ ts') htouched
            rw [← List.append_assoc] at hstate'
            have htwice : (s.db.sessions.replace recovered).replace resumed =
                s.db.sessions.replace resumed := Relation.replace_replace _ rfl
            rw [htwice]
            exact hstate'

/-! ## The call -/

/-- A claim that lives until its lease is ended resumes a session in which some part is not
confirmed. -/
theorem transact_recovery_resumes {claim : CompletionClaim} {evidence : PartialCompletionEvidence}
    {u : UploadSessionModel} (h : store.Reachable r)
    (hu : r.db.sessions.get? claim.sessionId = some u) (hprovider : u.providerUploadId ≠ none)
    (hclaim : HoldsCompletion r.db claim.sessionId claim.lease.leaseOwnerId
      claim.lease.leaseEpoch (r.now + env.ticks.headD 0 + env.ticks.tail.headD 0))
    (hreason : evidence.recoveryReason = .partsPartial)
    (hdistinct : distinctParts evidence.providerParts)
    (hplanned : allPlanned evidence.providerParts (r.db.partsOf claim.sessionId))
    (hsizes : ∀ o ∈ evidence.providerParts, o.sizeBytes < bigint)
    (hunconfirmed : ¬∀ p ∈ r.db.partsOf claim.sessionId,
      isConfirmed p (observationOf evidence.providerParts p.partNumber)
        evidence.providerReconciledAt = true) :
    ∃ result db, transact (recoverPartialCompletion claim evidence) env r =
        (.ok result, ⟨db, r.later env⟩) ∧ result.action = .resumePartUpload := by
  have hlawful := (committed_of_reachable h).lawful
  obtain ⟨l, hl, howner, hepoch, hlast⟩ := hclaim
  have hlive : r.now + env.ticks.headD 0 < l.expiresAt :=
    lt_of_le_of_lt (Nat.le_add_right _ _) hlast
  obtain ⟨x, hx, hm, hstate, hresolved⟩ := work_of_claim h (Nat.le_add_right _ _)
    ⟨l, hl, howner, hepoch, hlive⟩
  have hsame : x = u := Option.some.inj (hx.symm.trans hu)
  subst hsame
  have hid : x.id = claim.sessionId := Relation.key_of_get? hu
  have hlid : l.uploadSessionId = claim.sessionId := Relation.key_of_get? hl
  have hfacts := completionFacts_of_reachable h x (Relation.mem_of_get? hu)
  obtain ⟨plan, hplan⟩ := planned_of_reachable h (Relation.mem_of_get? hu) hm
  have hrenewed : l.renewedAt ≤ r.now + env.ticks.headD 0 :=
    (renewals_of_reachable h l (Relation.mem_of_get? hl)).trans (Nat.le_add_right _ _)
  have hwork : claimedWork r.db claim (r.now + env.ticks.headD 0) = some (x, l) := by
    simp only [claimedWork, Option.bind_eq_bind, Option.bind_eq_some_iff,
      Option.filter_eq_some_iff, decide_eq_true_eq]
    exact ⟨x, ⟨hu, hstate⟩, l, ⟨hl, howner, hepoch, hlive⟩, rfl⟩
  obtain ⟨b, hb⟩ := hlawful.session_blob.get (Relation.mem_of_get? hu)
  have huploading : b.state = .uploading := by
    have hfits := (coupled_of_reachable h).fits x (Relation.mem_of_get? hu) b hb
    rw [hstate] at hfits
    exact hfits
  refine transact_of_ends ?_
  simp only [recoverPartialCompletion, ends_bind, ends_require]
  refine ⟨hdistinct, ?_⟩
  rw [ends_clockTimestamp, ends_fetch]
  refine ⟨(x, l), ?_, ?_⟩
  · rw [Option.filter_eq_some_iff]
    exact ⟨hwork, decide_eq_true hprovider⟩
  · rw [← hid] at hplanned hunconfirmed
    rw [ends_select]
    refine ⟨hplanned, ?_⟩
    rw [if_pos (by rw [hreason]; rfl)]
    have hget : r.db.sessions.get? x.id = some x := hid ▸ hu
    have hlget : r.db.completionLeases.get? l.uploadSessionId = some l := hlid ▸ hl
    refine @ends_recoverParts _ _ x plan l evidence _ _ ?_ ?_ hm hstate hfacts ?_ ?_ ?_ ?_ ?_
      hrenewed hlive hreason hsizes ?_ ?_
    · exact hlawful
    · exact hget
    · exact hresolved
    · exact hplan
    · exact partStored_of_reachable h
    · exact hlget
    · exact hlast
    · exact hunconfirmed
    · intro context t ts hts
      refine ⟨rfl, ?_⟩
      intro y hy clock hclock
      have hnow : r.now + env.ticks.headD 0 ≤ clock := le_trans (Nat.le_add_right _ _) hclock
      have htouched : y = .session x.blobId := by
        rcases List.mem_append.mp hy with hy | hy
        · cases hy
        · exact hts y hy
      rw [htouched]
      refine publication_of_live h hget (by rw [hstate]; rfl) rfl rfl ?_ hb ?_ ?_
        (le_trans (Nat.le_add_right _ _) hnow)
      · intro y hy hylive
        rcases Relation.mem_replace hy with rfl | ⟨hy, _⟩
        · exact absurd hylive (Nat.not_lt.mpr hnow)
        · exact hy
      · rw [huploading]
        simp
      · rw [huploading]
        simp

end RoboLake
