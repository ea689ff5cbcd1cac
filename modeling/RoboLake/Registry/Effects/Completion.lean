import RoboLake.Registry.Effects.Multipart

/-! # Effects of the completion operations -/

namespace RoboLake

open Foundation Work Store

variable [Platform] {env : Env} {r : Registry} {s : TxState}

/-! ## Acceptance -/

theorem effect_acceptCompletion {sessionId ownerId requestId : UUID} {epoch : Nat}
    {a : AcceptedCompletion}
    (h : run (acceptCompletion sessionId ownerId epoch requestId) (beginTx env r) = .ok (a, s)) :
    Effect env r (.acceptCompletion sessionId ownerId epoch requestId) s.db := by
  simp only [acceptCompletion, run_select_bind] at h
  cases hkey : (beginTx env r).db.idempotency.get?
      (.multipartCompletionAccept, String.ofList requestId.str) with
  | some replay =>
      simp only [hkey, run_ofExcept_ok] at h
      rw [h.2]
      exact .idle
  | none =>
      simp only [hkey, run_fetch_bind_ok, Option.filter_eq_some_iff, decide_eq_true_eq,
        run_clockTimestamp_bind, run_select_bind, run_require_bind_ok,
        decide_eq_false_iff_not] at h
      obtain ⟨u, ⟨hu, hmultipart⟩, l, ⟨hl, howner, hepoch, hlive⟩, ⟨hstate, hresolved⟩, h⟩ := h
      have hfence : Admitted env r sessionId ownerId epoch :=
        admitted_of_holds ⟨l, hl, howner, hepoch, hlive⟩
      obtain rfl : u.id = sessionId := Relation.key_of_get? hu
      subst howner hepoch
      obtain ⟨_, h⟩ := run_flushSession_bind_ok h
      obtain ⟨_, _, h⟩ := run_flushAdmissionLease_bind_ok h
      simp only [run_perform_bind_ok, run_pure_ok] at h
      obtain ⟨s₁, hw, _, rfl⟩ := h
      obtain ⟨_, _, rfl⟩ := exec_insertIdempotency_ok.mp hw
      have helapses := (elapses_ticked (beginTx env r)).trans (elapses_ticked _)
      exact .completionAccepted hu hmultipart hl hfence hstate hresolved helapses.now_le_later hkey

/-! ## Ownership -/

theorem claimed_of_holds {sessionId ownerInstanceId : UUID} {epoch : Nat}
    (h : HoldsCompletion r.db sessionId ownerInstanceId epoch (beginTx env r).ticked.now) :
    Claimed env r sessionId ownerInstanceId epoch :=
  ⟨_, (elapses_ticked (beginTx env r)).now_le, (elapses_ticked (beginTx env r)).now_le_later, h⟩

theorem mem_of_nextClaimable {db : Database} {now : Timestamp} {u : UploadSessionModel}
    (h : nextClaimable db now = some u) :
    u ∈ db.sessions.rows ∧ u.strategy = .multipart ∧ u.state = .completing ∧
      ∀ l, db.completionLeases.get? u.id = some l → l.expiresAt ≤ now := by
  have hmem := List.mem_of_head? h
  rw [List.mem_insertionSort, List.mem_filter, isClaimable] at hmem
  obtain ⟨hu, hclaimable⟩ := hmem
  simp only [Bool.and_eq_true, beq_iff_eq, Option.all_eq_true, decide_eq_true_eq] at hclaimable
  exact ⟨hu, hclaimable.1.1, hclaimable.1.2, hclaimable.2⟩

theorem run_claimCompletion_positive {ownerInstanceId : UUID} {ttl capacity : Int}
    {a : Option CompletionClaim}
    (h : run (claimCompletion ownerInstanceId ttl capacity) (beginTx env r) = .ok (a, s)) :
    0 < ttl ∧ 0 < capacity := by
  unfold claimCompletion at h
  exact (run_require_bind_ok.mp h).1

/-- A claim that returns no work found the capacity used up or nothing to claim; one that returns
work has its first epoch or the one after an expired lease. -/
theorem run_claimCompletion_ok {ownerInstanceId : UUID} {ttl capacity : Int}
    {a : Option CompletionClaim}
    (h : run (claimCompletion ownerInstanceId ttl capacity) (beginTx env r) = .ok (a, s)) :
    (a = none ∧ s.db = r.db ∧ ∃ now, r.now ≤ now ∧ now ≤ r.later env ∧
      (capacity ≤ (activeCompletions r.db now : Int) ∨ nextClaimable r.db now = none)) ∨
    ∃ u claim now expiresAt, a = some claim ∧ claim.sessionId = u.id ∧
      r.db.sessions.get? u.id = some u ∧ u.strategy = .multipart ∧ u.state = .completing ∧
      r.now ≤ now ∧ now ≤ r.later env ∧ now < expiresAt ∧
      (activeCompletions r.db now : Int) < capacity ∧
      ((r.db.completionLeases.get? u.id = none ∧
        s.db = { r.db with
          completionLeases := r.db.completionLeases.insert
            ⟨u.id, ownerInstanceId, 1, now, now, expiresAt⟩ }) ∨
        ∃ l, r.db.completionLeases.get? u.id = some l ∧ l.expiresAt ≤ now ∧
          s.db = { r.db with completionLeases := r.db.completionLeases.replace { l with
            ownerInstanceId := ownerInstanceId, epoch := l.epoch + 1, acquiredAt := now
            renewedAt := now, expiresAt := expiresAt } }) := by
  simp only [claimCompletion, run_require_bind_ok, run_clockTimestamp_bind, run_select_bind] at h
  obtain ⟨⟨hpos, _⟩, h⟩ := h
  have hnow := (elapses_ticked (beginTx env r)).now_le
  have hlater := (elapses_ticked (beginTx env r)).now_le_later
  split at h
  · rename_i hfull
    obtain ⟨rfl, rfl⟩ := run_pure_ok.mp h
    exact Or.inl ⟨rfl, rfl, _, hnow, hlater, Or.inl hfull⟩
  · rename_i hfree
    have hcapacity := Int.lt_of_not_ge hfree
    rw [run_select_bind] at h
    cases hnext : nextClaimable (beginTx env r).ticked.db (beginTx env r).ticked.now with
    | none =>
        simp only [hnext, run_pure_ok] at h
        obtain ⟨rfl, rfl⟩ := h
        exact Or.inl ⟨rfl, rfl, _, hnow, hlater, Or.inr hnext⟩
    | some u =>
        obtain ⟨hu, hmultipart, hstate, hexpired⟩ := mem_of_nextClaimable hnext
        have hget : r.db.sessions.get? u.id = some u := Relation.get?_of_mem hu
        simp only [hnext, run_select_bind, run_ofExcept_bind_ok] at h
        obtain ⟨expiresAt, hexpires, h⟩ := h
        have hlive := lt_addSeconds hpos hexpires
        cases hl : (beginTx env r).ticked.db.completionLeases.get? u.id with
        | none =>
            simp only [hl, run_perform_bind_ok, run_fetch_bind_ok, run_pure_ok] at h
            obtain ⟨s₁, hw, phase, _, rfl, rfl⟩ := h
            obtain ⟨_, _, rfl⟩ := exec_insertCompletionLease_ok.mp hw
            exact Or.inr ⟨u, _, _, expiresAt, rfl, rfl, hget, hmultipart, hstate, hnow, hlater,
              hlive, hcapacity, Or.inl ⟨hl, rfl⟩⟩
        | some l =>
            simp only [hl] at h
            obtain ⟨_, _, h⟩ := run_flushCompletionLease_bind_ok h
            simp only [run_fetch_bind_ok, run_pure_ok] at h
            obtain ⟨phase, _, rfl, rfl⟩ := h
            exact Or.inr ⟨u, _, _, expiresAt, rfl, rfl, hget, hmultipart, hstate, hnow, hlater,
              hlive, hcapacity, Or.inr ⟨l, hl, hexpired l hl, rfl⟩⟩

theorem effect_claimCompletion {ownerInstanceId : UUID} {ttl capacity : Int}
    {a : Option CompletionClaim}
    (h : run (claimCompletion ownerInstanceId ttl capacity) (beginTx env r) = .ok (a, s)) :
    Effect env r (.claimCompletion ownerInstanceId ttl capacity) s.db := by
  rcases run_claimCompletion_ok h with ⟨_, hdb, _⟩ | ⟨u, _, _, _, _, _, hu, hmultipart, hstate,
    hnow, hlater, hlive, hcapacity, ⟨hnone, hdb⟩ | ⟨l, hl, hexpired, hdb⟩⟩
  · rw [hdb]
    exact .idle
  · rw [hdb]
    exact .completionClaimed hu hmultipart hstate hnow hlater hlive hnone hcapacity
  · rw [hdb]
    exact .completionTaken hu hmultipart hstate hnow hlater hlive hl hexpired hcapacity

theorem effect_renewCompletionLease {sessionId ownerInstanceId : UUID} {epoch : Nat} {ttl : Int}
    {a : CompletionLeaseRecord}
    (h : run (renewCompletionLease sessionId ownerInstanceId epoch ttl) (beginTx env r) =
      .ok (a, s)) :
    Effect env r (.renewCompletionLease sessionId ownerInstanceId epoch ttl) s.db := by
  simp only [renewCompletionLease, run_require_bind_ok, run_clockTimestamp_bind,
    run_fetch_bind_ok, Option.filter_eq_some_iff, decide_eq_true_eq, run_ofExcept_bind_ok,
    run_perform_bind_ok, run_pure_ok] at h
  obtain ⟨_, l, ⟨hl, howner, hepoch, hlive⟩, expiresAt, _, s₁, hw, _, rfl⟩ := h
  obtain ⟨_, _, _, rfl⟩ := exec_updateCompletionLease_ok.mp hw
  have hfence : Claimed env r sessionId ownerInstanceId epoch :=
    claimed_of_holds ⟨l, hl, howner, hepoch, hlive⟩
  obtain rfl : l.uploadSessionId = sessionId := Relation.key_of_get? hl
  subst howner hepoch
  have hlater := ((elapses_ticked (beginTx env r)).trans (elapses_ticked _)).now_le_later
  exact .completionRenewed hl hfence hlater

/-! ## Phases -/

theorem effect_setCompletionPhase {claim : CompletionClaim} {phase : CompletionPhase}
    {f₁ f₂ f₃ : Bool} {a : Unit}
    (h : run (setCompletionPhase claim phase f₁ f₂ f₃) (beginTx env r) = .ok (a, s)) :
    Effect env r (.setCompletionPhase claim phase f₁ f₂ f₃) s.db := by
  simp only [setCompletionPhase, run_fetch_bind_ok, Option.filter_eq_some_iff, decide_eq_true_eq,
    run_ofExcept_bind_ok, run_clockTimestamp_bind, run_select_bind, run_require_bind_ok] at h
  obtain ⟨u, ⟨hu, hstate⟩, current, hcurrent, phase', hphase, hholds, h⟩ := h
  obtain ⟨_, _, _, rfl⟩ := exec_updateSession_ok.mp (run_perform_ok.mp h)
  obtain ⟨rfl, _⟩ := requireCompletionPhaseTransition_ok.mp hphase
  exact .phaseSet hu (claimed_of_holds hholds) hstate hcurrent hphase

/-! ## Recovery -/

theorem claimedWork_eq_some {db : Database} {claim : CompletionClaim} {now : Timestamp}
    {u : UploadSessionModel} {l : MultipartCompletionLeaseModel}
    (h : claimedWork db claim now = some (u, l)) :
    db.sessions.get? claim.sessionId = some u ∧ u.state = .completing ∧
      db.completionLeases.get? claim.sessionId = some l ∧
      HoldsCompletion db claim.sessionId claim.lease.leaseOwnerId claim.lease.leaseEpoch now := by
  simp only [claimedWork, Option.bind_eq_bind, Option.bind_eq_some_iff,
    Option.filter_eq_some_iff, decide_eq_true_eq, Option.pure_def, Option.some.injEq,
    Prod.mk.injEq] at h
  obtain ⟨_, ⟨hu, hstate⟩, _, ⟨hl, howner, hepoch, hlive⟩, rfl, rfl⟩ := h
  exact ⟨hu, hstate, hl, _, hl, howner, hepoch, hlive⟩

theorem run_endCompletion_bind_ok {α : Type} {l : MultipartCompletionLeaseModel} {now : Timestamp}
    {f : Unit → Tx α} {s' : TxState} {a : α}
    (h : run (endCompletion l now >>= f) s = .ok (a, s')) :
    ∃ now' ticks, run (f ()) { s with
      db := { s.db with completionLeases := s.db.completionLeases.replace { l with
        renewedAt := now, expiresAt := now } }
      now := now'
      ticks := ticks } = .ok (a, s') :=
  run_flushCompletionLease_bind_ok h

theorem live_of_endCompletion {α : Type} {l : MultipartCompletionLeaseModel} {now : Timestamp}
    {f : Unit → Tx α} {s' : TxState} {a : α}
    (h : run (endCompletion l now >>= f) s = .ok (a, s'))
    (hl : s.db.completionLeases.get? l.uploadSessionId = some l) (hnow : now < l.expiresAt) :
    s.ticked.now < l.expiresAt := by
  obtain ⟨_, s₁, hflush, _⟩ := run_bind_ok.mp h
  unfold endCompletion flushCompletionLease flush at hflush
  rw [run_inspect] at hflush
  split at hflush
  · rename_i hrow
    have hequal : some l = some { l with renewedAt := now, expiresAt := now } :=
      hl.symm.trans hrow
    have hexpires := congrArg MultipartCompletionLeaseModel.expiresAt (Option.some.inj hequal)
    exact absurd hexpires hnow.ne'
  · obtain ⟨old, hold, hrules, _⟩ := exec_updateCompletionLease_ok.mp (run_perform_ok.mp hflush)
    have hsame : l = old := Option.some.inj (hl.symm.trans hold)
    subst hsame
    simp only [Migrations.guardCompletionLease, satisfied_append, satisfied_cons, ↓reduceIte,
      Rule.violated_raiseIf, Ternary.holds_of, not_or, not_le] at hrules
    exact hrules.1.2.1.2.2

theorem run_reconcileRecovered_bind_ok {α : Type} {sessionId : UUID}
    {models : List UploadPartModel} {evidence : PartialCompletionEvidence} {f : Bool → Tx α}
    {s' : TxState} {a : α} (h : run (reconcileRecovered models evidence >>= f) s = .ok (a, s'))
    (hmodels : models = s.db.partsOf sessionId) :
    ∃ parts verified,
      PartsMapped sessionId (recoveredOrReset evidence.providerParts evidence.providerReconciledAt)
        s.db.parts parts ∧
      (verified = true ↔ ∀ p ∈ s.db.partsOf sessionId,
        isConfirmed p (observationOf evidence.providerParts p.partNumber)
          evidence.providerReconciledAt = true) ∧
      run (f verified) { s with db := { s.db with parts := parts } } = .ok (a, s') := by
  subst hmodels
  simp only [reconcileRecovered, Work.bind_assoc] at h
  have hstart : Relation.Mapped id s.db.parts s.db.parts := .refl _
  obtain ⟨parts₁, hparts₁, h⟩ := run_flushParts_bind_ok
    (fun p => key_observedPart p _ _) (fun p hp => (Database.mem_partsOf.mp hp).1) hstart h
  obtain ⟨parts₂, hparts₂, h⟩ := run_flushParts_bind_ok (fun p => key_recoveredPart _ _ p)
    (fun p hp => (Database.mem_partsOf.mp (List.mem_filter.mp hp).1).1) hparts₁ h
  rw [run_pure_bind] at h
  exact ⟨parts₂, _, partsMapped_of_passes hparts₂,
    by rw [beq_iff_eq, List.length_filter_eq_length_iff], h⟩

/-- What a recovery of claimed work commits for each action it returns. -/
inductive Recovered (env : Env) (r : Registry) (claim : CompletionClaim)
    (evidence : PartialCompletionEvidence) (u : UploadSessionModel)
    (l : MultipartCompletionLeaseModel) (now : Timestamp) :
    CompletionRecoveryAction → Database → Prop
  | invalidated (hreason : evidence.recoveryReason.sameMpu = false) :
      Recovered env r claim evidence u l now .startNewGeneration { r.db with
        sessions := r.db.sessions.replace { withRecoveryFacts u evidence with
          providerAttemptInvalidatedAt := some now
          failureCode := some .providerAttemptInvalidated
          state := .failed, completedAt := some now, lastActivityAt := now }
        completionLeases := r.db.completionLeases.replace { l with
          renewedAt := now, expiresAt := now } }
  | retried {parts : Relation UploadPartModel} (hreason : evidence.recoveryReason = .partsReady)
      (hparts : PartsMapped u.id (recoveredOrReset evidence.providerParts
        evidence.providerReconciledAt) r.db.parts parts)
      (hconfirmed : ∀ p ∈ r.db.partsOf u.id,
        isConfirmed p (observationOf evidence.providerParts p.partNumber)
          evidence.providerReconciledAt = true) :
      Recovered env r claim evidence u l now .retryCompletion { r.db with
        sessions := r.db.sessions.replace (withRecoveryFacts u evidence)
        parts := parts }
  | resumed {parts : Relation UploadPartModel} (hreason : evidence.recoveryReason = .partsPartial)
      (hparts : PartsMapped u.id (recoveredOrReset evidence.providerParts
        evidence.providerReconciledAt) r.db.parts parts)
      (hunconfirmed : ¬∀ p ∈ r.db.partsOf u.id,
        isConfirmed p (observationOf evidence.providerParts p.partNumber)
          evidence.providerReconciledAt = true)
      (hlive : now + env.ticks.tail.headD 0 < l.expiresAt) :
      Recovered env r claim evidence u l now .resumePartUpload { r.db with
        sessions := r.db.sessions.replace { withRecoveryFacts u evidence with
          state := .inProgress, completionReason := none, completionPhase := none
          lastActivityAt := now }
        parts := parts
        completionLeases := r.db.completionLeases.replace { l with
          renewedAt := now, expiresAt := now } }

/-- A recovery that returns held its claim when it began, and commits what its action says. -/
theorem run_recoverPartialCompletion_ok {claim : CompletionClaim}
    {evidence : PartialCompletionEvidence} {a : CompletionRecoveryResult}
    (h : run (recoverPartialCompletion claim evidence) (beginTx env r) = .ok (a, s)) :
    ∃ u l, (r.db.sessions.get? claim.sessionId = some u ∧ u.state = .completing ∧
        u.providerUploadId ≠ none) ∧
      r.db.completionLeases.get? claim.sessionId = some l ∧
      HoldsCompletion r.db claim.sessionId claim.lease.leaseOwnerId claim.lease.leaseEpoch
        (beginTx env r).ticked.now ∧
      Recovered env r claim evidence u l (beginTx env r).ticked.now a.action s.db := by
  simp only [recoverPartialCompletion, run_require_bind_ok, run_clockTimestamp_bind,
    run_fetch_bind_ok, Option.filter_eq_some_iff, decide_eq_true_eq] at h
  obtain ⟨_, ⟨u, l⟩, ⟨hwork, hprovider⟩, h⟩ := h
  obtain ⟨hu, hstate, hl, hholds⟩ := claimedWork_eq_some hwork
  refine ⟨u, l, ⟨hu, hstate, hprovider⟩, hl, hholds, ?_⟩
  have hid : l.uploadSessionId = claim.sessionId := Relation.key_of_get? hl
  have hget : r.db.completionLeases.get? l.uploadSessionId = some l := hid ▸ hl
  have hexpires : (beginTx env r).ticked.now < l.expiresAt := by
    obtain ⟨_, hl', _, _, hlive⟩ := hholds
    rwa [Option.some.inj (hl.symm.trans hl')]
  simp only [run_select_bind, run_require_bind_ok] at h
  obtain ⟨_, h⟩ := h
  by_cases hsame : evidence.recoveryReason.sameMpu = true
  · rw [if_pos hsame, recoverParts] at h
    obtain ⟨_, h⟩ := run_flushSession_bind_ok h
    obtain ⟨parts, verified, hparts, hconfirmed, h⟩ :=
      run_reconcileRecovered_bind_ok h rfl
    by_cases hready : evidence.recoveryReason = .partsReady
    · rw [if_pos hready, run_require_bind_ok] at h
      obtain ⟨hverified, h⟩ := h
      obtain ⟨_, _, hcontext, h⟩ := run_bind_ok.mp h
      rw [run_loadMultipartContext_ok hcontext] at h
      obtain ⟨rfl, rfl⟩ := run_pure_ok.mp h
      exact .retried hready hparts (hconfirmed.mp hverified)
    · rw [if_neg hready] at h
      simp only [run_require_bind_ok] at h
      obtain ⟨hsubset, hunverified, h⟩ := h
      obtain ⟨_, h⟩ := run_flushSession_bind_ok h
      have hlive := live_of_endCompletion h hget hexpires
      obtain ⟨_, _, h⟩ := run_endCompletion_bind_ok h
      obtain ⟨_, _, hcontext, h⟩ := run_bind_ok.mp h
      rw [run_loadMultipartContext_ok hcontext] at h
      obtain ⟨rfl, rfl⟩ := run_pure_ok.mp h
      have hall := mt hconfirmed.mpr (Bool.eq_false_iff.mp hunverified)
      simp only
      rw [Relation.replace_replace]
      · exact .resumed hsubset hparts hall hlive
      · rfl
  · rw [if_neg hsame, invalidateAttempt] at h
    obtain ⟨_, h⟩ := run_flushSession_bind_ok h
    obtain ⟨_, _, h⟩ := run_endCompletion_bind_ok h
    obtain ⟨_, _, hcontext, h⟩ := run_bind_ok.mp h
    rw [run_loadMultipartContext_ok hcontext] at h
    obtain ⟨rfl, rfl⟩ := run_pure_ok.mp h
    exact .invalidated (Bool.eq_false_iff.mpr hsame)

theorem effect_recoverPartialCompletion {claim : CompletionClaim}
    {evidence : PartialCompletionEvidence} {a : CompletionRecoveryResult}
    (h : run (recoverPartialCompletion claim evidence) (beginTx env r) = .ok (a, s)) :
    Effect env r (.recoverPartialCompletion claim evidence) s.db := by
  obtain ⟨u, l, ⟨hu, hstate, _⟩, hl, hholds, hrecovered⟩ := run_recoverPartialCompletion_ok h
  have hfence := claimed_of_holds hholds
  have hlater := (elapses_ticked (beginTx env r)).now_le_later
  generalize a.action = action, s.db = db at hrecovered
  cases hrecovered with
  | invalidated hreason => exact .attemptInvalidated hu hstate hl hfence hlater
  | retried hreason hparts hconfirmed =>
      exact .partsRecovered hu hstate hfence hparts fun p hp hpu =>
        hconfirmed p (Database.mem_partsOf.mpr ⟨hp, hpu⟩)
  | resumed hreason hparts hunconfirmed _ =>
      exact .completionResumed hu hstate hl hfence hparts hlater

/-! ## Publication -/

theorem phase_of_recordVerifiedCompletion {claim : CompletionClaim}
    {evidence : VerificationEvidence} {a : MultipartUploadContext}
    (h : run (recordVerifiedCompletion claim evidence) (beginTx env r) = .ok (a, s)) :
    ∃ u, r.db.sessions.get? claim.sessionId = some u ∧
      u.completionPhase = some .finalVerification := by
  simp only [recordVerifiedCompletion, run_clockTimestamp_bind, run_fetch_bind_ok] at h
  obtain ⟨⟨u, l⟩, hwork, h⟩ := h
  rw [run_require_bind_ok] at h
  exact ⟨u, (claimedWork_eq_some hwork).1, h.1⟩

theorem effect_recordVerifiedCompletion {claim : CompletionClaim} {evidence : VerificationEvidence}
    {a : MultipartUploadContext}
    (h : run (recordVerifiedCompletion claim evidence) (beginTx env r) = .ok (a, s)) :
    Effect env r (.recordVerifiedCompletion claim evidence) s.db := by
  simp only [recordVerifiedCompletion, run_clockTimestamp_bind, run_fetch_bind_ok] at h
  obtain ⟨⟨u, l⟩, hwork, h⟩ := h
  obtain ⟨hu, hstate, hl, hholds⟩ := claimedWork_eq_some hwork
  have hfence := claimed_of_holds hholds
  have hlater := (elapses_ticked (beginTx env r)).now_le_later
  simp only [run_require_bind_ok, run_fetch_bind_ok, run_ofExcept_bind_ok] at h
  obtain ⟨hphase, b, hb, _, hevidence, hblob, h⟩ := h
  obtain ⟨_, h⟩ := run_flushSession_bind_ok h
  obtain ⟨_, h⟩ := run_flushBlob_bind_ok h
  obtain ⟨_, h⟩ := run_flushBlob_bind_ok h
  obtain ⟨_, h⟩ := run_flushSession_bind_ok h
  obtain ⟨_, _, h⟩ := run_endCompletion_bind_ok h
  rw [run_loadMultipartContext_ok h]
  simp only
  rw [Relation.replace_replace, Relation.replace_replace]
  · exact .completionVerified hu hstate hl hfence hphase hb hblob hevidence hlater
  · rfl
  · rfl

end RoboLake
