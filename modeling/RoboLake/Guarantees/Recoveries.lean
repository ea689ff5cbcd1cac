import RoboLake.Registry.Accepted.Recoveries
import RoboLake.Guarantees.Reconciliation

/-! # Guarded recoveries

A recovery of accepted work resumes its upload, retries its completion or ends the
attempt, each under the claim of its caller. What the documents ask of a resumed upload
fails at one point: a session is also given back when nothing of it was kept.
-/

namespace RoboLake

open Foundation Work Store Migrations

/-! ## Recovered rows -/

theorem state_recoveredOrReset {observations : List ProviderPartObservation}
    {observedAt : Timestamp} {p : UploadPartModel} (h : distinctParts observations)
    (hsound : PartSound p) :
    (recoveredOrReset observations observedAt p).state =
      if IsResolved observations p then .verified else .pending := by
  have hiff := @isConfirmed_iff_isResolved observations p observedAt h hsound
  unfold recoveredOrReset
  by_cases hresolved : IsResolved observations p
  · rw [if_pos hresolved, if_pos (hiff.mpr hresolved)]
    rfl
  · have hfalse : isConfirmed p (observationOf observations p.partNumber) observedAt = false :=
      Bool.eq_false_iff.mpr fun ht => hresolved (hiff.mp ht)
    rw [if_neg hresolved, if_neg (Bool.eq_false_iff.mp hfalse)]
    exact observedPart_reset hfalse

section Recoveries

variable [Platform] {env : Env} {r : Registry} {claim : CompletionClaim}
  {evidence : PartialCompletionEvidence}

/-! ## The documented conditions -/

def LeaseEnded (r : Registry) (sessionId : UUID) : Prop :=
  ∃ l, r.db.completionLeases.get? sessionId = some l ∧ l.expiresAt ≤ r.now

/-- The upload was resumed: the session runs under its provider upload, the resolved parts are kept
and the others are PENDING. -/
structure Resumed (r r' : Registry) (u : UploadSessionModel)
    (observations : List ProviderPartObservation) : Prop where
  session : ∃ u', r'.db.sessions.get? u.id = some u' ∧ u'.state = .inProgress ∧
    u'.providerUploadId = u.providerUploadId ∧ u'.completionPhase = none ∧
    u'.completionReason = none
  lease : LeaseEnded r' u.id
  parts : ∀ p ∈ r.db.partsOf u.id, (r'.db.parts.get? (key p)).map UploadPartModel.state =
    some (if IsResolved observations p then .verified else .pending)

/-- What the documents say of a recovery. -/
structure GuardedRecovery (env : Env) (r : Registry) (claim : CompletionClaim)
    (evidence : PartialCompletionEvidence) : Prop where
  claimed : ∀ result r', transact (recoverPartialCompletion claim evidence) env r =
    (.ok result, r') → HoldsCompletion r.db claim.sessionId claim.lease.leaseOwnerId
      claim.lease.leaseEpoch (r.now + env.ticks.headD 0)
  resumed : ∀ result r', transact (recoverPartialCompletion claim evidence) env r =
    (.ok result, r') → result.action = .resumePartUpload →
    ∃ u, r.db.sessions.get? claim.sessionId = some u ∧ u.state = .completing ∧
      Resumed r r' u evidence.providerParts ∧
      (∃ p ∈ r'.db.partsOf u.id, p.state = .verified) ∧
      ∃ p ∈ r'.db.partsOf u.id, p.state ≠ .verified
  retried : ∀ result r', transact (recoverPartialCompletion claim evidence) env r =
    (.ok result, r') → result.action = .retryCompletion →
    (∀ p ∈ r'.db.partsOf claim.sessionId, p.state = .verified) ∧
      r'.db.completionLeases = r.db.completionLeases
  restarted : ∀ result r', transact (recoverPartialCompletion claim evidence) env r =
    (.ok result, r') → result.action = .startNewGeneration →
    (∃ u', r'.db.sessions.get? claim.sessionId = some u' ∧ u'.state = .failed) ∧
      r'.db.parts = r.db.parts ∧ LeaseEnded r' claim.sessionId
  raised : ∀ e r', transact (recoverPartialCompletion claim evidence) env r = (.error e, r') →
    r'.db = r.db

/-- A live claim of a session with a provider upload reports a partial listing that resolves no
part of the session. -/
structure ResolvesNothing (env : Env) (r : Registry) (claim : CompletionClaim)
    (evidence : PartialCompletionEvidence) : Prop where
  reason : evidence.recoveryReason = .partsPartial
  claimed : HoldsCompletion r.db claim.sessionId claim.lease.leaseOwnerId claim.lease.leaseEpoch
    (r.now + env.ticks.headD 0 + env.ticks.tail.headD 0)
  provider : ∃ u, r.db.sessions.get? claim.sessionId = some u ∧ u.providerUploadId ≠ none
  distinct : distinctParts evidence.providerParts
  planned : allPlanned evidence.providerParts (r.db.partsOf claim.sessionId)
  sizes : ∀ o ∈ evidence.providerParts, o.sizeBytes < bigint
  unresolved : ∀ p ∈ r.db.partsOf claim.sessionId, ¬IsResolved evidence.providerParts p

/-! ## Returned recoveries -/

theorem partsOf_ne_nil (h : store.Reachable r) {u : UploadSessionModel}
    (hu : r.db.sessions.get? u.id = some u) (hm : u.strategy = .multipart) :
    ∃ p, p ∈ r.db.partsOf u.id := by
  obtain ⟨plan, hplan⟩ := planned_of_reachable h (Relation.mem_of_get? hu) hm
  have hlength : 0 < (rangesOf r.db u.id).length := by
    rw [hplan.ranges, List.length_map]
    exact plan.covers.nonempty
  obtain ⟨x, hx⟩ := List.exists_mem_of_length_pos hlength
  obtain ⟨p, hp, hpu, _⟩ := mem_rangesOf.mp hx
  exact ⟨p, Database.mem_partsOf.mpr ⟨hp, hpu⟩⟩

omit [Platform] in
theorem key_recoveredOrReset (observations : List ProviderPartObservation) (observedAt : Timestamp)
    (p : UploadPartModel) : key (recoveredOrReset observations observedAt p) = key p := by
  obtain ⟨_, _, _, _, _, _, _, hrow⟩ := recoveredOrReset_frame observations observedAt p
  rw [hrow]
  rfl

omit [Platform] in
theorem listedSize_recoveredOrReset {observations : List ProviderPartObservation}
    {observedAt : Timestamp} {p : UploadPartModel} {o : ProviderPartObservation}
    (h : observationOf observations p.partNumber = some o) :
    (recoveredOrReset observations observedAt p).listedSizeBytes = some o.sizeBytes := by
  have happlied : (applyProviderPartObservation p (some o) observedAt).1.listedSizeBytes =
      some o.sizeBytes := by
    unfold applyProviderPartObservation
    dsimp only
    split_ifs <;> rfl
  have hobserved : (observedPart p (some o) observedAt).listedSizeBytes = some o.sizeBytes := by
    rw [← happlied]
    unfold observedPart
    dsimp only
    split_ifs <;> rfl
  unfold recoveredOrReset recoveredPart
  rw [h]
  split
  · exact hobserved
  · exact hobserved

theorem mem_partsOf_recovered {sessionId : UUID} {observations : List ProviderPartObservation}
    {observedAt : Timestamp} {db db' : Database}
    (h : PartsMapped sessionId (recoveredOrReset observations observedAt) db.parts db'.parts)
    {x : UploadPartModel} : x ∈ db'.partsOf sessionId ↔
      ∃ p ∈ db.partsOf sessionId, recoveredOrReset observations observedAt p = x := by
  constructor
  · intro hx
    obtain ⟨hmem, hxu⟩ := Database.mem_partsOf.mp hx
    obtain ⟨p, hp, himage, hkey⟩ := Relation.Mapped.mem h hmem
    have hpu : p.uploadSessionId = sessionId := (congrArg Prod.fst hkey).trans hxu
    rw [if_pos hpu] at himage
    exact ⟨p, Database.mem_partsOf.mpr ⟨hp, hpu⟩, himage⟩
  · intro himage
    obtain ⟨p, hp, rfl⟩ := himage
    have hget := PartsMapped.get h hp
    have hkey := congrArg Prod.fst (key_recoveredOrReset observations observedAt p)
    exact Database.mem_partsOf.mpr ⟨Relation.mem_of_get? hget,
      hkey.trans (Database.mem_partsOf.mp hp).2⟩

/-- A returned recovery held its claim, had a listing of distinct planned parts and committed what
its action says. -/
theorem recovered_of_transact {result : CompletionRecoveryResult} {r' : Registry}
    (h : transact (recoverPartialCompletion claim evidence) env r = (.ok result, r')) :
    r'.now = r.later env ∧ distinctParts evidence.providerParts ∧
      allPlanned evidence.providerParts (r.db.partsOf claim.sessionId) ∧
      ∃ u l, (r.db.sessions.get? claim.sessionId = some u ∧ u.state = .completing ∧
          u.providerUploadId ≠ none) ∧
        r.db.completionLeases.get? claim.sessionId = some l ∧
        HoldsCompletion r.db claim.sessionId claim.lease.leaseOwnerId claim.lease.leaseEpoch
          (r.now + env.ticks.headD 0) ∧
        Recovered env r claim evidence u l (r.now + env.ticks.headD 0) result.action r'.db := by
  obtain ⟨s, _, hrun, _, rfl⟩ := transact_ok.mp h
  obtain ⟨u, l, ⟨hu, hstate, hprovider⟩, hl, hholds, hrecovered⟩ :=
    run_recoverPartialCompletion_ok hrun
  simp only [recoverPartialCompletion, run_require_bind_ok, run_clockTimestamp_bind,
    run_fetch_bind_ok, Option.filter_eq_some_iff, run_select_bind] at hrun
  obtain ⟨hdistinct, ⟨x, y⟩, ⟨hwork, _⟩, hplanned, _⟩ := hrun
  have hid : x.id = claim.sessionId := Relation.key_of_get? (claimedWork_eq_some hwork).1
  refine ⟨rfl, hdistinct, ?_, u, l, ⟨hu, hstate, hprovider⟩, hl, hholds, hrecovered⟩
  rw [← hid]
  exact hplanned

theorem resumes_of_resolvesNothing (h : store.Reachable r)
    (hnothing : ResolvesNothing env r claim evidence) :
    ∃ result db, transact (recoverPartialCompletion claim evidence) env r =
        (.ok result, ⟨db, r.later env⟩) ∧ result.action = .resumePartUpload := by
  obtain ⟨u, hu, hprovider⟩ := hnothing.provider
  refine transact_recovery_resumes h hu hprovider hnothing.claimed hnothing.reason
    hnothing.distinct hnothing.planned hnothing.sizes ?_
  intro hconfirmed
  have hid : u.id = claim.sessionId := Relation.key_of_get? hu
  obtain ⟨x, hx, hm, _⟩ := work_of_claim h (Nat.le_add_right _ _)
    (by rw [← Nat.add_assoc]; exact hnothing.claimed)
  have hsame : x = u := Option.some.inj (hx.symm.trans hu)
  subst hsame
  obtain ⟨p, hp⟩ := partsOf_ne_nil h (hid ▸ hu) hm
  rw [hid] at hp
  have hsound := partSound_of_reachable h p (Database.mem_partsOf.mp hp).1
  exact hnothing.unresolved p hp
    ((isConfirmed_iff_isResolved hnothing.distinct hsound).mp (hconfirmed p hp))

theorem resumed_of_transact {result : CompletionRecoveryResult} {r' : Registry}
    (h : store.Reachable r)
    (hcall : transact (recoverPartialCompletion claim evidence) env r = (.ok result, r'))
    (haction : result.action = .resumePartUpload) :
    ∃ u, (r.db.sessions.get? claim.sessionId = some u ∧ u.state = .completing ∧
        u.providerUploadId ≠ none) ∧
      evidence.recoveryReason = .partsPartial ∧
      HoldsCompletion r.db claim.sessionId claim.lease.leaseOwnerId claim.lease.leaseEpoch
        (r.now + env.ticks.headD 0 + env.ticks.tail.headD 0) ∧
      PartsMapped claim.sessionId (recoveredOrReset evidence.providerParts
        evidence.providerReconciledAt) r.db.parts r'.db.parts ∧
      (∃ p ∈ r.db.partsOf claim.sessionId, ¬IsResolved evidence.providerParts p) ∧
      Resumed r r' u evidence.providerParts := by
  obtain ⟨hnow, hdistinct, _, u, l, ⟨hu, hstate, hprovider⟩, hl, hholds, hrecovered⟩ :=
    recovered_of_transact hcall
  rw [haction] at hrecovered
  obtain ⟨hid, hlid⟩ : u.id = claim.sessionId ∧ l.uploadSessionId = claim.sessionId :=
    ⟨Relation.key_of_get? hu, Relation.key_of_get? hl⟩
  have hsound := partSound_of_reachable h
  have hlater : r.now + env.ticks.headD 0 ≤ r.later env :=
    (elapses_ticked (beginTx env r)).now_le_later
  obtain ⟨db, now⟩ := r'
  cases hrecovered with
  | @resumed parts hreason hparts hunconfirmed hlive =>
      refine ⟨u, ⟨hu, hstate, hprovider⟩, hreason, ?_, ?_, ?_, ⟨?_, ?_, ?_⟩⟩
      · obtain ⟨l', hl', howner, hepoch, _⟩ := hholds
        have hsame : l' = l := Option.some.inj (hl'.symm.trans hl)
        subst hsame
        exact ⟨l', hl', howner, hepoch, hlive⟩
      · rw [← hid]
        exact hparts
      · rw [not_forall] at hunconfirmed
        obtain ⟨p, hp⟩ := hunconfirmed
        obtain ⟨hmem, hfalse⟩ := Classical.not_imp.mp hp
        refine ⟨p, hid ▸ hmem, fun hresolved => hfalse ?_⟩
        exact (isConfirmed_iff_isResolved hdistinct
          (hsound p (Database.mem_partsOf.mp hmem).1)).mpr hresolved
      · let resumed : UploadSessionModel := { withRecoveryFacts u evidence with
          state := .inProgress, completionReason := none, completionPhase := none
          lastActivityAt := r.now + env.ticks.headD 0 }
        exact ⟨resumed, Relation.get?_replace_self (r := resumed) (hid ▸ hu), rfl, rfl, rfl, rfl⟩
      · let ended : MultipartCompletionLeaseModel := { l with
          renewedAt := r.now + env.ticks.headD 0, expiresAt := r.now + env.ticks.headD 0 }
        refine ⟨ended, ?_, ?_⟩
        · rw [hid, ← hlid]
          exact Relation.get?_replace_self (r := ended) (hlid ▸ hl)
        · exact hlater.trans (le_of_eq hnow.symm)
      · intro p hp
        have himage := PartsMapped.get hparts hp
        rw [himage, Option.map_some,
          state_recoveredOrReset hdistinct (hsound p (Database.mem_partsOf.mp hp).1)]

theorem sizes_of_recovered {r' : Registry} (h : store.Reachable r')
    (hdistinct : distinctParts evidence.providerParts)
    (hplanned : allPlanned evidence.providerParts (r.db.partsOf claim.sessionId))
    (hmapped : PartsMapped claim.sessionId (recoveredOrReset evidence.providerParts
      evidence.providerReconciledAt) r.db.parts r'.db.parts) :
    ∀ o ∈ evidence.providerParts, o.sizeBytes < bigint := by
  intro o ho
  obtain ⟨p, hp, hnumber⟩ := hplanned o ho
  have hobserved := (observationOf_eq_some_iff hdistinct).mpr ⟨ho, hnumber.symm⟩
  have himage := PartsMapped.get hmapped hp
  have hchecks := (committed_of_reachable h).lawful.part_checks _ (Relation.mem_of_get? himage)
  simp only [partChecks, satisfied_cons, Rule.violated_range,
    listedSize_recoveredOrReset hobserved] at hchecks
  simpa using hchecks.2.2.1

theorem retried_of_transact {result : CompletionRecoveryResult} {r' : Registry}
    (h : store.Reachable r)
    (hcall : transact (recoverPartialCompletion claim evidence) env r = (.ok result, r'))
    (haction : result.action = .retryCompletion) :
    (∀ p ∈ r'.db.partsOf claim.sessionId, p.state = .verified) ∧
      r'.db.completionLeases = r.db.completionLeases := by
  obtain ⟨_, hdistinct, _, u, l, ⟨hu, _⟩, _, _, hrecovered⟩ := recovered_of_transact hcall
  rw [haction] at hrecovered
  have hid : u.id = claim.sessionId := Relation.key_of_get? hu
  obtain ⟨db, now⟩ := r'
  cases hrecovered with
  | @retried parts hreason hparts hconfirmed =>
      rw [hid] at hparts hconfirmed
      refine ⟨?_, rfl⟩
      intro x hx
      obtain ⟨p, hp, rfl⟩ := (mem_partsOf_recovered hparts).mp hx
      have hsound := partSound_of_reachable h p (Database.mem_partsOf.mp hp).1
      rw [state_recoveredOrReset hdistinct hsound, if_pos
        ((isConfirmed_iff_isResolved hdistinct hsound).mp (hconfirmed p hp))]

theorem restarted_of_transact {result : CompletionRecoveryResult} {r' : Registry}
    (hcall : transact (recoverPartialCompletion claim evidence) env r = (.ok result, r'))
    (haction : result.action = .startNewGeneration) :
    (∃ u', r'.db.sessions.get? claim.sessionId = some u' ∧ u'.state = .failed) ∧
      r'.db.parts = r.db.parts ∧ LeaseEnded r' claim.sessionId := by
  obtain ⟨hnow, _, _, u, l, ⟨hu, _⟩, hl, _, hrecovered⟩ := recovered_of_transact hcall
  rw [haction] at hrecovered
  obtain ⟨hid, hlid⟩ : u.id = claim.sessionId ∧ l.uploadSessionId = claim.sessionId :=
    ⟨Relation.key_of_get? hu, Relation.key_of_get? hl⟩
  have hlater : r.now + env.ticks.headD 0 ≤ r.later env :=
    (elapses_ticked (beginTx env r)).now_le_later
  obtain ⟨db, now⟩ := r'
  cases hrecovered with
  | invalidated hreason =>
      let failed : UploadSessionModel := { withRecoveryFacts u evidence with
        providerAttemptInvalidatedAt := some (r.now + env.ticks.headD 0)
        failureCode := some .providerAttemptInvalidated
        state := .failed
        completedAt := some (r.now + env.ticks.headD 0)
        lastActivityAt := r.now + env.ticks.headD 0 }
      let ended : MultipartCompletionLeaseModel := { l with
        renewedAt := r.now + env.ticks.headD 0, expiresAt := r.now + env.ticks.headD 0 }
      refine ⟨⟨failed, ?_, rfl⟩, rfl, ended, ?_, hlater.trans (le_of_eq hnow.symm)⟩
      · rw [← hid]
        exact Relation.get?_replace_self (r := failed) (hid ▸ hu)
      · rw [← hlid]
        exact Relation.get?_replace_self (r := ended) (hlid ▸ hl)

theorem unguarded_of_resolvesNothing (h : store.Reachable r)
    (hnothing : ResolvesNothing env r claim evidence) : ¬GuardedRecovery env r claim evidence := by
  intro hguarded
  obtain ⟨result, db, hcall, haction⟩ := resumes_of_resolvesNothing h hnothing
  obtain ⟨u, hu, _, _, ⟨x, hx, hverified⟩, _⟩ := hguarded.resumed _ _ hcall haction
  obtain ⟨_, _, _, _, hmapped, _⟩ := resumed_of_transact h hcall haction
  have hid : u.id = claim.sessionId := Relation.key_of_get? hu
  rw [hid] at hx
  obtain ⟨p, hp, himage⟩ := (mem_partsOf_recovered hmapped).mp hx
  have hsound := partSound_of_reachable h p (Database.mem_partsOf.mp hp).1
  rw [← himage, state_recoveredOrReset hnothing.distinct hsound,
    if_neg (hnothing.unresolved p hp)] at hverified
  cases hverified

/-! ## The guard -/

end Recoveries

namespace Sample

/-! ## A resumed sample -/

def emptyListing : PartialCompletionEvidence where
  recoveryReason := .partsPartial
  finalAbsenceObservedAt := 80
  providerReconciledAt := 81
  providerParts := []
  completionResult := none
  result_allowed := rfl
  parts_reusable := Or.inl rfl

theorem claimed_resolvesNothing :
    ResolvesNothing (env 14) (store.runFrom store.start claimed) claim emptyListing := by
  obtain ⟨⟨_, hlive⟩, _, hretry, _⟩ := claimed_facts
  obtain ⟨result, hcall, _⟩ := retry_of_isRetry hretry
  obtain ⟨_, _, _, u, _, ⟨hu, _, hprovider⟩, _⟩ := recovered_of_transact hcall
  have hclock : ∀ now, now + (env 14).ticks.headD 0 + (env 14).ticks.tail.headD 0 =
      now + (env 11).ticks.headD 0 := fun _ => rfl
  refine ⟨rfl, ?_, ⟨u, hu, hprovider⟩, List.nodup_nil, ?_, ?_, ?_⟩
  · rw [hclock]
    exact hlive
  · intro o ho
    cases ho
  · intro o ho
    cases ho
  · intro p _ hresolved
    obtain ⟨o, ho, _⟩ := hresolved
    cases ho

end Sample

end RoboLake
