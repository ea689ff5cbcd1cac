import RoboLake.Registry.Accepted.Multipart
import RoboLake.Guarantees.Fencing

/-! # Completion phases

Two phase changes that the domain guard admits are refused by the session trigger.
A recovery records that the final object was observed absent and leaves the phase
as it was: below the phases in which the object counts as present, nothing is
published until it has been observed again.
-/

namespace RoboLake

open Foundation Store Work

section Recovery

variable [Platform] {env : Env} {r r' : Registry}

/-! ## The two phase guards -/

/-- Under a current claim a phase change that the domain guard admits commits exactly when it is
neither the step from PENDING to FINAL_PRESENT nor the one from ASSEMBLING back to PENDING. -/
theorem phase_change_commits_iff {claim : CompletionClaim} {current phase : CompletionPhase}
    {f₁ f₂ f₃ : Bool} (h : store.Reachable r)
    (hclaim : HoldsCompletion r.db claim.sessionId claim.lease.leaseOwnerId
      claim.lease.leaseEpoch (r.now + env.ticks.headD 0))
    (hcurrent : completionPhaseOf r.db claim.sessionId = some current)
    (haccepts : requireCompletionPhaseTransition current phase f₁ f₂ f₃ = .ok phase) :
    (transact (setCompletionPhase claim phase f₁ f₂ f₃) env r).1 = .ok () ↔
      ¬((current = .pending ∧ phase = .finalPresent) ∨
        (current = .assembling ∧ phase = .pending)) := by
  rw [transact_setCompletionPhase_iff h hclaim hcurrent haccepts]
  obtain ⟨_, hedge⟩ := requireCompletionPhaseTransition_ok.mp haccepts
  cases current <;> cases phase <;> simp [completionPhaseEdges, admittedPhaseEdges] at hedge ⊢

/-! ## Recovery -/

/-- The call is a phase change that moves a session into FINAL_PRESENT. -/
def MovesIntoFinalPresent (sessionId : UUID) (r : Registry) (c : Call) : Prop :=
  (∃ claim f₁ f₂ f₃, c.operation = .setCompletionPhase claim .finalPresent f₁ f₂ f₃ ∧
    claim.sessionId = sessionId) ∧
  completionPhaseOf r.db sessionId ≠ some .finalPresent ∧
    completionPhaseOf (c.step r).db sessionId = some .finalPresent

/-- No publication of the session succeeds in any registry of a run that does not move it into
FINAL_PRESENT. -/
def AwaitsFinalObject (sessionId : UUID) (r : Registry) : Prop :=
  ∀ calls, (∀ x ∈ store.steps r calls, ¬MovesIntoFinalPresent sessionId x.1 x.2) →
    ∀ x ∈ store.visited r calls, ∀ claim evidence env, claim.sessionId = sessionId →
      ∃ e, (transact (recordVerifiedCompletion claim evidence) env x).1 = .error e

theorem beforeFinalObject_of_step {sessionId : UUID} {c : Call}
    (h : BeforeFinalObject r.db sessionId) (hmove : ¬MovesIntoFinalPresent sessionId r c) :
    BeforeFinalObject (c.step r).db sessionId := by
  rcases beforeFinalObject_of_effect (effect_of_step c r) h with hbefore | ⟨hphase, hcall⟩
  · exact hbefore
  · exact absurd ⟨hcall, h.1, hphase⟩ hmove

theorem awaitsFinalObject_of_phase {sessionId : UUID} (hr : store.Reachable r)
    (h : BeforeFinalObject r.db sessionId) : AwaitsFinalObject sessionId r := by
  intro calls hcalls x hx claim evidence env hclaim
  have hbefore : BeforeFinalObject x.db sessionId :=
    Machine.forall_visited (P := fun x => BeforeFinalObject x.db sessionId)
      (G := fun x c => ¬MovesIntoFinalPresent sessionId x c)
      (fun _ _ _ hs hmove => beforeFinalObject_of_step hs hmove) hr h hcalls x hx
  cases hresult : (transact (recordVerifiedCompletion claim evidence) env x).1 with
  | error e => exact ⟨e, rfl⟩
  | ok context =>
      obtain ⟨s, hrun, _⟩ := returned_of_transact hresult
      obtain ⟨u, hu, hphase⟩ := phase_of_recordVerifiedCompletion hrun
      have hfinal : completionPhaseOf x.db sessionId = some .finalVerification := by
        unfold completionPhaseOf
        rw [← hclaim, hu]
        exact hphase
      exact absurd hfinal hbefore.2

theorem phase_of_retry {claim : CompletionClaim} {evidence : PartialCompletionEvidence}
    {result : CompletionRecoveryResult}
    (h : transact (recoverPartialCompletion claim evidence) env r = (.ok result, r'))
    (haction : result.action = .retryCompletion) (sessionId : UUID) :
    completionPhaseOf r'.db sessionId = completionPhaseOf r.db sessionId := by
  obtain ⟨s, _, hrun, _, rfl⟩ := transact_ok.mp h
  obtain ⟨u, l, ⟨hu, _, _⟩, _, _, hrecovered⟩ := run_recoverPartialCompletion_ok hrun
  rw [haction] at hrecovered
  have hsessions : s.db.sessions = r.db.sessions.replace (withRecoveryFacts u evidence) := by
    generalize s.db = db at hrecovered
    cases hrecovered with
    | retried hreason hparts hconfirmed => rfl
  exact completionPhaseOf_same hsessions hu rfl rfl

/-- A recovery that retries completion from PENDING or ASSEMBLING leaves that phase, and nothing
is published for its session until a later call has moved it into FINAL_PRESENT. -/
theorem recovery_awaits_the_final_object {claim : CompletionClaim}
    {evidence : PartialCompletionEvidence} {result : CompletionRecoveryResult}
    (hr : store.Reachable r)
    (h : transact (recoverPartialCompletion claim evidence) env r = (.ok result, r'))
    (haction : result.action = .retryCompletion)
    (hphase : completionPhaseOf r.db claim.sessionId = some .pending ∨
      completionPhaseOf r.db claim.sessionId = some .assembling) :
    (completionPhaseOf r'.db claim.sessionId = some .pending ∨
      completionPhaseOf r'.db claim.sessionId = some .assembling) ∧
    AwaitsFinalObject claim.sessionId r' := by
  have hsame := phase_of_retry h haction claim.sessionId
  rw [← hsame] at hphase
  refine ⟨hphase, awaitsFinalObject_of_phase ?_ ?_⟩
  · have hop : operationTx (.recoverPartialCompletion claim evidence) =
        effect (recoverPartialCompletion claim evidence) := rfl
    have hnext : store.Reachable (transact (recoverPartialCompletion claim evidence) env r).2 :=
      reachable_of_transact hop hr
    rwa [h] at hnext
  · unfold BeforeFinalObject
    rcases hphase with hphase | hphase
    · rw [hphase]
      simp
    · rw [hphase]
      simp

end Recovery

namespace Sample

/-- The final object was absent while every part was present. -/
def absence : PartialCompletionEvidence where
  recoveryReason := .partsReady
  finalAbsenceObservedAt := 80
  providerReconciledAt := 81
  providerParts := List.ofFn observation
  completionResult := none
  result_allowed := rfl
  parts_reusable := Or.inl rfl

def isRetry : Except Failure CompletionRecoveryResult → Bool
  | .ok result => result.action == .retryCompletion
  | .error _ => false

def recovered : Except Failure CompletionRecoveryResult × Registry :=
  transact (recoverPartialCompletion claim absence) (env 14)
    (store.runFrom (store.runFrom store.start claimed) verifying)

set_option maxRecDepth 100000 in
/-- What the claimed work does: from PENDING it cannot be moved to FINAL_PRESENT and a recovery
retries it; from FINAL_VERIFICATION a recovery retries it and the publication then succeeds. -/
theorem claimed_facts :
    (completionPhaseOf (store.runFrom store.start claimed).db claim.sessionId = some .pending ∧
      HoldsCompletion (store.runFrom store.start claimed).db claim.sessionId
        claim.lease.leaseOwnerId claim.lease.leaseEpoch
        ((store.runFrom store.start claimed).now + (env 11).ticks.headD 0)) ∧
    (transact (setCompletionPhase claim .finalPresent true false false) (env 11)
      (store.runFrom store.start claimed)).1.isOk = false ∧
    isRetry (transact (recoverPartialCompletion claim absence) (env 14)
      (store.runFrom store.start claimed)).1 = true ∧
    isRetry recovered.1 = true ∧
    (transact (recordVerifiedCompletion claim verification) (env 15) recovered.2).1.isOk =
      true := by
  unfold recovered
  rw [runFrom_claimed]
  decide +kernel

/-- The domain guard admits observing the object from PENDING, and the call still fails. -/
theorem sample_guards_disagree :
    ¬∀ r, store.Reachable r → ∀ env claim current phase f₁ f₂ f₃,
      HoldsCompletion r.db claim.sessionId claim.lease.leaseOwnerId claim.lease.leaseEpoch
        (r.now + env.ticks.headD 0) →
      completionPhaseOf r.db claim.sessionId = some current →
      requireCompletionPhaseTransition current phase f₁ f₂ f₃ = .ok phase →
      (transact (setCompletionPhase claim phase f₁ f₂ f₃) env r).1 = .ok () := by
  intro hall
  obtain ⟨⟨hphase, hclaim⟩, hrefused, _⟩ := claimed_facts
  have hok := hall _ reachable_claimed (env 11) claim .pending .finalPresent true false false hclaim
    hphase rfl
  rw [hok] at hrefused
  cases hrefused

theorem sample_work_is_assembled :
    (transact (setCompletionPhase claim .assembling false false false) (env 11)
      (store.runFrom store.start claimed)).1 = .ok () ↔
        ¬((CompletionPhase.pending = .pending ∧ CompletionPhase.assembling = .finalPresent) ∨
          (CompletionPhase.pending = .assembling ∧ CompletionPhase.assembling = .pending)) :=
  phase_change_commits_iff reachable_claimed claimed_facts.1.2 claimed_facts.1.1 rfl

theorem retry_of_isRetry {x : Except Failure CompletionRecoveryResult × Registry}
    (h : isRetry x.1 = true) :
    ∃ result, x = (.ok result, x.2) ∧ result.action = .retryCompletion := by
  obtain ⟨answer, r⟩ := x
  cases answer with
  | error e => cases h
  | ok result => exact ⟨result, rfl, by simpa [isRetry] using h⟩

/-- After the recovery at FINAL_VERIFICATION the object is published without being observed. -/
theorem sample_recovery_publishes_unobserved :
    ¬∀ r, store.Reachable r → ∀ claim evidence env result r',
      transact (recoverPartialCompletion claim evidence) env r = (.ok result, r') →
      result.action = .retryCompletion → AwaitsFinalObject claim.sessionId r' := by
  intro hall
  obtain ⟨_, _, _, hretry, hpublished⟩ := claimed_facts
  obtain ⟨result, hrecovered, haction⟩ := retry_of_isRetry hretry
  have hreachable : store.Reachable (store.runFrom (store.runFrom store.start claimed) verifying) :=
    reachable_claimed.runFrom verifying
  have hawaits := hall _ hreachable claim absence (env 14) result _ hrecovered haction
  obtain ⟨e, he⟩ := hawaits [] (fun _ hx => by cases hx) recovered.2
    (List.mem_singleton.mpr rfl) claim verification (env 15) rfl
  rw [he] at hpublished
  cases hpublished

/-- After the recovery at PENDING the object is awaited. -/
theorem sample_recovery_awaits :
    AwaitsFinalObject claim.sessionId (transact (recoverPartialCompletion claim absence) (env 14)
      (store.runFrom store.start claimed)).2 := by
  obtain ⟨⟨hphase, _⟩, _, hretry, _⟩ := claimed_facts
  obtain ⟨result, hrecovered, haction⟩ := retry_of_isRetry hretry
  exact (recovery_awaits_the_final_object reachable_claimed hrecovered haction
    (Or.inl hphase)).2

end Sample

end RoboLake
