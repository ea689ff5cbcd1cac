import RoboLake.Registry.Reachable

/-! # Completion phases

How one operation moves the stored phase of a session's completion work, and which
completion facts a COMPLETING session has whatever operations led to it.
-/

namespace RoboLake

open Foundation Store

variable [Platform] {env : Env} {r : Registry}

/-! ## Moves of the phase -/

def completionPhaseOf (db : Database) (sessionId : UUID) : Option CompletionPhase :=
  (db.sessions.get? sessionId).bind UploadSessionModel.completionPhase

/-- The phase of a session after an operation: as it was, dropped by a resumed upload, PENDING
by an acceptance, or the target of a legal transition. -/
inductive PhaseMove (r : Registry) (op : Operation) (sessionId : UUID) :
    Option CompletionPhase → Prop
  | kept : PhaseMove r op sessionId (completionPhaseOf r.db sessionId)
  | dropped : PhaseMove r op sessionId none
  | accepted : PhaseMove r op sessionId (some .pending)
  | advanced {claim : CompletionClaim} {current phase : CompletionPhase} {f₁ f₂ f₃ : Bool}
      (hop : op = .setCompletionPhase claim phase f₁ f₂ f₃) (hclaim : claim.sessionId = sessionId)
      (hcurrent : completionPhaseOf r.db sessionId = some current)
      (hphase : requireCompletionPhaseTransition current phase f₁ f₂ f₃ = .ok phase) :
      PhaseMove r op sessionId (some phase)

section Moves

variable {op : Operation} {db : Database} {sessionId k : UUID} {u u' : UploadSessionModel}

theorem completionPhaseOf_replace (hs : db.sessions = r.db.sessions.replace u')
    (hu : r.db.sessions.get? k = some u) (hid : u'.id = u.id) :
    completionPhaseOf db sessionId =
      if sessionId = k then u'.completionPhase else completionPhaseOf r.db sessionId := by
  have hk : u'.id = k := hid.trans (Relation.key_of_get? hu)
  unfold completionPhaseOf
  rw [hs]
  split
  · rename_i hsession
    have hget : r.db.sessions.get? (key u') = some u := by
      rw [key_session, hk]
      exact hu
    have hrow : (r.db.sessions.replace u').get? sessionId = some u' := by
      rw [hsession, ← hk]
      exact Relation.get?_replace_self hget
    rw [hrow]
    rfl
  · rename_i hsession
    have hne : sessionId ≠ key u' := by
      rw [key_session, hk]
      exact hsession
    rw [Relation.get?_replace_ne hne]

theorem completionPhaseOf_same (hs : db.sessions = r.db.sessions.replace u')
    (hu : r.db.sessions.get? k = some u) (hid : u'.id = u.id)
    (hphase : u'.completionPhase = u.completionPhase) :
    completionPhaseOf db sessionId = completionPhaseOf r.db sessionId := by
  rw [completionPhaseOf_replace hs hu hid]
  split
  · rename_i hsession
    rw [completionPhaseOf, hsession, hu, hphase]
    rfl
  · rfl

theorem PhaseMove.replace (hs : db.sessions = r.db.sessions.replace u')
    (hu : r.db.sessions.get? k = some u) (hid : u'.id = u.id)
    (hmove : k = sessionId → PhaseMove r op sessionId u'.completionPhase) :
    PhaseMove r op sessionId (completionPhaseOf db sessionId) := by
  rw [completionPhaseOf_replace hs hu hid]
  split
  · rename_i hsession
    exact hmove hsession.symm
  · exact .kept

theorem PhaseMove.same (hs : db.sessions = r.db.sessions.replace u')
    (hu : r.db.sessions.get? k = some u) (hid : u'.id = u.id)
    (hphase : u'.completionPhase = u.completionPhase) :
    PhaseMove r op sessionId (completionPhaseOf db sessionId) := by
  rw [completionPhaseOf_same hs hu hid hphase]
  exact .kept

theorem PhaseMove.insert (hs : db.sessions = r.db.sessions.insert u')
    (hfree : r.db.sessions.get? u'.id = none) (hphase : u'.completionPhase = none) :
    PhaseMove r op sessionId (completionPhaseOf db sessionId) := by
  unfold completionPhaseOf
  rw [hs, Relation.get?_insert hfree]
  by_cases hsession : sessionId = key u'
  · rw [if_pos hsession, Option.bind_some, hphase]
    exact .dropped
  · rw [if_neg hsession]
    exact .kept

end Moves

theorem phase_of_effect {op : Operation} {db : Database} (heffect : Effect env r op db)
    (sessionId : UUID) : PhaseMove r op sessionId (completionPhaseOf db sessionId) := by
  cases heffect with
  | sessionOpened _ _ _ _ hfree _ => exact .insert rfl hfree rfl
  | uploadStarted hu => exact .same rfl hu rfl rfl
  | uploadVerified hu => exact .same rfl hu rfl rfl
  | uploadFailed hu => exact .same rfl hu rfl rfl
  | uploadRestarted _ _ _ _ _ _ hfree => exact .insert rfl hfree rfl
  | multipartCreated _ _ _ _ hfree _ _ => exact .insert rfl hfree rfl
  | initiationBegun hu => exact .same rfl hu rfl rfl
  | providerRecorded hu => exact .same rfl hu rfl rfl
  | initiationAmbiguous hu => exact .same rfl hu rfl rfl
  | partReplayed hu => exact .same rfl hu rfl rfl
  | partRecorded hu => exact .same rfl hu rfl rfl
  | partsReconciled hu => exact .same rfl hu rfl rfl
  | completionAccepted hu => exact .replace rfl hu rfl fun _ => .accepted
  | phaseSet hu _ _ hcurrent hphase =>
      refine .replace rfl hu rfl fun hsession => .advanced rfl hsession ?_ hphase
      unfold completionPhaseOf
      rw [← hsession, hu]
      exact hcurrent
  | attemptInvalidated hu => exact .same rfl hu rfl rfl
  | partsRecovered hu => exact .same rfl hu rfl rfl
  | completionResumed hu => exact .replace rfl hu rfl fun _ => .dropped
  | completionVerified hu => exact .same rfl hu rfl rfl
  | _ => exact .kept

/-! ## Before the final object is observed -/

/-- The session's phase comes before any observation of the final object. -/
def BeforeFinalObject (db : Database) (sessionId : UUID) : Prop :=
  completionPhaseOf db sessionId ≠ some .finalPresent ∧
    completionPhaseOf db sessionId ≠ some .finalVerification

/-- Only a phase change into FINAL_PRESENT gets past the observation. -/
theorem beforeFinalObject_of_effect {op : Operation} {db : Database} {sessionId : UUID}
    (heffect : Effect env r op db) (h : BeforeFinalObject r.db sessionId) :
    BeforeFinalObject db sessionId ∨
      (completionPhaseOf db sessionId = some .finalPresent ∧ ∃ claim f₁ f₂ f₃,
        op = .setCompletionPhase claim .finalPresent f₁ f₂ f₃ ∧ claim.sessionId = sessionId) := by
  unfold BeforeFinalObject
  generalize hphase : completionPhaseOf db sessionId = phase
  have hmove := phase_of_effect heffect sessionId
  rw [hphase] at hmove
  cases hmove with
  | kept => exact Or.inl h
  | dropped => simp
  | accepted => simp
  | @advanced claim current phase f₁ f₂ f₃ hop hclaim hcurrent hlegal =>
      cases phase with
      | pending => simp
      | assembling => simp
      | finalPresent => exact Or.inr ⟨rfl, claim, f₁, f₂, f₃, hop, hclaim⟩
      | finalVerification =>
          have hfrom : current = .finalPresent ∨ current = .finalVerification := by
            obtain ⟨_, hedge⟩ := requireCompletionPhaseTransition_ok.mp hlegal
            cases current <;> simp [completionPhaseEdges] at hedge ⊢
          rcases hfrom with rfl | rfl
          · exact absurd hcurrent h.1
          · exact absurd hcurrent h.2

/-! ## Facts of accepted work -/

/-- The completion columns of a session: nothing records an attempt, and COMPLETING work has its
request time, its reason and its phase. -/
structure CompletionFacts (u : UploadSessionModel) : Prop where
  attempted : u.completionAttemptedAt = none
  requested : u.state = .completing → u.completionRequestedAt ≠ none
  reason : u.state = .completing → u.completionReason = some .partsReady
  phase : u.state = .completing → u.completionPhase ≠ none

omit [Platform] in
theorem completionFacts_of_other {u : UploadSessionModel} (h : u.completionAttemptedAt = none)
    (hstate : u.state ≠ .completing) : CompletionFacts u :=
  ⟨h, fun hc => absurd hc hstate, fun hc => absurd hc hstate, fun hc => absurd hc hstate⟩

theorem completionFacts_of_effect {op : Operation} {db : Database} (heffect : Effect env r op db)
    (h : ∀ u ∈ r.db.sessions.rows, CompletionFacts u) :
    ∀ u ∈ db.sessions.rows, CompletionFacts u := by
  have hold {k : UUID} {u : UploadSessionModel} (hu : r.db.sessions.get? k = some u) :
      CompletionFacts u := h u (Relation.mem_of_get? hu)
  cases heffect with
  | sessionOpened _ _ _ _ hfree _ =>
      exact Relation.forall_insert h hfree
        (completionFacts_of_other rfl (by simp [singlePutSession]))
  | uploadStarted hu =>
      exact Relation.forall_replace h (completionFacts_of_other (hold hu).attempted (by simp))
  | uploadVerified hu =>
      exact Relation.forall_replace h (completionFacts_of_other (hold hu).attempted (by simp))
  | uploadFailed hu =>
      exact Relation.forall_replace h (completionFacts_of_other (hold hu).attempted (by simp))
  | uploadRestarted _ _ _ _ _ _ hfree =>
      exact Relation.forall_insert h hfree
        (completionFacts_of_other rfl (by simp [singlePutSession]))
  | multipartCreated _ _ _ _ hfree _ _ =>
      exact Relation.forall_insert h hfree (completionFacts_of_other rfl (by simp [plannedSession]))
  | initiationBegun hu =>
      exact Relation.forall_replace h (completionFacts_of_other (hold hu).attempted (by simp))
  | providerRecorded hu =>
      exact Relation.forall_replace h (completionFacts_of_other (hold hu).attempted (by simp))
  | initiationAmbiguous hu =>
      exact Relation.forall_replace h (completionFacts_of_other (hold hu).attempted (by simp))
  | partReplayed hu =>
      exact Relation.forall_replace h { hold hu with }
  | partRecorded hu =>
      exact Relation.forall_replace h { hold hu with }
  | partsReconciled hu =>
      exact Relation.forall_replace h { hold hu with }
  | completionAccepted hu =>
      refine Relation.forall_replace h ⟨(hold hu).attempted, fun _ => ?_, fun _ => rfl, fun _ => ?_⟩
      · simp
      · simp
  | phaseSet hu _ _ _ _ =>
      refine Relation.forall_replace h { hold hu with phase := fun _ => ?_ }
      simp
  | attemptInvalidated hu =>
      exact Relation.forall_replace h (completionFacts_of_other (hold hu).attempted (by simp))
  | partsRecovered hu =>
      exact Relation.forall_replace h { hold hu with }
  | completionResumed hu =>
      exact Relation.forall_replace h (completionFacts_of_other (hold hu).attempted (by simp))
  | completionVerified hu =>
      exact Relation.forall_replace h (completionFacts_of_other (hold hu).attempted (by simp))
  | _ => exact h

theorem completionFacts_of_reachable (h : store.Reachable r) :
    ∀ u ∈ r.db.sessions.rows, CompletionFacts u :=
  reachable_induction (I := fun r => ∀ u ∈ r.db.sessions.rows, CompletionFacts u)
    (fun _ hu => by cases hu) (fun _ _ _ _ _ _ _ heffect => completionFacts_of_effect heffect) h

/-! ## Sessions before any accepted work -/

def PhaseUnset (u : UploadSessionModel) : Prop :=
  u.state = .created ∨ u.state = .initiating ∨ u.state = .inProgress → u.completionPhase = none

theorem phaseUnset_of_effect {op : Operation} {db : Database} (heffect : Effect env r op db)
    (h : ∀ u ∈ r.db.sessions.rows, PhaseUnset u) : ∀ u ∈ db.sessions.rows, PhaseUnset u := by
  have hold {k : UUID} {u : UploadSessionModel} (hu : r.db.sessions.get? k = some u) :
      PhaseUnset u := h u (Relation.mem_of_get? hu)
  cases heffect with
  | sessionOpened _ _ _ _ hfree _ => exact Relation.forall_insert h hfree fun _ => rfl
  | uploadRestarted _ _ _ _ _ _ hfree => exact Relation.forall_insert h hfree fun _ => rfl
  | multipartCreated _ _ _ _ hfree _ _ => exact Relation.forall_insert h hfree fun _ => rfl
  | uploadStarted hu _ hcreated =>
      have hunset := hold hu (Or.inl hcreated)
      exact Relation.forall_replace h fun _ => hunset
  | initiationBegun hu _ hstate =>
      have hunset := hold hu (Or.inl hstate)
      exact Relation.forall_replace h fun _ => hunset
  | providerRecorded hu _ hstate =>
      have hunset := hold hu (Or.inr (Or.inl hstate))
      exact Relation.forall_replace h fun _ => hunset
  | partReplayed hu _ hstate =>
      have hunset := hold hu (Or.inr (Or.inr hstate))
      exact Relation.forall_replace h fun _ => hunset
  | partRecorded hu _ hstate =>
      have hunset := hold hu (Or.inr (Or.inr hstate))
      exact Relation.forall_replace h fun _ => hunset
  | partsReconciled hu _ hstate =>
      have hunset := hold hu (Or.inr (Or.inr hstate))
      exact Relation.forall_replace h fun _ => hunset
  | uploadVerified => exact Relation.forall_replace h (by simp [PhaseUnset])
  | uploadFailed => exact Relation.forall_replace h (by simp [PhaseUnset])
  | initiationAmbiguous => exact Relation.forall_replace h (by simp [PhaseUnset])
  | completionAccepted => exact Relation.forall_replace h (by simp [PhaseUnset])
  | phaseSet _ _ hstate => exact Relation.forall_replace h (by simp [PhaseUnset, hstate])
  | attemptInvalidated => exact Relation.forall_replace h (by simp [PhaseUnset])
  | partsRecovered _ hstate =>
      exact Relation.forall_replace h (by simp [PhaseUnset, withRecoveryFacts, hstate])
  | completionResumed => exact Relation.forall_replace h fun _ => rfl
  | completionVerified => exact Relation.forall_replace h (by simp [PhaseUnset])
  | _ => exact h

theorem phaseUnset_of_reachable (h : store.Reachable r) :
    ∀ u ∈ r.db.sessions.rows, PhaseUnset u :=
  reachable_induction (I := fun r => ∀ u ∈ r.db.sessions.rows, PhaseUnset u)
    (fun _ hu => by cases hu) (fun _ _ _ _ _ _ _ heffect => phaseUnset_of_effect heffect) h

end RoboLake
