import RoboLake.Registry.Accepted
import RoboLake.Registry.Leases
import RoboLake.Registry.Plans
import RoboLake.Registry.Phases

/-! # Multipart calls that return

When the steps of a multipart session are accepted by the database: the publication
trigger passes beside a session that stays active, and the session trigger admits
the columns each step writes.
-/

namespace RoboLake

open Foundation Work Store Migrations

variable [Platform] {env : Env} {r : Registry}

/-! ## The publication trigger -/

theorem validateM2Publication_of_open {db : Database} {clock : Timestamp} {b : BlobModel}
    (hb : db.blobs.get? b.id = some b) (hsettled : b.state ≠ .verifying)
    (hunavailable : b.state ≠ .available)
    (hcompleted : ∀ u ∈ db.sessions.rows, u.blobId = b.id → u.strategy = .multipart →
      u.state ≠ .completed)
    (hended : ∀ u ∈ db.sessions.rows, u.state = .failed →
      ∀ l ∈ db.completionLeases.rows, l.uploadSessionId = u.id → l.expiresAt ≤ clock) :
    Satisfied (validateM2Publication db clock b.id) := by
  unfold validateM2Publication
  rw [hb]
  simp only
  split
  · simp only [publicationRules, satisfied_cons, Rule.violated_raiseIf, Ternary.holds_of,
      satisfied_nil, and_true]
    refine ⟨hsettled, fun hbad => hunavailable hbad.1, ?_, ?_⟩
    · intro hbad
      obtain ⟨⟨u, hu, ⟨hub, hum⟩, huc⟩, _⟩ := hbad
      exact hcompleted u hu hub hum huc
    · intro hbad
      obtain ⟨u, hu, _, huf, _, l, hl, hlu, hlive⟩ := hbad
      exact absurd (hended u hu huf l hl hlu) (Nat.not_le.mpr hlive)
  · exact satisfied_nil

/-- Beside an active session of a Blob no multipart session is COMPLETED: it would have published
the Blob. -/
theorem not_completed_beside {u x : UploadSessionModel} (h : store.Reachable r)
    (hu : r.db.sessions.get? u.id = some u) (hactive : u.state.isActive = true)
    (hx : x ∈ r.db.sessions.rows) (hxb : x.blobId = u.blobId) (hxm : x.strategy = .multipart) :
    x.state ≠ .completed := by
  intro hxc
  have hcommitted := committed_of_reachable h
  have hmem := Relation.mem_of_get? hu
  obtain ⟨b, hb⟩ := hcommitted.lawful.session_blob.get hmem
  have hbu : b.id = u.blobId := Relation.key_of_get? hb
  have hxb' : x.blobId = b.id := by rw [hxb, hbu]
  have havailable := (hcommitted.published b (Relation.mem_of_get? hb)
    ⟨x, hx, hxb', hxm⟩).completed x hx hxb' hxm hxc
  exact ((coupled_of_reachable h).fits u hmem b hb).not_available hactive havailable

theorem completing_of_live {l : MultipartCompletionLeaseModel} {clock : Timestamp}
    (h : store.Reachable r) (hl : l ∈ r.db.completionLeases.rows) (hclock : r.now ≤ clock)
    (hlive : clock < l.expiresAt) :
    ∃ y, r.db.sessions.get? l.uploadSessionId = some y ∧ y.strategy = .multipart ∧
      y.state = .completing := by
  have hget : r.db.completionLeases.get? l.uploadSessionId = some l := Relation.get?_of_mem hl
  obtain ⟨y, hy, hm, hok⟩ := (owned_of_reachable h).completion _ l hget
  exact ⟨y, hy, hm, hok (lt_of_le_of_lt hclock hlive)⟩

/-- The publication trigger passes after a step of an active session that stays active and lets no
other completion lease live. -/
theorem publication_of_live {db : Database} {u u' : UploadSessionModel} {b' : BlobModel}
    {clock : Timestamp} (h : store.Reachable r) (hu : r.db.sessions.get? u.id = some u)
    (hactive : u.state.isActive = true) (hsessions : db.sessions = r.db.sessions.replace u')
    (hactive' : u'.state.isActive = true)
    (hleases : ∀ l ∈ db.completionLeases.rows, clock < l.expiresAt →
      l ∈ r.db.completionLeases.rows)
    (hb' : db.blobs.get? u.blobId = some b') (hsettled : b'.state ≠ .verifying)
    (hunavailable : b'.state ≠ .available) (hclock : r.now ≤ clock) :
    Satisfied (validateM2Publication db clock u.blobId) := by
  have hbid : b'.id = u.blobId := Relation.key_of_get? hb'
  rw [← hbid] at hb' ⊢
  refine validateM2Publication_of_open hb' hsettled hunavailable ?_ ?_
  · intro x hx hxb hxm
    rw [hsessions] at hx
    rcases Relation.mem_replace hx with rfl | ⟨hx, _⟩
    · intro hxc
      rw [hxc] at hactive'
      cases hactive'
    · exact not_completed_beside h hu hactive hx (hxb.trans hbid) hxm
  · intro x hx hxf l hl hlx
    rw [hsessions] at hx
    by_contra hdead
    have hlive := Nat.lt_of_not_le hdead
    obtain ⟨y, hy, _, hcompleting⟩ := completing_of_live h (hleases l hl hlive) hclock hlive
    rcases Relation.mem_replace hx with rfl | ⟨hx, _⟩
    · rw [hxf] at hactive'
      cases hactive'
    · have hxget : r.db.sessions.get? x.id = some x := Relation.get?_of_mem hx
      rw [hlx, hxget] at hy
      cases hy
      rw [hxf] at hcompleting
      cases hcompleting

theorem publication_of_singlePut_ended {db : Database} {u u' : UploadSessionModel}
    {b' : BlobModel} {clock : Timestamp} (h : store.Reachable r)
    (hu : r.db.sessions.get? u.id = some u) (hsingle : u.strategy = .singlePut)
    (hactive : u.state.isActive = true) (hsessions : db.sessions = r.db.sessions.replace u')
    (hu' : u'.id = u.id ∧ u'.strategy = .singlePut)
    (hleases : db.completionLeases = r.db.completionLeases)
    (hb' : db.blobs.get? u.blobId = some b') (hsettled : b'.state ≠ .verifying)
    (hunavailable : b'.state ≠ .available) (hclock : r.now ≤ clock) :
    Satisfied (validateM2Publication db clock u.blobId) := by
  have hbid : b'.id = u.blobId := Relation.key_of_get? hb'
  rw [← hbid] at hb' ⊢
  refine validateM2Publication_of_open hb' hsettled hunavailable ?_ ?_
  · intro x hx hxb hxm
    rw [hsessions] at hx
    rcases Relation.mem_replace hx with rfl | ⟨hx, _⟩
    · rw [hu'.2] at hxm
      cases hxm
    · exact not_completed_beside h hu hactive hx (hxb.trans hbid) hxm
  · intro x hx hxf l hl hlx
    rw [hsessions] at hx
    rw [hleases] at hl
    by_contra hdead
    have hlive := Nat.lt_of_not_le hdead
    obtain ⟨y, hy, hm, hcompleting⟩ := completing_of_live h hl hclock hlive
    rcases Relation.mem_replace hx with rfl | ⟨hx, _⟩
    · rw [hlx, hu'.1, hu] at hy
      cases hy
      rw [hsingle] at hm
      cases hm
    · have hxget : r.db.sessions.get? x.id = some x := Relation.get?_of_mem hx
      rw [hlx, hxget] at hy
      cases hy
      rw [hxf] at hcompleting
      cases hcompleting

theorem publication_of_active {db : Database} {u u' : UploadSessionModel} {b' : BlobModel}
    {clock : Timestamp} (h : store.Reachable r) (hu : r.db.sessions.get? u.id = some u)
    (hactive : u.state.isActive = true) (hsessions : db.sessions = r.db.sessions.replace u')
    (hactive' : u'.state.isActive = true)
    (hleases : db.completionLeases = r.db.completionLeases)
    (hb' : db.blobs.get? u.blobId = some b') (hsettled : b'.state ≠ .verifying)
    (hunavailable : b'.state ≠ .available) (hclock : r.now ≤ clock) :
    Satisfied (validateM2Publication db clock u.blobId) :=
  publication_of_live h hu hactive hsessions hactive' (fun _ hl _ => hleases ▸ hl) hb' hsettled
    hunavailable hclock

/-! ## Completion phases -/

omit [Platform] in
/-- The phase edges the session trigger admits on accepted work without an attempt time. -/
def admittedPhaseEdges : List (CompletionPhase × CompletionPhase) :=
  [(.pending, .assembling), (.assembling, .finalPresent), (.finalPresent, .finalVerification),
   (.finalVerification, .finalPresent)]

omit [Platform] in
theorem phaseEdge_refuted_iff {u u' : UploadSessionModel} {current phase : CompletionPhase}
    (hcurrent : u.completionPhase = some current) (hphase : u'.completionPhase = some phase)
    (hreason : u'.completionReason = some .partsReady)
    (hattempted : u'.completionAttemptedAt = none) :
    (phaseEdge u u').Refuted ↔ (current, phase) ∉ admittedPhaseEdges := by
  simp only [phaseEdge, hcurrent, hphase, hreason, hattempted]
  cases current <;> cases phase <;> simp [admittedPhaseEdges]

theorem sessionRules_of_phase {db : Database} {u u' : UploadSessionModel}
    {current phase : CompletionPhase} {activityAt : Timestamp} (h : Lawful db)
    (hu : db.sessions.get? u.id = some u) (hmultipart : u.strategy = .multipart)
    (hstate : u.state = .completing) (hfacts : CompletionFacts u)
    (hresolved : ¬HasUnresolvedPart db u.id) (hcurrent : u.completionPhase = some current)
    (hu' : u' = { u with completionPhase := some phase, lastActivityAt := activityAt }) :
    Satisfied (guardUploadSession db u u' ++ sessionConstraints db u') ↔
      current = phase ∨ (current, phase) ∈ admittedPhaseEdges := by
  have hconstraints : Satisfied (sessionConstraints db u') := by
    subst hu'
    exact h.sessionConstraints_kept hu rfl rfl rfl (fun ha => ha)
      (h.session_checks u (Relation.mem_of_get? hu))
  have hplan : u'.id = u.id ∧ u'.blobId = u.blobId ∧
      u'.initiatingVersionId = u.initiatingVersionId ∧ u'.strategy = u.strategy ∧
      SamePlan u u' ∧ u'.providerUploadId = u.providerUploadId := by
    subst hu'
    exact ⟨rfl, rfl, rfl, rfl, ⟨rfl, rfl, rfl, rfl, rfl⟩, rfl⟩
  have hwork : u'.state = .completing ∧ u'.completionRequestedAt = u.completionRequestedAt ∧
      u'.completionReason = some .partsReady ∧ u'.completionPhase = some phase := by
    subst hu'
    exact ⟨hstate, rfl, hfacts.reason hstate, rfl⟩
  have hattempted : u'.completionAttemptedAt = none := by
    subst hu'
    exact hfacts.attempted
  obtain ⟨hid, hblob, hversion, hstrategy, ⟨hgeneration, hsize, hcount, hschema, hsha⟩,
    hprovider⟩ := hplan
  obtain ⟨hstate', hrequested', hreason', hphase'⟩ := hwork
  have hedge := phaseEdge_refuted_iff hcurrent hphase' hreason' hattempted
  have hrequested := hfacts.requested hstate
  have hreason := hfacts.reason hstate
  clear hu'
  rw [satisfied_append]
  simp only [hconstraints, and_true]
  simp [guardUploadSession, hmultipart, guardMultipartSession, hstate, hreason, hcurrent, hedge,
    hid, hblob, hversion, hstrategy, hgeneration, hsize, hcount, hschema, hsha, hprovider,
    hstate', hrequested', hreason', hphase', hrequested, hresolved]
  by_cases hsame : current = phase
  · simp [hsame]
  · simp [hsame, Ne.symm hsame]

/-- COMPLETING work whose stored phase and whose parts a reachable registry knows. -/
theorem work_of_claim {sessionId ownerId : UUID} {epoch : Nat} {t : Timestamp}
    (h : store.Reachable r) (ht : r.now ≤ t)
    (hclaim : HoldsCompletion r.db sessionId ownerId epoch t) :
    ∃ u, r.db.sessions.get? sessionId = some u ∧ u.strategy = .multipart ∧
      u.state = .completing ∧ ¬HasUnresolvedPart r.db u.id := by
  obtain ⟨l, hl, _, _, hlive⟩ := hclaim
  obtain ⟨u, hu, hmultipart, hok⟩ := (owned_of_reachable h).completion _ l hl
  have hstate : u.state = .completing := hok (lt_of_le_of_lt ht hlive)
  refine ⟨u, hu, hmultipart, hstate, ?_⟩
  intro hunresolved
  obtain ⟨p, hp, hpu, hpending⟩ := hunresolved
  have hfinishing : u.state.isFinishing = true := by
    rw [hstate]
    rfl
  exact hpending (allVerified_of_reachable h u (Relation.mem_of_get? hu) hfinishing p hp hpu)

/-- A current claim moves its phase exactly along the edges the session trigger admits. -/
theorem transact_setCompletionPhase_iff {claim : CompletionClaim} {current phase : CompletionPhase}
    {f₁ f₂ f₃ : Bool} (h : store.Reachable r)
    (hclaim : HoldsCompletion r.db claim.sessionId claim.lease.leaseOwnerId
      claim.lease.leaseEpoch (r.now + env.ticks.headD 0))
    (hcurrent : completionPhaseOf r.db claim.sessionId = some current)
    (haccepts : requireCompletionPhaseTransition current phase f₁ f₂ f₃ = .ok phase) :
    (transact (setCompletionPhase claim phase f₁ f₂ f₃) env r).1 = .ok () ↔
      current = phase ∨ (current, phase) ∈ admittedPhaseEdges := by
  have hlawful := (committed_of_reachable h).lawful
  obtain ⟨u, hu, hmultipart, hstate, hresolved⟩ := work_of_claim h (Nat.le_add_right _ _) hclaim
  have hid : u.id = claim.sessionId := Relation.key_of_get? hu
  have hu' : r.db.sessions.get? u.id = some u := hid ▸ hu
  have hphase : u.completionPhase = some current := by
    rw [completionPhaseOf, hu] at hcurrent
    exact hcurrent
  have hfacts := completionFacts_of_reachable h u (Relation.mem_of_get? hu)
  have hrules : ∀ activityAt, Satisfied
      (guardUploadSession r.db u
          { u with completionPhase := some phase, lastActivityAt := activityAt } ++
        sessionConstraints r.db
          { u with completionPhase := some phase, lastActivityAt := activityAt }) ↔
      current = phase ∨ (current, phase) ∈ admittedPhaseEdges := fun _ =>
    sessionRules_of_phase hlawful hu' hmultipart hstate hfacts hresolved hphase rfl
  constructor
  · intro hok
    obtain ⟨s, hrun, _⟩ := returned_of_transact hok
    simp only [setCompletionPhase, run_fetch_bind_ok, Option.filter_eq_some_iff, decide_eq_true_eq,
      run_ofExcept_bind_ok, run_clockTimestamp_bind, run_select_bind, run_require_bind_ok,
      run_perform_ok] at hrun
    obtain ⟨x, ⟨hx, _⟩, _, _, _, _, _, hw⟩ := hrun
    have hxu : x = u := Option.some.inj (hx.symm.trans hu)
    subst hxu
    obtain ⟨old, hold, hsatisfied, _⟩ := exec_updateSession_ok.mp hw
    have hsame : old = x := Option.some.inj (hold.symm.trans hu')
    subst hsame
    exact (hrules _).mp hsatisfied
  · intro hedge
    obtain ⟨b, hb⟩ := hlawful.session_blob.get (Relation.mem_of_get? hu)
    have huploading : b.state = .uploading := by
      have hfits := (coupled_of_reachable h).fits u (Relation.mem_of_get? hu) b hb
      rw [hstate] at hfits
      exact hfits
    have hreturns : ∃ a db, transact (setCompletionPhase claim phase f₁ f₂ f₃) env r =
        (.ok a, ⟨db, r.later env⟩) ∧ True := by
      refine transact_of_ends ?_
      simp only [setCompletionPhase, ends_bind, ends_fetch, Option.filter_eq_some_iff,
        decide_eq_true_eq, ends_ofExcept, ends_clockTimestamp, ends_select, ends_require,
        ends_perform]
      refine ⟨u, ⟨hu, hstate⟩, current, hphase, phase, haccepts, hclaim, _,
        exec_updateSession_ok.mpr ⟨u, hu', (hrules _).mpr hedge, rfl⟩, trivial, ?_⟩
      have hactive : u.state.isActive = true := by
        rw [hstate]
        rfl
      intro t ht clock hclock
      have htouched : t = .session u.blobId := by simpa using ht
      have hnow : r.now ≤ clock :=
        ((elapses_ticked _).trans (elapses_ticked _)).now_le.trans hclock
      rw [htouched]
      refine publication_of_active h hu' hactive rfl hactive rfl hb ?_ ?_ hnow
      · rw [huploading]
        simp
      · rw [huploading]
        simp
    obtain ⟨a, db, hcall, _⟩ := hreturns
    rw [hcall]

end RoboLake
