import RoboLake.Registry.Flushes
import RoboLake.Registry.Phases

/-! # What the operations decide about a write

The triggers admit more than the domain does: reopened completion work, reset parts
and phases that move back. Which program writes such a row is read off the programs,
each of which updates the row it has fetched.
-/

namespace RoboLake

open Foundation Work Store

/-! ## Marked writes -/

def Operation.isAcceptance [Platform] : Operation → Bool
  | .acceptCompletion _ _ _ _ => true
  | _ => false

def Operation.isRecovery [Platform] : Operation → Bool
  | .recoverPartialCompletion _ _ => true
  | _ => false

def Operation.isReconciliation [Platform] : Operation → Bool
  | .reconcileParts _ _ _ _ _ => true
  | .recoverPartialCompletion _ _ => true
  | _ => false

variable [Platform]

/-- One step of the stored phase: acceptance begins it, recovery drops it, and in between it moves
by the guard that `set_completion_phase` calls with its evidence. -/
inductive PhaseStep (op : Operation) : Option CompletionPhase → Option CompletionPhase → Prop
  | kept (phase : Option CompletionPhase) : PhaseStep op phase phase
  | begun (hop : op.isAcceptance = true) : PhaseStep op none (some .pending)
  | dropped (phase : Option CompletionPhase) (hop : op.isRecovery = true) : PhaseStep op phase none
  | moved {claim : CompletionClaim} {current target : CompletionPhase} {f₁ f₂ f₃ : Bool}
      (hop : op = .setCompletionPhase claim target f₁ f₂ f₃)
      (h : requireCompletionPhaseTransition current target f₁ f₂ f₃ = .ok target) :
      PhaseStep op (some current) (some target)

/-- Only a recovery reopens completion work, and the phase takes one step. -/
def SessionFlush (op : Operation) (old new : UploadSessionModel) : Prop :=
  (old.state = .completing → new.state = .inProgress → op.isRecovery = true) ∧
    PhaseStep op old.completionPhase new.completionPhase

/-- Only a reconciliation resets a part. -/
def PartFlush (op : Operation) (old new : UploadPartModel) : Prop :=
  old.state ≠ .pending → new.state = .pending → op.isReconciliation = true

/-- What the program of an operation decides about a write. -/
def Marked (op : Operation) (s : TxState) : Write → Prop
  | .updateSession row => ∀ old, s.db.sessions.get? row.id = some old → SessionFlush op old row
  | .updatePart row => ∀ old, s.db.parts.get? (key row) = some old → PartFlush op old row
  | _ => True

section Rules

variable {op : Operation} {α : Type} {P : TxState → Write → Prop} {s : TxState}
  {f : Unit → Tx α}

theorem marked_of_quiet {w : Write} (h : w.IsQuiet) : Marked op s w := by
  cases w with
  | updateSession row => cases h
  | updatePart row => cases h
  | _ => trivial

theorem issues_of_quiet {p : Tx α} (h : Quiet p) : Issues (Marked op) p s :=
  (h s).mono fun _ _ => marked_of_quiet

theorem marked_session {k : UUID} {u row : UploadSessionModel}
    (hu : s.db.sessions.get? k = some u) (hid : row.id = u.id) (h : SessionFlush op u row) :
    Marked op s (.updateSession row) := by
  intro old hold
  have hk : u.id = k := Relation.key_of_get? hu
  rw [hid, hk, hu] at hold
  cases hold
  exact h

theorem issues_flushSession_bind {row : UploadSessionModel} (hP : P s (.updateSession row))
    (hf : ∀ s', s'.db.sessions = s.db.sessions.replace row → s'.db.parts = s.db.parts →
      Issues P (f ()) s') : Issues P (flushSession row >>= f) s := by
  rw [flushSession, issues_flush_bind]
  constructor
  · intro hrow
    exact hf s (Relation.replace_of_get? hrow).symm rfl
  · intro _ s' hw
    obtain ⟨_, _, _, rfl⟩ := exec_updateSession_ok.mp hw
    exact ⟨hP, hf _ rfl rfl⟩

theorem issues_flushBlob_bind {row : BlobModel} (hP : P s (.updateBlob row))
    (hf : ∀ s', s'.db.sessions = s.db.sessions → Issues P (f ()) s') :
    Issues P (flushBlob row >>= f) s := by
  rw [flushBlob, issues_flush_bind]
  constructor
  · intro _
    exact hf s rfl
  · intro _ s' hw
    obtain ⟨_, _, _, rfl⟩ := exec_updateBlob_ok.mp hw
    exact ⟨hP, hf _ rfl⟩

theorem issues_flushVersion_bind {row : DatasetVersionModel} (hP : P s (.updateVersion row))
    (hf : ∀ s', s'.db.sessions = s.db.sessions → Issues P (f ()) s') :
    Issues P (flushVersion row >>= f) s := by
  rw [flushVersion, issues_flush_bind]
  constructor
  · intro _
    exact hf s rfl
  · intro _ s' hw
    obtain ⟨_, _, _, rfl⟩ := exec_updateVersion_ok.mp hw
    exact ⟨hP, hf _ rfl⟩

theorem issues_lockUpload_bind {sessionId : UUID}
    {g : UploadSessionModel × BlobModel × DatasetVersionModel → Tx α} :
    Issues P (lockUpload sessionId >>= g) s ↔
      ∀ upload, s.db.sessions.get? sessionId = some upload → upload.strategy = .singlePut →
        ∀ blob, s.db.blobs.get? upload.blobId = some blob →
          ∀ version, s.db.versions.get? upload.initiatingVersionId = some version →
            Issues P (g (upload, blob, version)) s := by
  unfold lockUpload
  simp only [Work.bind_assoc, issues_fetch_bind, issues_ofExcept_bind, requireSinglePutSession_ok,
    issues_pure_bind, forall_const]

theorem issues_fetchAdmitted_bind {sessionId ownerId : UUID} {epoch : Nat} {state : SessionState}
    {e : Failure} {g : UploadSessionModel → Tx α} :
    Issues P (fetchAdmitted sessionId ownerId epoch state e >>= g) s ↔ P s .tick ∧
      ∀ upload, s.db.sessions.get? sessionId = some upload → upload.state = state →
        HoldsAdmission s.db sessionId ownerId epoch s.ticked.now →
          Issues P (g upload) s.ticked := by
  unfold fetchAdmitted
  simp only [Work.bind_assoc, issues_clockTimestamp_bind, issues_fetch_bind,
    Option.filter_eq_some_iff, decide_eq_true_eq, and_imp]
  rfl

theorem issues_flushPart {row : UploadPartModel} (hP : ∀ s, P s (.updatePart row)) :
    Issues P (flushPart row) s := by
  rw [flushPart, flush, issues_inspect]
  split
  · exact issues_done
  · rw [issues_perform]
    exact fun _ _ => hP s

theorem marked_ended {k : UUID} {u row : UploadSessionModel} (hu : s.db.sessions.get? k = some u)
    (hid : row.id = u.id) (hstate : row.state ≠ .inProgress)
    (hphase : row.completionPhase = u.completionPhase) : Marked op s (.updateSession row) := by
  refine marked_session hu hid ⟨fun _ hopen => absurd hopen hstate, ?_⟩
  rw [hphase]
  exact .kept _

end Rules

/-! ## Single-PUT operations -/

theorem issues_markUploadInProgress (sessionId : UUID) (s : TxState) :
    Issues (Marked (.markUploadInProgress sessionId)) (markUploadInProgress sessionId) s := by
  unfold markUploadInProgress
  rw [issues_lockUpload_bind]
  intro upload hu _ blob _ version _
  simp only
  split
  · rename_i hcreated
    rw [issues_utcNow_bind]
    refine ⟨trivial, issues_flushBlob_bind trivial fun s₁ h₁ => ?_⟩
    refine issues_flushVersion_bind trivial fun s₂ h₂ => ?_
    refine issues_flushSession_bind ?_ fun _ _ _ => ?_
    · refine marked_session (u := upload) (k := sessionId) ?_ rfl ⟨?_, .kept _⟩
      · rw [h₂, h₁]
        exact hu
      · intro hcompleting
        rw [hcreated] at hcompleting
        cases hcompleting
    · simp [fetchDataset]
  · simp [fetchDataset]

theorem issues_markUploadVerified (sessionId : UUID) (etag : Option String) (s : TxState) :
    Issues (Marked (.markUploadVerified sessionId etag)) (markUploadVerified sessionId etag) s := by
  unfold markUploadVerified
  rw [issues_lockUpload_bind]
  intro upload hu _ blob _ version _
  simp only
  split
  · simp [fetchDataset]
  · simp only [issues_require_bind, issues_utcNow_bind]
    intro _ _
    refine ⟨trivial, issues_flushBlob_bind trivial fun s₁ h₁ => ?_⟩
    refine issues_flushBlob_bind trivial fun s₂ h₂ => ?_
    refine issues_flushSession_bind ?_ fun _ _ _ => ?_
    · refine marked_ended (u := upload) (k := sessionId) ?_ rfl nofun rfl
      rw [h₂, h₁]
      exact hu
    · simp [fetchDataset]

theorem issues_markUploadFailed (sessionId : UUID) (code : FailureCode) (detail : String)
    (s : TxState) :
    Issues (Marked (.markUploadFailed sessionId code detail))
      (markUploadFailed sessionId code detail) s := by
  unfold markUploadFailed
  rw [issues_lockUpload_bind]
  intro upload hu _ blob _ version _
  simp only
  split
  · simp [fetchDataset]
  · simp only [issues_require_bind, issues_utcNow_bind]
    intro _
    refine ⟨trivial, issues_flushBlob_bind trivial fun s₁ h₁ => ?_⟩
    refine issues_flushVersion_bind trivial fun s₂ h₂ => ?_
    refine issues_flushBlob_bind trivial fun s₃ h₃ => ?_
    refine issues_flushVersion_bind trivial fun s₄ h₄ => ?_
    refine issues_flushSession_bind ?_ fun _ _ _ => ?_
    · refine marked_ended (u := upload) (k := sessionId) ?_ rfl nofun rfl
      rw [h₄, h₃, h₂, h₁]
      exact hu
    · simp [fetchDataset]

/-! ## Initiation and parts -/

theorem issues_beginProviderInitiation (sessionId ownerId : UUID) (epoch : Nat) (s : TxState) :
    Issues (Marked (.beginProviderInitiation sessionId ownerId epoch))
      (beginProviderInitiation sessionId ownerId epoch) s := by
  unfold beginProviderInitiation
  simp only [issues_fetchAdmitted_bind, issues_clockTimestamp_bind, issues_perform]
  refine ⟨trivial, fun upload hu _ _ => ⟨trivial, trivial, fun _ _ => ?_⟩⟩
  exact marked_ended (k := sessionId) hu rfl (by intro hopen; cases hopen) rfl

theorem issues_recordProviderUpload (sessionId ownerId : UUID) (epoch : Nat)
    (providerUploadId : String) (s : TxState) :
    Issues (Marked (.recordProviderUpload sessionId ownerId epoch providerUploadId))
      (recordProviderUpload sessionId ownerId epoch providerUploadId) s := by
  unfold recordProviderUpload
  simp only [issues_require_bind, issues_fetchAdmitted_bind, issues_clockTimestamp_bind,
    issues_perform_bind, issues_fetch_bind]
  refine fun _ => ⟨trivial, fun upload hu hstate _ => ⟨trivial, fun s₁ _ => ⟨?_, ?_⟩⟩⟩
  · refine marked_session (k := sessionId) hu rfl ⟨?_, .kept _⟩
    intro hcompleting
    rw [hstate] at hcompleting
    cases hcompleting
  · intro blob _
    split
    · exact issues_of_quiet (quiet_flushBlob _)
    · exact issues_require

theorem issues_markMultipartInitiationAmbiguous (sessionId ownerId : UUID) (epoch : Nat)
    (s : TxState) :
    Issues (Marked (.markMultipartInitiationAmbiguous sessionId ownerId epoch))
      (markMultipartInitiationAmbiguous sessionId ownerId epoch) s := by
  unfold markMultipartInitiationAmbiguous endAdmission
  simp only [issues_fetchAdmitted_bind, issues_clockTimestamp_bind, issues_perform_bind,
    issues_fetch_bind, issues_perform]
  refine ⟨trivial, fun upload hu _ _ => ⟨trivial, trivial, trivial, fun s₁ _ => ⟨?_, ?_⟩⟩⟩
  · exact marked_ended (k := sessionId) hu rfl (by intro hopen; cases hopen) rfl
  · exact fun lease _ => ⟨trivial, trivial, fun _ _ => trivial⟩

theorem issues_recordUploadedPart (sessionId ownerId : UUID) (epoch : Nat)
    (receipt : CompletedPartReceipt) (s : TxState) :
    Issues (Marked (.recordUploadedPart sessionId ownerId epoch receipt))
      (recordUploadedPart sessionId ownerId epoch receipt) s := by
  unfold recordUploadedPart
  simp only [issues_fetchAdmitted_bind, issues_clockTimestamp_bind, issues_perform_bind,
    issues_fetch_bind, issues_ofExcept_bind]
  refine ⟨trivial, fun upload hu hstate _ => ⟨trivial, fun s₁ _ => ⟨?_, ?_⟩⟩⟩
  · refine marked_session (k := sessionId) hu rfl ⟨?_, .kept _⟩
    intro hcompleting
    rw [hstate] at hcompleting
    cases hcompleting
  · intro part _ _ _ record _
    split
    · simp
    · rw [issues_clockTimestamp_bind, issues_bind]
      refine ⟨trivial, issues_flushPart fun _ _ _ _ hreset => ?_, fun _ _ _ => issues_ofExcept⟩
      cases hreset

theorem issues_reconcileParts (sessionId ownerId : UUID) (epoch : Nat)
    (providerParts : List ProviderPartObservation) (attribution : PartAttribution) (s : TxState) :
    Issues (Marked (.reconcileParts sessionId ownerId epoch providerParts attribution))
      (reconcileParts sessionId ownerId epoch providerParts attribution) s := by
  have hpart : ∀ row s, Marked (.reconcileParts sessionId ownerId epoch providerParts attribution)
      s (.updatePart row) := fun _ _ _ _ _ _ => rfl
  unfold reconcileParts
  simp only [issues_require_bind, issues_fetchAdmitted_bind, issues_clockTimestamp_bind,
    issues_perform_bind, issues_select_bind]
  refine fun _ => ⟨trivial, fun upload hu hstate _ => ⟨trivial, trivial, fun s₁ _ => ⟨?_, ?_⟩⟩⟩
  · refine marked_session (k := sessionId) hu rfl ⟨?_, .kept _⟩
    intro hcompleting
    rw [hstate] at hcompleting
    cases hcompleting
  · intro _
    refine ⟨trivial, ?_⟩
    rw [issues_bind]
    refine ⟨issues_forEach fun part _ => issues_flushPart (hpart _), fun _ s₂ _ => ?_⟩
    rw [issues_bind]
    exact ⟨issues_forEach fun part _ => issues_flushPart (hpart _), fun _ _ _ => issues_pure⟩

/-! ## Completion -/

theorem issues_acceptCompletion {sessionId : UUID} {s : TxState}
    (hphase : ∀ u, s.db.sessions.get? sessionId = some u → u.state = .inProgress →
      u.completionPhase = none) (ownerId : UUID) (epoch : Nat) (requestId : UUID) :
    Issues (Marked (.acceptCompletion sessionId ownerId epoch requestId))
      (acceptCompletion sessionId ownerId epoch requestId) s := by
  unfold acceptCompletion
  rw [issues_select_bind]
  cases s.db.idempotency.get? (.multipartCompletionAccept, String.ofList requestId.str) with
  | some replay => simp
  | none =>
      simp only [issues_fetch_bind, issues_clockTimestamp_bind, issues_select_bind,
        issues_require_bind, Option.filter_eq_some_iff]
      refine fun upload hu => ⟨trivial, fun lease _ hopen => ⟨trivial, ?_⟩⟩
      refine issues_flushSession_bind ?_ fun s₁ _ _ => ?_
      · refine marked_session (k := sessionId) hu.1 rfl ⟨?_, ?_⟩
        · intro _ hreopened
          cases hreopened
        · rw [hphase upload hu.1 hopen.1]
          exact .begun rfl
      · apply issues_of_quiet
        apply quiet_bind (quiet_flushAdmissionLease _)
        intro _ s₂
        simp [Write.IsQuiet]

theorem issues_setCompletionPhase (claim : CompletionClaim) (phase : CompletionPhase)
    (f₁ f₂ f₃ : Bool) (s : TxState) :
    Issues (Marked (.setCompletionPhase claim phase f₁ f₂ f₃))
      (setCompletionPhase claim phase f₁ f₂ f₃) s := by
  unfold setCompletionPhase
  simp only [issues_fetch_bind, issues_ofExcept_bind, issues_clockTimestamp_bind,
    issues_select_bind, issues_require_bind, issues_perform, Option.filter_eq_some_iff,
    decide_eq_true_eq]
  intro upload hu current hcurrent target htarget
  refine ⟨trivial, fun _ => ⟨trivial, fun _ _ => ?_⟩⟩
  refine marked_session (k := claim.sessionId) hu.1 rfl ⟨?_, ?_⟩
  · intro _ hopen
    have hstate : upload.state = .inProgress := hopen
    rw [hu.2] at hstate
    cases hstate
  · have hsame : target = phase := (requireCompletionPhaseTransition_ok.mp htarget).1
    rw [hsame] at htarget
    rw [hcurrent]
    exact .moved rfl htarget

theorem issues_recoverParts {claim : CompletionClaim} {evidence : PartialCompletionEvidence}
    {upload : UploadSessionModel} {s : TxState} {k : UUID} (hu : s.db.sessions.get? k = some upload)
    (lease : MultipartCompletionLeaseModel) (parts : List UploadPartModel) (now : Timestamp) :
    Issues (Marked (.recoverPartialCompletion claim evidence))
      (recoverParts upload lease parts evidence now) s := by
  have hpart : ∀ row s, Marked (.recoverPartialCompletion claim evidence) s (.updatePart row) :=
    fun _ _ _ _ _ _ => rfl
  have hloops : ∀ s, Issues (Marked (.recoverPartialCompletion claim evidence))
      (reconcileRecovered parts evidence) s := by
    intro s
    unfold reconcileRecovered
    rw [issues_bind]
    refine ⟨issues_forEach fun part _ => issues_flushPart (hpart _), fun _ s₂ _ => ?_⟩
    rw [issues_bind]
    exact ⟨issues_forEach fun part _ => issues_flushPart (hpart _), fun _ _ _ => issues_pure⟩
  unfold recoverParts
  refine issues_flushSession_bind (marked_session hu rfl ⟨fun _ _ => rfl, .kept _⟩) ?_
  intro s₁ _ _
  rw [issues_bind]
  refine ⟨hloops s₁, fun allPartsVerified s₂ _ => ?_⟩
  split
  · rw [issues_require_bind]
    intro _
    exact issues_of_quiet (quiet_bind (quiet_loadMultipartContext _) fun _ _ => issues_pure)
  · simp only [issues_require_bind]
    intro _ _
    refine issues_flushSession_bind ?_ fun s₃ _ _ => ?_
    · exact fun _ _ => ⟨fun _ _ => rfl, .dropped _ rfl⟩
    · exact issues_of_quiet (quiet_bind (quiet_flushCompletionLease _) fun _ =>
        quiet_bind (quiet_loadMultipartContext _) fun _ _ => issues_pure)

theorem issues_recoverPartialCompletion (claim : CompletionClaim)
    (evidence : PartialCompletionEvidence) (s : TxState) :
    Issues (Marked (.recoverPartialCompletion claim evidence))
      (recoverPartialCompletion claim evidence) s := by
  unfold recoverPartialCompletion
  simp only [issues_require_bind, issues_clockTimestamp_bind, issues_fetch_bind,
    issues_select_bind, Option.filter_eq_some_iff]
  refine fun _ => ⟨trivial, ?_⟩
  rintro ⟨upload, lease⟩ ⟨hwork, _⟩
  obtain ⟨hu, _⟩ := claimedWork_eq_some hwork
  simp only
  intro _
  split
  · exact issues_recoverParts (s := s.ticked) hu lease _ _
  · unfold invalidateAttempt
    refine issues_flushSession_bind
      (marked_ended hu rfl (by intro hopen; cases hopen) rfl) fun s₁ _ _ => ?_
    exact issues_of_quiet (quiet_bind (quiet_flushCompletionLease _) fun _ =>
      quiet_bind (quiet_loadMultipartContext _) fun _ _ => issues_pure)

theorem issues_recordVerifiedCompletion (claim : CompletionClaim) (evidence : VerificationEvidence)
    (s : TxState) :
    Issues (Marked (.recordVerifiedCompletion claim evidence))
      (recordVerifiedCompletion claim evidence) s := by
  unfold recordVerifiedCompletion
  simp only [issues_clockTimestamp_bind, issues_fetch_bind, issues_require_bind,
    issues_ofExcept_bind, db_ticked]
  refine ⟨trivial, ?_⟩
  rintro ⟨upload, lease⟩ hwork _ blob _ _ _ _
  obtain ⟨hu, hcompleting, _⟩ := claimedWork_eq_some hwork
  refine issues_flushSession_bind ?_ fun s₁ h₁ _ => ?_
  · refine marked_session hu rfl ⟨?_, .kept _⟩
    intro _ hopen
    have hstate : upload.state = .inProgress := hopen
    rw [hcompleting] at hstate
    cases hstate
  · refine issues_flushBlob_bind trivial fun s₂ h₂ => ?_
    refine issues_flushBlob_bind trivial fun s₃ h₃ => ?_
    refine issues_flushSession_bind ?_ fun s₄ _ _ => ?_
    · have hkey : s.db.sessions.get? upload.id = some upload := Relation.get?_key hu
      have hself : (s.db.sessions.replace (withEvidence upload evidence)).get? upload.id =
          some (withEvidence upload evidence) :=
        Relation.get?_replace_self (r := withEvidence upload evidence) hkey
      refine marked_ended (u := withEvidence upload evidence) (k := upload.id) ?_ rfl ?_ rfl
      · rw [h₃, h₂, h₁]
        exact hself
      · intro hopen
        cases hopen
    · exact issues_of_quiet (quiet_bind (quiet_flushCompletionLease _) fun _ =>
        quiet_loadMultipartContext _)

end RoboLake
