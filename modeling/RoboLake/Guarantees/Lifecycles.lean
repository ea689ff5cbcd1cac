import RoboLake.Registry.Transitions

/-! # The store refines the domain lifecycles

No operation but `set_completion_phase` calls a domain guard. Each program assigns
states by itself and a trigger checks every flush. Still every flush of a committed
operation is a step of the domain and of the trigger at once.
-/

namespace RoboLake

open Foundation Work Store Migrations

variable [Platform]

/-! ## Steps of the rows -/

/-- A step of a Version that its guard and its trigger accept. -/
structure VersionStep (db : Database) (old new : DatasetVersionModel) : Prop where
  guard : requireVersionTransition old.state new.state = .ok new.state
  trigger : Satisfied (guardDatasetVersion db old new)

structure BlobStep (old new : BlobModel) : Prop where
  guard : requireBlobTransition old.state new.state = .ok new.state
  trigger : Satisfied (guardBlob old new)

/-- A step of an upload session that the guards of its strategy and of its phase and its trigger
accept. The multipart guard is told of guarded recovery by the recovery alone. -/
structure SessionStep (op : Operation) (db : Database) (old new : UploadSessionModel) : Prop where
  strategy : new.strategy = old.strategy
  singlePut : old.strategy = .singlePut → SinglePutState old.state ∧ SinglePutState new.state ∧
    requireSessionTransition old.state new.state = .ok new.state
  multipart : old.strategy = .multipart →
    requireMultipartSessionTransition old.state new.state op.isRecovery = .ok new.state
  phase : PhaseStep op old.completionPhase new.completionPhase
  trigger : Satisfied (guardUploadSession db old new)

/-- A step of a part that its guard and its trigger accept. The guard is told of a reconciled
provider by reconciliation and recovery alone. -/
structure PartStep (op : Operation) (db : Database) (old new : UploadPartModel) : Prop where
  guard : requireUploadPartTransition old.state new.state op.isReconciliation = .ok new.state
  trigger : Satisfied (guardUpdatePart db old new)

/-- Every change of a stored row is an accepted step of that row. -/
def Accepted (op : Operation) (s : TxState) : Write → Prop
  | .updateVersion row => ∃ old, s.db.versions.get? row.id = some old ∧ VersionStep s.db old row
  | .updateBlob row => ∃ old, s.db.blobs.get? row.id = some old ∧ BlobStep old row
  | .updateSession row =>
      ∃ old, s.db.sessions.get? row.id = some old ∧ SessionStep op s.db old row
  | .updatePart row => ∃ old, s.db.parts.get? (key row) = some old ∧ PartStep op s.db old row
  | _ => True

/-! ## What the triggers accept -/

section Triggers

variable {db : Database}

theorem versionStep_of_trigger {old new : DatasetVersionModel}
    (h : Satisfied (guardDatasetVersion db old new)) : VersionStep db old new := by
  refine ⟨?_, h⟩
  have hedge : new.state ≠ old.state → (old.state, new.state) ∈ versionEdges := by
    simp only [guardDatasetVersion, satisfied_append, satisfied_cons, Rule.violated_raiseIf,
      Ternary.holds_of, satisfied_nil, and_true] at h
    simpa using h.2
  rw [requireVersionTransition, requireEdge_ok]
  refine ⟨rfl, ?_⟩
  by_cases hsame : new.state = old.state
  · exact Or.inl hsame.symm
  · exact Or.inr (Or.inl (hedge hsame))

omit [Platform] in
theorem blobStep_of_trigger {old new : BlobModel} (h : Satisfied (guardBlob old new)) :
    BlobStep old new := by
  refine ⟨?_, h⟩
  have hedge : new.state ≠ old.state → (old.state, new.state) ∈ blobEdges := by
    simp only [guardBlob, satisfied_cons, Rule.violated_raiseIf, Ternary.holds_of, satisfied_nil,
      and_true] at h
    simpa using h.2.2
  rw [requireBlobTransition, requireEdge_ok]
  refine ⟨rfl, ?_⟩
  by_cases hsame : new.state = old.state
  · exact Or.inl hsame.symm
  · exact Or.inr (Or.inl (hedge hsame))

omit [Platform] in
/-- The trigger's edges are those of the guard and the reopening of completion work. -/
theorem multipartEdges_subset : ∀ e ∈ multipartEdges,
    e = (.completing, .inProgress) ∨ e ∈ SessionState.multipartEdges := by
  decide

omit [Platform] in
theorem partEdges_subset : ∀ e ∈ partEdges,
    (e.1 = .uploaded ∨ e.1 = .verified) ∧ e.2 = .pending ∨ e ∈ UploadPartState.edges := by
  decide

theorem multipartGuard_of_trigger {op : Operation} {old new : UploadSessionModel}
    (h : Satisfied (guardUploadSession db old new)) (hm : old.strategy = .multipart)
    (hreopen : old.state = .completing → new.state = .inProgress → op.isRecovery = true) :
    requireMultipartSessionTransition old.state new.state op.isRecovery = .ok new.state := by
  have hedge : new.state ≠ old.state → (old.state, new.state) ∈ multipartEdges := by
    simp only [guardUploadSession, satisfied_cons, hm, reduceCtorEq, if_false,
      guardMultipartSession, satisfied_append, Rule.violated_raiseIf, Ternary.holds_of] at h
    obtain ⟨_, ⟨⟨⟨⟨_, _, _, _, hstate, _⟩, _⟩, _⟩, _⟩, _⟩ := h
    simpa using hstate
  rw [requireMultipartSessionTransition, requireEdge_ok]
  refine ⟨rfl, ?_⟩
  by_cases hsame : new.state = old.state
  · exact Or.inl hsame.symm
  · right
    rcases multipartEdges_subset _ (hedge hsame) with hopen | hlisted
    · obtain ⟨hcompleting, hopen⟩ := Prod.mk.inj hopen
      simp [hreopen hcompleting hopen, hcompleting, hopen]
    · exact Or.inl hlisted

theorem partStep_of_trigger {op : Operation} {old new : UploadPartModel}
    (h : Satisfied (guardUpdatePart db old new)) (hflush : PartFlush op old new) :
    PartStep op db old new := by
  refine ⟨?_, h⟩
  have hedge : new.state ≠ old.state → (old.state, new.state) ∈ partEdges := by
    simp only [guardUpdatePart, satisfied_cons, Rule.violated_raiseIf, Ternary.holds_of] at h
    tauto
  rw [requireUploadPartTransition, requireEdge_ok]
  refine ⟨rfl, ?_⟩
  by_cases hsame : new.state = old.state
  · exact Or.inl hsame.symm
  · right
    rcases partEdges_subset _ (hedge hsame) with ⟨hbegun, hreset⟩ | hlisted
    · simp only at hbegun hreset
      have hpending : old.state ≠ .pending := by
        intro hpending
        rw [hpending] at hbegun
        simp at hbegun
      have hreconciled : op.isReconciliation = true := hflush hpending hreset
      simp [hreconciled, hbegun, hreset]
    · exact Or.inl hlisted

theorem sessionStep_of_trigger {op : Operation} {s s' : TxState} {old new : UploadSessionModel}
    (hs : Lawful s.db) (hs' : Lawful s'.db) (hold : old ∈ s.db.sessions.rows)
    (hnew : new ∈ s'.db.sessions.rows) (h : Satisfied (guardUploadSession db old new))
    (hflush : SessionFlush op old new) : SessionStep op db old new := by
  obtain ⟨_, _, hstrategy, hedge⟩ := guardUploadSession_satisfied h
  refine ⟨hstrategy, ?_, fun hm => multipartGuard_of_trigger h hm hflush.1, hflush.2, h⟩
  intro hsingle
  refine ⟨hs.session_single old hold hsingle,
    hs'.session_single new hnew (hstrategy.trans hsingle), ?_⟩
  rw [requireSessionTransition, requireEdge_ok]
  refine ⟨rfl, ?_⟩
  by_cases hsame : new.state = old.state
  · exact Or.inl hsame.symm
  · exact Or.inr (Or.inl (hedge hsingle hsame))

end Triggers

theorem accepted_of_exec {op : Operation} {w : Write} {s s' : TxState}
    (hw : execWrite w s = .ok s') (hs : Lawful s.db) (hmarked : Marked op s w) :
    Accepted op s w := by
  have hs' : Lawful s'.db := lawful_of_exec hw hs
  cases w with
  | updateVersion row =>
      obtain ⟨old, hold, hrules, _⟩ := exec_updateVersion_ok.mp hw
      exact ⟨old, hold, versionStep_of_trigger (satisfied_append.mp hrules).1⟩
  | updateBlob row =>
      obtain ⟨old, hold, hrules, _⟩ := exec_updateBlob_ok.mp hw
      exact ⟨old, hold, blobStep_of_trigger (satisfied_append.mp hrules).1⟩
  | updateSession row =>
      obtain ⟨old, hold, hrules, rfl⟩ := exec_updateSession_ok.mp hw
      have hrow : row ∈ (s.db.sessions.replace row).rows :=
        Relation.mem_of_get? (Relation.get?_replace_self (r := row) hold)
      exact ⟨old, hold, sessionStep_of_trigger hs hs' (Relation.mem_of_get? hold) hrow
        (satisfied_append.mp hrules).1 (hmarked old hold)⟩
  | updatePart row =>
      obtain ⟨old, hold, hrules, _⟩ := exec_updatePart_ok.mp hw
      exact ⟨old, hold, partStep_of_trigger (satisfied_append.mp hrules).1 (hmarked old hold)⟩
  | _ => trivial

/-! ## What a call writes -/

theorem issues_effect {α : Type} {P : TxState → Write → Prop} {s : TxState} {tx : Tx α}
    (h : Issues P tx s) : Issues P (effect tx) s := by
  rw [effect, issues_bind]
  exact ⟨h, fun _ _ _ => issues_pure⟩

variable {r : Registry}

theorem issues_of_call (h : store.Reachable r) (op : Operation) (env : Env) :
    Issues (Marked op) (operationTx op) (beginTx env r) := by
  cases op with
  | createDataset name key sha =>
      exact issues_effect (issues_of_quiet (quiet_createDataset name key sha))
  | registerVersion dataset manifest key sha =>
      exact issues_effect (issues_of_quiet (quiet_registerVersion dataset manifest key sha))
  | resolveVersion name number =>
      exact issues_effect (issues_of_quiet (quiet_resolveVersion name number))
  | getManifest version => exact issues_effect (issues_of_quiet (quiet_getManifest version))
  | getStatus version => exact issues_effect (issues_of_quiet (quiet_getStatus version))
  | getDownloadEntry version ordinal =>
      exact issues_effect (issues_of_quiet (quiet_getDownloadEntry version ordinal))
  | prepareUpload version digest key sha =>
      exact issues_effect (issues_of_quiet (quiet_prepareUpload version digest key sha))
  | getUpload session => exact issues_effect (issues_of_quiet (quiet_getUpload session))
  | markUploadInProgress session => exact issues_effect (issues_markUploadInProgress session _)
  | markUploadVerified session etag =>
      exact issues_effect (issues_markUploadVerified session etag _)
  | markUploadFailed session code detail =>
      exact issues_effect (issues_markUploadFailed session code detail _)
  | restartFailedUpload version blob key sha =>
      exact issues_effect (issues_of_quiet (quiet_restartFailedUpload version blob key sha))
  | finalizeVersion version => exact issues_effect (issues_of_quiet (quiet_finalizeVersion version))
  | createOrResolveMultipart request version blob plan =>
      exact issues_effect
        (issues_of_quiet (quiet_createOrResolveMultipart request version blob plan))
  | getMultipart session => exact issues_effect (issues_of_quiet (quiet_getMultipart session))
  | acquireMultipartLease request invocation session ttl capacity =>
      exact issues_effect
        (issues_of_quiet (quiet_acquireMultipartLease request invocation session ttl capacity))
  | releaseMultipartLease session owner epoch =>
      exact issues_of_quiet (quiet_releaseMultipartLease session owner epoch)
  | beginProviderInitiation session owner epoch =>
      exact issues_beginProviderInitiation session owner epoch _
  | recordProviderUpload session owner epoch provider =>
      exact issues_recordProviderUpload session owner epoch provider _
  | recordUploadedPart session owner epoch receipt =>
      exact issues_effect (issues_recordUploadedPart session owner epoch receipt _)
  | reconcileParts session owner epoch parts attribution =>
      exact issues_effect (issues_reconcileParts session owner epoch parts attribution _)
  | markMultipartInitiationAmbiguous session owner epoch =>
      exact issues_markMultipartInitiationAmbiguous session owner epoch _
  | acceptCompletion session owner epoch request =>
      refine issues_effect (issues_acceptCompletion ?_ owner epoch request)
      intro u hu hopen
      exact phaseUnset_of_reachable h u (Relation.mem_of_get? hu) (Or.inr (Or.inr hopen))
  | claimCompletion owner ttl capacity =>
      exact issues_effect (issues_of_quiet (quiet_claimCompletion owner ttl capacity))
  | renewCompletionLease session owner epoch ttl =>
      exact issues_effect (issues_of_quiet (quiet_renewCompletionLease session owner epoch ttl))
  | setCompletionPhase claim phase final retryable transient =>
      exact issues_setCompletionPhase claim phase final retryable transient _
  | recoverPartialCompletion claim evidence =>
      exact issues_effect (issues_recoverPartialCompletion claim evidence _)
  | recordVerifiedCompletion claim evidence =>
      exact issues_effect (issues_recordVerifiedCompletion claim evidence _)

/-- Every flush of every call is an accepted step. -/
theorem issues_accepted (h : store.Reachable r) (op : Operation) (env : Env) :
    Issues (Accepted op) (operationTx op) (beginTx env r) := by
  have hmarked := issues_of_call h op env
  have hlawful : Issues (fun s w => Marked op s w → Accepted op s w) (operationTx op)
      (beginTx env r) :=
    issues_of_exec (I := fun s => Lawful s.db)
      (fun _ _ _ hw hs => ⟨accepted_of_exec hw hs, lawful_of_exec hw hs⟩) _
      (committed_of_reachable h).lawful
  exact fun e he => hlawful e he (hmarked e he)

/-! ## The refinement -/

/-- A call that commits goes from its registry to the next through its flushes, and each change
of a row in between is a step of the domain guards and of the trigger. -/
theorem commits_lifecycle_steps (h : store.Reachable r) (c : Call)
    (hcommit : (transact (operationTx c.operation) c.env r).1 = .ok ()) :
    ∃ s', Replays Failure (beginTx c.env r) (journal (operationTx c.operation) (beginTx c.env r))
        s' ∧ s'.db = (c.step r).db ∧
      ∀ e ∈ journal (operationTx c.operation) (beginTx c.env r), Accepted c.operation e.1 e.2 := by
  obtain ⟨s', hrun, hnext⟩ := returned_of_transact hcommit
  refine ⟨s', replays_journal hrun, ?_, issues_accepted h c.operation c.env⟩
  have hdb := congrArg Registry.db hnext
  exact hdb.symm

end RoboLake

namespace RoboLake.Sample

open Foundation Work

set_option maxRecDepth 100000 in
/-- The start of a single-PUT attempt after its preparation. -/
theorem sample_start_commits_lifecycle_steps :
    ∃ s', Replays Failure (beginTx (env 8) (store.runFrom store.start (started.take 3)))
        (journal (operationTx (.markUploadInProgress 700))
          (beginTx (env 8) (store.runFrom store.start (started.take 3)))) s' ∧
      s'.db = (store.runFrom store.start started).db ∧
      ∀ e ∈ journal (operationTx (.markUploadInProgress 700))
        (beginTx (env 8) (store.runFrom store.start (started.take 3))),
          Accepted (.markUploadInProgress 700) e.1 e.2 :=
  commits_lifecycle_steps ⟨started.take 3, rfl⟩ ⟨.markUploadInProgress 700, env 8⟩
    (by decide +kernel)

end RoboLake.Sample
