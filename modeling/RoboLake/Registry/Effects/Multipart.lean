import RoboLake.Registry.Effect

/-! # Effects of the multipart upload operations -/

namespace RoboLake

open Foundation Work Store

variable [Platform] {env : Env} {r : Registry} {s : TxState}

/-! ## Fences -/

theorem admitted_of_holds {sessionId ownerId : UUID} {epoch : Nat}
    (h : HoldsAdmission r.db sessionId ownerId epoch (beginTx env r).ticked.now) :
    Admitted env r sessionId ownerId epoch :=
  ⟨_, (elapses_ticked (beginTx env r)).now_le, (elapses_ticked (beginTx env r)).now_le_later, h⟩

theorem run_fetchAdmitted_bind_ok {α : Type} {sessionId ownerId : UUID} {epoch : Nat}
    {state : SessionState} {e : Failure} {f : UploadSessionModel → Tx α} {s' : TxState} {a : α}
    (h : run (fetchAdmitted sessionId ownerId epoch state e >>= f) s = .ok (a, s')) :
    ∃ u, s.db.sessions.get? sessionId = some u ∧ u.state = state ∧
      HoldsAdmission s.db sessionId ownerId epoch s.ticked.now ∧
      run (f u) s.ticked = .ok (a, s') := by
  simp only [fetchAdmitted, Work.bind_assoc, run_clockTimestamp_bind, run_fetch_bind_ok,
    Option.filter_eq_some_iff, decide_eq_true_eq] at h
  obtain ⟨u, ⟨hu, hstate, hholds⟩, h⟩ := h
  exact ⟨u, hu, hstate, hholds, h⟩

/-! ## Sessions -/

theorem run_loadMultipartContext_ok {u : UploadSessionModel} {s' : TxState}
    {a : MultipartUploadContext} (h : run (loadMultipartContext u) s = .ok (a, s')) : s' = s := by
  simp only [loadMultipartContext, run_fetch_bind_ok, run_select_bind, run_ofExcept_ok] at h
  obtain ⟨_, _, _, rfl⟩ := h
  rfl

theorem mem_of_activeSession {db : Database} {blobId : UUID} {u : UploadSessionModel}
    (h : activeSession db blobId = some u) :
    u ∈ db.sessions.rows ∧ u.blobId = blobId ∧ u.state.isActive = true := by
  have hmem := Database.mem_sessionsOf.mp (List.mem_of_find?_eq_some h)
  have hstate := List.find?_some h
  exact ⟨hmem.1, hmem.2, by simpa using hstate⟩

theorem inactive_of_activeSession {db : Database} {blobId : UUID}
    (h : activeSession db blobId = none) :
    ∀ u ∈ db.sessions.rows, u.blobId = blobId → u.state.isActive = false := by
  intro u hu hub
  have hnone := List.find?_eq_none.mp h u (Database.mem_sessionsOf.mpr ⟨hu, hub⟩)
  simpa using hnone

/-- The tables while the parts of a plan are inserted. -/
structure Planning (base : Database) (sessionId : UUID) (planned rest : List PartDefinition)
    (db : Database) : Prop where
  frame : db = { base with parts := db.parts }
  rows : ∃ done, planned = done ++ rest ∧
    db.parts.rows = base.parts.rows ++ done.map (pendingPart sessionId)

theorem planning_step {base : Database} {sessionId : UUID} {planned rest : List PartDefinition}
    {part : PartDefinition} {s' : TxState} {u : Unit}
    (hinv : Planning base sessionId planned (part :: rest) s.db)
    (h : run (perform (.insertPart (pendingPart sessionId part)) : Tx Unit) s = .ok (u, s')) :
    Planning base sessionId planned rest s'.db := by
  obtain ⟨hframe, done, hplanned, hrows⟩ := hinv
  obtain ⟨_, hfree, rfl⟩ := exec_insertPart_ok.mp (run_perform_ok.mp h)
  refine ⟨?_, done ++ [part], ?_, ?_⟩
  · simp only
    rw [hframe]
  · rw [hplanned, List.append_assoc]
    rfl
  · simp only
    rw [Relation.rows_insert hfree, hrows, List.map_append, List.append_assoc]
    rfl

theorem run_insertParts {sessionId : UUID} {planned : List PartDefinition} {s' : TxState} {u : Unit}
    (h : run (forEach planned fun part =>
      perform (.insertPart (pendingPart sessionId part)) : Tx Unit) s = .ok (u, s')) :
    Planning s.db sessionId planned [] s'.db := by
  have hstart : Planning s.db sessionId planned planned s.db := ⟨rfl, [], rfl, by simp⟩
  exact run_forEach (J := fun rest s₁ => Planning s.db sessionId planned rest s₁.db)
    (fun _ _ _ _ => planning_step) hstart h

theorem run_createMultipart_bind_ok {α : Type} {versionId blobId : UUID}
    {plan : HashedMultipartPlan} {f : UploadSessionModel → Tx α} {s' : TxState} {a : α}
    (h : run (createMultipart versionId blobId plan >>= f) s = .ok (a, s')) :
    ∃ u s₁ now,
      u = plannedSession (s.uuids 0) blobId versionId (nextGeneration s.db blobId) plan now ∧
      run (f u) s₁ = .ok (a, s') ∧ s.db.sessions.get? (s.uuids 0) = none ∧
      s₁.db = { s.db with sessions := s.db.sessions.insert u, parts := s₁.db.parts } ∧
      s₁.db.parts.rows = s.db.parts.rows ++ plan.plan.parts.map (pendingPart (s.uuids 0)) := by
  simp only [createMultipart, Work.bind_assoc, run_select_bind, run_utcNow_bind, run_uuid4_bind,
    run_perform_bind_ok] at h
  obtain ⟨s₁, hw, h⟩ := h
  obtain ⟨_, hfree, rfl⟩ := exec_insertSession_ok.mp hw
  rw [run_bind_ok] at h
  obtain ⟨_, s₂, hloop, h⟩ := h
  obtain ⟨hframe, done, hdone, hrows⟩ := run_insertParts hloop
  rw [List.append_nil] at hdone
  subst hdone
  exact ⟨_, s₂, s.wall 0, rfl, h, hfree, hframe, hrows⟩

theorem effect_createOrResolveMultipart {requestId versionId blobId : UUID}
    {plan : HashedMultipartPlan} {a : MultipartUploadContext}
    (h : run (createOrResolveMultipart requestId versionId blobId plan) (beginTx env r) =
      .ok (a, s)) :
    Effect env r (.createOrResolveMultipart requestId versionId blobId plan) s.db := by
  simp only [createOrResolveMultipart, run_select_bind] at h
  cases hkey : (beginTx env r).db.idempotency.get?
      (.multipartSessionResolve, String.ofList requestId.str) with
  | some replay =>
      simp only [hkey, replayMultipartContext, run_require_bind_ok, run_fetch_bind_ok] at h
      obtain ⟨_, _, _, _, _, h⟩ := h
      rw [run_loadMultipartContext_ok h]
      exact .idle
  | none =>
      simp only [hkey, run_fetch_bind_ok, run_select_bind, run_require_bind_ok,
        decide_eq_true_eq] at h
      obtain ⟨b, hb, _, _, href, hsize, h⟩ := h
      cases hactive : activeSession (beginTx env r).db blobId with
      | some u =>
          simp only [hactive, sessionToResolve, Work.bind_assoc, run_require_bind_ok,
            run_pure_bind, run_perform_bind_ok] at h
          obtain ⟨⟨hmultipart, hplan⟩, s₁, hw, h⟩ := h
          obtain ⟨_, _, rfl⟩ := exec_insertIdempotency_ok.mp hw
          rw [run_loadMultipartContext_ok h]
          obtain ⟨hu, hub, hstate⟩ := mem_of_activeSession hactive
          exact .multipartBound (Relation.get?_of_mem hu) hub hstate hmultipart hplan hkey
      | none =>
          simp only [hactive, sessionToResolve] at h
          obtain ⟨u, s₁, now, rfl, h, hfree, hdb, hrows⟩ := run_createMultipart_bind_ok h
          rw [run_perform_bind_ok] at h
          obtain ⟨s₂, hw, h⟩ := h
          obtain ⟨_, _, rfl⟩ := exec_insertIdempotency_ok.mp hw
          rw [run_loadMultipartContext_ok h]
          simp only
          rw [hdb]
          exact .multipartCreated hb href hsize (inactive_of_activeSession hactive) hfree hrows hkey

theorem effect_getMultipart {id : UUID} {a : MultipartUploadContext}
    (h : run (getMultipart id) (beginTx env r) = .ok (a, s)) :
    Effect env r (.getMultipart id) s.db := by
  simp only [getMultipart, run_fetch_bind_ok] at h
  obtain ⟨_, _, h⟩ := h
  rw [run_loadMultipartContext_ok h]
  exact .idle

/-! ## Upload admission -/

omit [Platform] in
theorem lt_addSeconds {now expiresAt : Timestamp} {ttl : Int} (hpos : 0 < ttl)
    (h : addSeconds now ttl = .ok expiresAt) : now < expiresAt := by
  rw [addSeconds_ok h]
  have : 0 < ttl.toNat := by omega
  grind

theorem effect_acquireMultipartLease {requestId invocationId sessionId : UUID}
    {ttl capacity : Int} {a : AdmissionLeaseRecord}
    (h : run (acquireMultipartLease requestId invocationId sessionId ttl capacity)
      (beginTx env r) = .ok (a, s)) :
    Effect env r (.acquireMultipartLease requestId invocationId sessionId ttl capacity) s.db := by
  simp only [acquireMultipartLease, run_require_bind_ok, run_select_bind] at h
  obtain ⟨⟨hpos, _⟩, h⟩ := h
  cases hkey : (beginTx env r).db.idempotency.get?
      (.multipartAdmissionAcquire, String.ofList requestId.str) with
  | some replay =>
      simp only [hkey, run_ofExcept_ok] at h
      rw [h.2]
      exact .idle
  | none =>
      simp only [hkey, run_fetch_bind_ok, Option.filter_eq_some_iff, decide_eq_true_eq,
        run_require_bind_ok, run_clockTimestamp_bind, run_select_bind] at h
      obtain ⟨u, ⟨hu, hmultipart⟩, howned, h⟩ := h
      have hnow := (elapses_ticked (beginTx env r)).now_le
      have hlater := (elapses_ticked (beginTx env r)).now_le_later
      cases hl : (beginTx env r).ticked.db.admissionLeases.get? sessionId with
      | none =>
          simp only [hl, admitInvocation, Option.filter_none, Work.bind_assoc,
            run_select_bind, run_require_bind_ok, grantAdmission, run_uuid4_bind,
            run_ofExcept_bind_ok, run_perform_bind_ok, run_pure_bind, run_pure_ok] at h
          obtain ⟨hcapacity, expiresAt, hexpires, s₁, hw₁, s₂, hw₂, _, rfl⟩ := h
          obtain ⟨_, _, rfl⟩ := exec_insertAdmissionLease_ok.mp hw₁
          obtain ⟨_, _, rfl⟩ := exec_insertIdempotency_ok.mp hw₂
          exact .admissionGranted hu hmultipart howned hnow hlater (lt_addSeconds hpos hexpires)
            hl hkey hcapacity
      | some l =>
          have hid : l.uploadSessionId = sessionId := Relation.key_of_get? hl
          subst hid
          by_cases hlive : (beginTx env r).ticked.now < l.expiresAt
          · have hfilter : (some l).filter (fun l => l.expiresAt > (beginTx env r).ticked.now) =
                some l := by simp [Option.filter, hlive]
            simp only [hl, admitInvocation, hfilter, Work.bind_assoc,
              run_require_bind_ok, run_ofExcept_bind_ok] at h
            obtain ⟨hinvocation, expiresAt, hexpires, h⟩ := h
            obtain ⟨_, _, h⟩ := run_flushAdmissionLease_bind_ok h
            simp only [run_pure_bind, run_perform_bind_ok, run_pure_ok] at h
            obtain ⟨s₁, hw, _, rfl⟩ := h
            obtain ⟨_, _, rfl⟩ := exec_insertIdempotency_ok.mp hw
            subst hinvocation
            exact .admissionRenewed hu hmultipart howned hnow hlater (lt_addSeconds hpos hexpires)
              hl hlive rfl hkey
          · have hfilter : (some l).filter (fun l => l.expiresAt > (beginTx env r).ticked.now) =
                none := by simp [Option.filter, hlive]
            simp only [hl, admitInvocation, hfilter, Work.bind_assoc,
              run_select_bind, run_require_bind_ok, grantAdmission, run_uuid4_bind,
              run_ofExcept_bind_ok] at h
            obtain ⟨hcapacity, expiresAt, hexpires, h⟩ := h
            obtain ⟨_, _, h⟩ := run_flushAdmissionLease_bind_ok h
            simp only [run_pure_bind, run_perform_bind_ok, run_pure_ok] at h
            obtain ⟨s₁, hw, _, rfl⟩ := h
            obtain ⟨_, _, rfl⟩ := exec_insertIdempotency_ok.mp hw
            exact .admissionTaken hu hmultipart howned hnow hlater (lt_addSeconds hpos hexpires)
              hl (Nat.le_of_not_lt hlive) rfl hkey hcapacity

theorem run_endAdmission_ok {l : MultipartAdmissionLeaseModel} {s' : TxState} {u : Unit}
    (h : run (endAdmission l) s = .ok (u, s')) :
    ∃ renewedAt expiresAt, expiresAt ≤ s.now + s.ticks.sum ∧
      s'.db = { s.db with admissionLeases := s.db.admissionLeases.replace { l with
        renewedAt := renewedAt, expiresAt := expiresAt } } := by
  simp only [endAdmission, run_clockTimestamp_bind] at h
  obtain ⟨_, _, _, rfl⟩ := exec_updateAdmissionLease_ok.mp (run_perform_ok.mp h)
  have helapses := (elapses_ticked s).trans (elapses_ticked s.ticked)
  exact ⟨s.ticked.now, s.ticked.ticked.now, helapses.now_le_later, rfl⟩

theorem effect_releaseMultipartLease {sessionId ownerId : UUID} {epoch : Nat} {a : Unit}
    (h : run (releaseMultipartLease sessionId ownerId epoch) (beginTx env r) = .ok (a, s)) :
    Effect env r (.releaseMultipartLease sessionId ownerId epoch) s.db := by
  simp only [releaseMultipartLease, run_clockTimestamp_bind, run_fetch_bind_ok,
    Option.filter_eq_some_iff, decide_eq_true_eq] at h
  obtain ⟨l, ⟨hl, howner, hepoch, hlive⟩, h⟩ := h
  have hfence : Admitted env r sessionId ownerId epoch :=
    admitted_of_holds ⟨l, hl, howner, hepoch, hlive⟩
  obtain ⟨_, expiresAt, hexpires, hdb⟩ := run_endAdmission_ok h
  obtain rfl : l.uploadSessionId = sessionId := Relation.key_of_get? hl
  subst howner hepoch
  rw [hdb]
  exact .admissionReleased hl hfence
    (hexpires.trans (elapses_ticked (beginTx env r)).later_eq.le)

/-! ## Initiation -/

theorem effect_beginProviderInitiation {sessionId ownerId : UUID} {epoch : Nat} {a : Unit}
    (h : run (beginProviderInitiation sessionId ownerId epoch) (beginTx env r) = .ok (a, s)) :
    Effect env r (.beginProviderInitiation sessionId ownerId epoch) s.db := by
  obtain ⟨u, hu, hstate, hholds, hrun⟩ := run_fetchAdmitted_bind_ok h
  obtain rfl : u.id = sessionId := Relation.key_of_get? hu
  simp only [run_clockTimestamp_bind] at hrun
  obtain ⟨_, _, _, rfl⟩ := exec_updateSession_ok.mp (run_perform_ok.mp hrun)
  exact .initiationBegun hu (admitted_of_holds hholds) hstate

theorem effect_recordProviderUpload {sessionId ownerId : UUID} {epoch : Nat} {provider : String}
    {a : Unit}
    (h : run (recordProviderUpload sessionId ownerId epoch provider) (beginTx env r) =
      .ok (a, s)) :
    Effect env r (.recordProviderUpload sessionId ownerId epoch provider) s.db := by
  simp only [recordProviderUpload, run_require_bind_ok] at h
  obtain ⟨hprovider, h⟩ := h
  obtain ⟨u, hu, hstate, hholds, hrun⟩ := run_fetchAdmitted_bind_ok h
  obtain rfl : u.id = sessionId := Relation.key_of_get? hu
  simp only [run_clockTimestamp_bind, run_perform_bind_ok, run_fetch_bind_ok] at hrun
  obtain ⟨s₁, hw, b, hb, hrun⟩ := hrun
  obtain ⟨_, _, _, rfl⟩ := exec_updateSession_ok.mp hw
  have hfence := admitted_of_holds hholds
  by_cases hpending : b.state = .pending
  · rw [if_pos hpending] at hrun
    obtain ⟨_, hrun⟩ := run_flushBlob_bind_ok (run_bind_ok.mpr ⟨a, s, hrun, run_pure a s⟩)
    obtain ⟨_, rfl⟩ := run_pure_ok.mp hrun
    exact .providerRecorded hu hfence hstate hprovider hb (Or.inl hpending)
  · rw [if_neg hpending] at hrun
    obtain ⟨huploading, rfl⟩ := run_require_ok.mp hrun
    have heffect := @Effect.providerRecorded _ env r u b ownerId epoch provider
      (beginTx env r).ticked.ticked.now hu hfence hstate hprovider hb (Or.inr huploading)
    have hsame : ({ b with state := .uploading } : BlobModel) = b := by rw [← huploading]
    rw [hsame, Relation.replace_of_get? ((Relation.key_of_get? hb).symm ▸ hb)] at heffect
    exact heffect

theorem effect_markMultipartInitiationAmbiguous {sessionId ownerId : UUID} {epoch : Nat} {a : Unit}
    (h : run (markMultipartInitiationAmbiguous sessionId ownerId epoch) (beginTx env r) =
      .ok (a, s)) :
    Effect env r (.markMultipartInitiationAmbiguous sessionId ownerId epoch) s.db := by
  obtain ⟨u, hu, hstate, hholds, hrun⟩ := run_fetchAdmitted_bind_ok h
  obtain rfl : u.id = sessionId := Relation.key_of_get? hu
  simp only [run_clockTimestamp_bind, run_perform_bind_ok, run_fetch_bind_ok,
    Option.filter_eq_some_iff, decide_eq_true_eq] at hrun
  obtain ⟨s₁, hw, l, ⟨hl, howner, hepoch⟩, hrun⟩ := hrun
  obtain ⟨_, _, _, rfl⟩ := exec_updateSession_ok.mp hw
  obtain ⟨_, expiresAt, hexpires, hdb⟩ := run_endAdmission_ok hrun
  have helapses := (elapses_ticked (beginTx env r)).trans ((elapses_ticked _).trans
    ((elapses_ticked _).trans (elapses_ticked _)))
  have hlater : expiresAt ≤ r.later env := hexpires.trans helapses.later_eq.le
  subst howner hepoch
  rw [hdb]
  exact .initiationAmbiguous hu hl (admitted_of_holds hholds) hstate hlater

/-! ## Parts -/

theorem effect_recordUploadedPart {sessionId ownerId : UUID} {epoch : Nat}
    {receipt : CompletedPartReceipt} {a : UploadPartRecord}
    (h : run (recordUploadedPart sessionId ownerId epoch receipt) (beginTx env r) = .ok (a, s)) :
    Effect env r (.recordUploadedPart sessionId ownerId epoch receipt) s.db := by
  obtain ⟨u, hu, hstate, hholds, hrun⟩ := run_fetchAdmitted_bind_ok h
  obtain rfl : u.id = sessionId := Relation.key_of_get? hu
  simp only [run_clockTimestamp_bind, run_perform_bind_ok, run_fetch_bind_ok,
    run_ofExcept_bind_ok] at hrun
  obtain ⟨s₁, hw, part, hpart, receipt', hreceipt, _, _, hrun⟩ := hrun
  obtain ⟨_, _, _, rfl⟩ := exec_updateSession_ok.mp hw
  obtain ⟨rfl, _⟩ := CompletedPartReceipt.validateFor_ok.mp hreceipt
  have hfence := admitted_of_holds hholds
  by_cases hany : hasAnyReceiptField part = true
  · rw [if_pos hany] at hrun
    simp only [run_fetch_bind_ok, run_require_bind_ok, run_pure_ok] at hrun
    obtain ⟨_, _, _, _, rfl⟩ := hrun
    exact .partReplayed hu hfence hstate
  · rw [if_neg hany] at hrun
    simp only [run_clockTimestamp_bind] at hrun
    obtain ⟨_, rfl⟩ := run_ofExcept_ok.mp (run_flushPart_bind_ok hrun)
    exact .partRecorded hu hfence hstate hpart hreceipt (by simpa using hany)

theorem effect_reconcileParts {sessionId ownerId : UUID} {epoch : Nat}
    {observations : List ProviderPartObservation} {attribution : PartAttribution}
    {a : PartReconciliationResult}
    (h : run (reconcileParts sessionId ownerId epoch observations attribution) (beginTx env r) =
      .ok (a, s)) :
    Effect env r (.reconcileParts sessionId ownerId epoch observations attribution) s.db := by
  simp only [reconcileParts, run_require_bind_ok] at h
  obtain ⟨_, h⟩ := h
  obtain ⟨u, hu, hstate, hholds, hrun⟩ := run_fetchAdmitted_bind_ok h
  obtain rfl : u.id = sessionId := Relation.key_of_get? hu
  simp only [run_clockTimestamp_bind, run_perform_bind_ok, run_select_bind,
    run_require_bind_ok] at hrun
  obtain ⟨s₁, hw, _, hrun⟩ := hrun
  obtain ⟨_, _, _, rfl⟩ := exec_updateSession_ok.mp hw
  have hstart : Relation.Mapped id r.db.parts r.db.parts := .refl _
  obtain ⟨parts₁, hparts₁, hrun⟩ := run_flushParts_bind_ok
    (fun p => key_observedPart p _ _) (fun p hp => (Database.mem_partsOf.mp hp).1) hstart hrun
  obtain ⟨parts₂, hparts₂, hrun⟩ := run_flushParts_bind_ok (fun p => key_resolvedPart _ _ p)
    (fun p hp => (Database.mem_partsOf.mp (List.mem_filter.mp hp).1).1) hparts₁ hrun
  obtain ⟨_, rfl⟩ := run_pure_ok.mp hrun
  exact .partsReconciled hu (admitted_of_holds hholds) hstate (partsMapped_of_passes hparts₂)

end RoboLake
