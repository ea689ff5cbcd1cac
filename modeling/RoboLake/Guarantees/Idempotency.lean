import RoboLake.Registry.Bindings

/-! # Idempotency of multipart requests

Session resolution, upload admission and completion acceptance each bind their
request id with their first committed call.
-/

namespace RoboLake

open Foundation Work Store Migrations

section Families

variable [Platform] {env : Env} {r : Registry}

/-! ## Session resolution -/

structure SessionRequest where
  versionId : UUID
  blobId : UUID
  plan : HashedMultipartPlan

/-- `create_or_resolve_multipart` under one request id; an answer repeats another when it is of the
same session. -/
def sessionRequests (requestId : UUID) :
    RequestFamily SessionRequest (UUID × UUID × Sha256Digest) MultipartUploadContext where
  call x := createOrResolveMultipart requestId x.versionId x.blobId x.plan
  meaning x := (x.versionId, x.blobId, x.plan.sha256)
  payload m := requestPayload "multipart-session-resolve" [m.1.str, m.2.1.str, m.2.2.value]
  Admits _ := True
  Repeats a a' := a'.session.id = a.session.id

/-- The record names the answered session, which is stored. -/
def NamesSession (db : Database) (record : IdempotencyRecordModel)
    (context : MultipartUploadContext) : Prop :=
  record.resourceId = some context.session.id ∧
    ∃ u, db.sessions.get? context.session.id = some u ∧ u.strategy = .multipart

omit [Platform] in
theorem narrow_values {m : UUID × UUID × Sha256Digest} :
    ∀ v ∈ [m.1.str, m.2.1.str, m.2.2.value], IsNarrow v := by
  intro v hv
  simp only [List.mem_cons, List.not_mem_nil, or_false] at hv
  rcases hv with rfl | rfl | rfl
  · exact UUID.narrow_str _
  · exact UUID.narrow_str _
  · exact Sha256Digest.narrow_value _

theorem id_of_loadMultipartContext {u : UploadSessionModel} {s s' : TxState}
    {context : MultipartUploadContext}
    (h : run (loadMultipartContext u) s = .ok (context, s')) : context.session.id = u.id := by
  simp only [loadMultipartContext, run_fetch_bind_ok, run_select_bind, run_ofExcept_ok] at h
  obtain ⟨b, _, hcontext, _⟩ := h
  unfold multipartContext at hcontext
  split at hcontext
  · cases hcontext
  · obtain ⟨definitions, _, hcontext⟩ := Except.bind_ok.mp hcontext
    split at hcontext
    · obtain ⟨plan, _, hcontext⟩ := Except.bind_ok.mp hcontext
      obtain ⟨parts, _, hcontext⟩ := Except.bind_ok.mp hcontext
      cases hcontext
      rfl
    · cases hcontext

theorem stored_of_sessionToResolve {versionId blobId : UUID} {plan : HashedMultipartPlan}
    {s s' : TxState} {u : UploadSessionModel}
    (h : run (sessionToResolve versionId blobId plan (activeSession s.db blobId)) s = .ok (u, s')) :
    s'.db.sessions.get? u.id = some u ∧ u.strategy = .multipart := by
  cases hactive : activeSession s.db blobId with
  | some x =>
      simp only [hactive, sessionToResolve, run_require_bind_ok, run_pure_ok] at h
      obtain ⟨⟨hm, _⟩, rfl, rfl⟩ := h
      exact ⟨Relation.get?_of_mem (mem_of_activeSession hactive).1, hm⟩
  | none =>
      simp only [hactive, sessionToResolve] at h
      have hbind : run (createMultipart versionId blobId plan >>= pure) s = .ok (u, s') := by
        rw [run_bind, h]
        rfl
      obtain ⟨x, s₁, now, rfl, hpure, hfree, hdb, _⟩ := run_createMultipart_bind_ok hbind
      obtain ⟨rfl, rfl⟩ := run_pure_ok.mp hpure
      rw [hdb]
      exact ⟨Relation.get?_insert_self hfree, rfl⟩

theorem sessionRequests_binds (requestId : UUID) :
    Binds (sessionRequests requestId) (.multipartSessionResolve, String.ofList requestId.str)
      NamesSession where
  injective m m' h := by
    have hlengths : [m.1.str, m.2.1.str, m.2.2.value].map List.length =
        [m'.1.str, m'.2.1.str, m'.2.2.value].map List.length := by
      simp [UUID.length_str, Sha256Digest.length_value]
    have hvalues := requestPayload_injective hlengths narrow_values narrow_values h
    simp only [List.cons.injEq, and_true] at hvalues
    obtain ⟨hversion, hblob, hsha⟩ := hvalues
    exact Prod.ext (UUID.str_injective hversion)
      (Prod.ext (UUID.str_injective hblob) (Sha256Digest.ext hsha))
  binds {r env x a s} h := by
    simp only [sessionRequests, createOrResolveMultipart, run_select_bind] at h
    cases hkey : (beginTx env r).db.idempotency.get?
        (.multipartSessionResolve, String.ofList requestId.str) with
    | some record =>
        simp only [hkey, replayMultipartContext, run_require_bind_ok, run_fetch_bind_ok,
          Option.filter_eq_some_iff, decide_eq_true_eq] at h
        obtain ⟨hsha, id, hid, u, ⟨hu, hm⟩, hload⟩ := h
        have hsession := id_of_loadMultipartContext hload
        have huid : u.id = id := Relation.key_of_get? hu
        rw [run_loadMultipartContext_ok hload]
        refine ⟨record, hkey, hsha, ?_, u, ?_, hm⟩
        · rw [hid, hsession, huid]
        · rw [hsession, huid, hu]
    | none =>
        simp only [hkey, run_fetch_bind_ok, run_select_bind, run_require_bind_ok] at h
        obtain ⟨_, _, _, _, _, _, h⟩ := h
        rw [run_bind_ok] at h
        obtain ⟨u, s₁, hresolve, h⟩ := h
        rw [run_perform_bind_ok] at h
        obtain ⟨s₂, hw, hload⟩ := h
        obtain ⟨_, hfree, rfl⟩ := exec_insertIdempotency_ok.mp hw
        obtain ⟨hu, hm⟩ := stored_of_sessionToResolve hresolve
        have hsession := id_of_loadMultipartContext hload
        rw [run_loadMultipartContext_ok hload]
        refine ⟨_, Relation.get?_insert_self hfree, rfl, ?_, u, ?_, hm⟩
        · rw [hsession]
          rfl
        · rw [hsession]
          exact hu
  later {db db' record a} hextends h := by
    obtain ⟨hid, u, hu, hm⟩ := h
    obtain ⟨u', hu', hlater⟩ := hextends.sessions _ u hu
    exact ⟨hid, u', hu', hlater.strategy.trans hm⟩
  replays {r env y record a} hr _ hrecord hsha h := by
    obtain ⟨hid, u, hu, hm⟩ := h
    have huid : u.id = a.session.id := Relation.key_of_get? hu
    obtain ⟨plan, hplan⟩ := planned_of_reachable hr (Relation.mem_of_get? hu) hm
    have hends : Ends ((sessionRequests requestId).call y) (beginTx env r) fun a' s =>
        s = beginTx env r ∧ a'.session.id = a.session.id := by
      simp only [sessionRequests, createOrResolveMultipart, ends_bind, ends_select, db_beginTx,
        hrecord, replayMultipartContext, ends_require, ends_fetch, Option.filter_eq_some_iff,
        decide_eq_true_eq]
      refine ⟨hsha, a.session.id, hid, u, ⟨hu, hm⟩, ?_⟩
      refine ends_loadMultipartContext hplan (partSound_of_reachable hr) fun context hof => ?_
      exact ⟨rfl, hof.id.trans huid⟩
    obtain ⟨a', s, hrun, rfl, hsame⟩ := hends
    exact ⟨a', hrun, hsame⟩
  refuses {r env y record} _ hrecord hne := by
    refine ⟨"Multipart request ID was already used for a different request.", ?_⟩
    simp only [sessionRequests, createOrResolveMultipart, run_select_bind, db_beginTx, hrecord,
      replayMultipartContext, run_require_bind_error]
    exact Or.inl ⟨hne, trivial⟩

/-! ## Upload admission -/

structure AdmissionRequest where
  sessionId : UUID
  invocationId : UUID
  ttlSeconds : Int
  capacity : Int

def admissionRequests (requestId : UUID) :
    RequestFamily AdmissionRequest (UUID × UUID) AdmissionLeaseRecord where
  call x := acquireMultipartLease requestId x.invocationId x.sessionId x.ttlSeconds x.capacity
  meaning x := (x.sessionId, x.invocationId)
  payload m := requestPayload "multipart-admission-acquire" [m.1.str, m.2.str]
  Admits x := 0 < x.ttlSeconds ∧ 0 < x.capacity
  Repeats a a' := a' = a

/-- The document of the record reads as the admission that was answered. -/
def HoldsAnswer (_ : Database) (record : IdempotencyRecordModel) (lease : AdmissionLeaseRecord) :
    Prop :=
  record.responseJson.bind ResponseJson.admissionLease = some lease

/-- A granted lease is the invocation's, and a `datetime` represents its times. -/
structure Granted (invocationId : UUID) (lease : MultipartAdmissionLeaseModel) : Prop where
  invocation : lease.invocationId = invocationId
  expires : lease.expiresAt ≤ maxTimestamp
  renewed : lease.renewedAt ≤ maxTimestamp

theorem granted_of_admitInvocation {invocationId sessionId : UUID} {ttl capacity : Int}
    {now : Timestamp} {lease : Option MultipartAdmissionLeaseModel}
    {l : MultipartAdmissionLeaseModel} {s s' : TxState}
    (h : run (admitInvocation invocationId sessionId ttl capacity now lease) s = .ok (l, s')) :
    Granted invocationId l := by
  unfold admitInvocation at h
  split at h
  · rw [run_require_bind_ok] at h
    obtain ⟨hinvocation, h⟩ := h
    rw [run_ofExcept_bind_ok] at h
    obtain ⟨expiresAt, hexpires, h⟩ := h
    rw [run_bind_ok] at h
    obtain ⟨_, _, _, h⟩ := h
    obtain ⟨rfl, _⟩ := run_pure_ok.mp h
    obtain ⟨hnow, hlater⟩ := le_maxTimestamp_of_addSeconds hexpires
    exact ⟨hinvocation, hlater, hnow⟩
  · simp only [run_select_bind, run_require_bind_ok] at h
    obtain ⟨_, h⟩ := h
    cases lease with
    | none =>
        simp only [grantAdmission, run_uuid4_bind, run_ofExcept_bind_ok, run_perform_bind_ok,
          run_pure_ok] at h
        obtain ⟨_, hexpires, _, _, rfl, _⟩ := h
        obtain ⟨hnow, hlater⟩ := le_maxTimestamp_of_addSeconds hexpires
        exact ⟨rfl, hlater, hnow⟩
    | some lease =>
        simp only [grantAdmission, run_uuid4_bind, run_ofExcept_bind_ok] at h
        obtain ⟨_, hexpires, h⟩ := h
        rw [run_bind_ok] at h
        obtain ⟨_, _, _, h⟩ := h
        obtain ⟨rfl, _⟩ := run_pure_ok.mp h
        obtain ⟨hnow, hlater⟩ := le_maxTimestamp_of_addSeconds hexpires
        exact ⟨rfl, hlater, hnow⟩

omit [Platform] in
theorem narrow_ids {m : UUID × UUID} : ∀ v ∈ [m.1.str, m.2.str], IsNarrow v := by
  intro v hv
  simp only [List.mem_cons, List.not_mem_nil, or_false] at hv
  rcases hv with rfl | rfl
  · exact UUID.narrow_str _
  · exact UUID.narrow_str _

theorem admissionRequests_binds (requestId : UUID) :
    Binds (admissionRequests requestId) (.multipartAdmissionAcquire, String.ofList requestId.str)
      HoldsAnswer where
  injective m m' h := by
    have hlengths : [m.1.str, m.2.str].map List.length = [m'.1.str, m'.2.str].map List.length := by
      simp [UUID.length_str]
    have hvalues := requestPayload_injective hlengths narrow_ids narrow_ids h
    simp only [List.cons.injEq, and_true] at hvalues
    exact Prod.ext (UUID.str_injective hvalues.1) (UUID.str_injective hvalues.2)
  binds {r env x a s} h := by
    simp only [admissionRequests, acquireMultipartLease, run_require_bind_ok, run_select_bind] at h
    obtain ⟨_, h⟩ := h
    cases hkey : (beginTx env r).db.idempotency.get?
        (.multipartAdmissionAcquire, String.ofList requestId.str) with
    | some record =>
        simp only [hkey, run_ofExcept_ok, replayAdmissionLease] at h
        obtain ⟨h, rfl⟩ := h
        split at h
        · cases h
        · rename_i hmatch
          simp only [ne_eq, not_or, not_not] at hmatch
          split at h
          · rename_i hresponse
            cases h
            exact ⟨record, hkey, hmatch.1, hresponse⟩
          · cases h
    | none =>
        simp only [hkey, run_fetch_bind_ok, run_require_bind_ok, run_clockTimestamp_bind,
          run_select_bind] at h
        obtain ⟨_, _, _, h⟩ := h
        rw [run_bind_ok] at h
        obtain ⟨l, s₁, hadmit, h⟩ := h
        simp only [run_perform_bind_ok, run_pure_ok] at h
        obtain ⟨s₂, hw, rfl, rfl⟩ := h
        obtain ⟨_, hfree, rfl⟩ := exec_insertIdempotency_ok.mp hw
        refine ⟨_, Relation.get?_insert_self hfree, rfl, ?_⟩
        obtain ⟨hinvocation, hexpires, hrenewed⟩ := granted_of_admitInvocation hadmit
        rw [← hinvocation]
        exact admissionLease_admissionBinding hexpires hrenewed
  later _ h := h
  replays {r env y record a} _ hadmits hrecord hsha h := by
    refine ⟨a, ?_, rfl⟩
    have hreplay : replayAdmissionLease record
        (sha256 ((admissionRequests requestId).payload ((admissionRequests requestId).meaning y))) =
          .ok a := by
      rw [HoldsAnswer] at h
      have hstored : record.responseJson ≠ none := by
        intro hnone
        rw [hnone] at h
        cases h
      simp [replayAdmissionLease, hsha, h, hstored]
    have hends : Ends ((admissionRequests requestId).call y) (beginTx env r) fun a' s =>
        a' = a ∧ s = beginTx env r := by
      simp only [admissionRequests, acquireMultipartLease, ends_bind, ends_require, ends_select,
        db_beginTx, hrecord, ends_ofExcept]
      exact ⟨hadmits, a, hreplay, rfl, trivial⟩
    obtain ⟨a', s, hrun, rfl, rfl⟩ := hends
    exact hrun
  refuses {r env y record} hadmits hrecord hne := by
    refine ⟨"Admission request ID was already used for a different request.", ?_⟩
    simp only [admissionRequests, acquireMultipartLease, run_require_bind_error, run_select_bind,
      db_beginTx, hrecord, run_ofExcept_error]
    refine Or.inr ⟨hadmits, ?_⟩
    have hdiffers : record.requestSha256 ≠ multipartRequestSha256 "multipart-admission-acquire"
        [y.sessionId.str, y.invocationId.str] := hne
    unfold replayAdmissionLease
    rw [if_pos (Or.inl hdiffers)]

/-! ## Completion acceptance -/

structure AcceptanceRequest where
  sessionId : UUID
  ownerId : UUID
  epoch : Nat

def acceptanceRequests (requestId : UUID) :
    RequestFamily AcceptanceRequest UUID AcceptedCompletion where
  call x := acceptCompletion x.sessionId x.ownerId x.epoch requestId
  meaning x := x.sessionId
  payload m := requestPayload "multipart-completion-accept" [m.str]
  Admits _ := True
  Repeats a a' := a' = a

/-- The record names the accepted session and the 202 response of the request. -/
def NamesAcceptance (requestId : UUID) (_ : Database) (record : IdempotencyRecordModel)
    (accepted : AcceptedCompletion) : Prop :=
  record.resourceId = some accepted.sessionId ∧ record.httpStatus = some 202 ∧
    accepted = { requestId := requestId, sessionId := accepted.sessionId }

theorem acceptanceRequests_binds (requestId : UUID) :
    Binds (acceptanceRequests requestId) (.multipartCompletionAccept, String.ofList requestId.str)
      (NamesAcceptance requestId) where
  injective m m' h := by
    have hlengths : [m.str].map List.length = [m'.str].map List.length := by
      simp [UUID.length_str]
    have hnarrow : ∀ id : UUID, ∀ v ∈ [id.str], IsNarrow v := by
      intro id v hv
      rw [List.mem_singleton.mp hv]
      exact UUID.narrow_str id
    have hvalues := requestPayload_injective hlengths (hnarrow m) (hnarrow m') h
    exact UUID.str_injective (List.cons.inj hvalues).1
  binds {r env x a s} h := by
    simp only [acceptanceRequests, acceptCompletion, run_select_bind] at h
    cases hkey : (beginTx env r).db.idempotency.get?
        (.multipartCompletionAccept, String.ofList requestId.str) with
    | some record =>
        simp only [hkey, run_ofExcept_ok, replayAcceptedCompletion] at h
        obtain ⟨h, rfl⟩ := h
        split at h
        · cases h
        · rename_i hmatch
          split at h
          · cases h
          · rename_i id hid
            split at h
            · cases h
            · rename_i hstatus
              cases h
              exact ⟨record, hkey, not_not.mp hmatch, hid, not_not.mp hstatus, rfl⟩
    | none =>
        simp only [hkey, run_fetch_bind_ok, run_clockTimestamp_bind, run_select_bind,
          run_require_bind_ok] at h
        obtain ⟨_, _, _, _, _, h⟩ := h
        rw [run_bind_ok] at h
        obtain ⟨_, _, _, h⟩ := h
        rw [run_bind_ok] at h
        obtain ⟨_, _, _, h⟩ := h
        simp only [run_perform_bind_ok, run_pure_ok] at h
        obtain ⟨s₂, hw, rfl, rfl⟩ := h
        obtain ⟨_, hfree, rfl⟩ := exec_insertIdempotency_ok.mp hw
        exact ⟨_, Relation.get?_insert_self hfree, rfl, rfl, rfl, rfl⟩
  later _ h := h
  replays {r env y record a} _ _ hrecord hsha h := by
    refine ⟨a, ?_, rfl⟩
    obtain ⟨hid, hstatus, ha⟩ := h
    have hreplay : replayAcceptedCompletion record
        (sha256 ((acceptanceRequests requestId).payload
          ((acceptanceRequests requestId).meaning y))) requestId = .ok a := by
      rw [ha]
      simp [replayAcceptedCompletion, hsha, hid, hstatus]
    have hends : Ends ((acceptanceRequests requestId).call y) (beginTx env r) fun a' s =>
        a' = a ∧ s = beginTx env r := by
      simp only [acceptanceRequests, acceptCompletion, ends_bind, ends_select, db_beginTx, hrecord,
        ends_ofExcept]
      exact ⟨a, hreplay, rfl, trivial⟩
    obtain ⟨a', s, hrun, rfl, rfl⟩ := hends
    exact hrun
  refuses {r env y record} _ hrecord hne := by
    refine ⟨"Completion request ID was already used for a different request.", ?_⟩
    simp only [acceptanceRequests, acceptCompletion, run_select_bind, db_beginTx, hrecord,
      run_ofExcept_error]
    have hdiffers : record.requestSha256 ≠ multipartRequestSha256 "multipart-completion-accept"
        [y.sessionId.str] := hne
    unfold replayAcceptedCompletion
    rw [if_pos hdiffers]

/-! ## The three families -/

/-- Every request id of the three operations is idempotent. -/
theorem multipart_requests_are_idempotent (requestId : UUID) :
    (sessionRequests requestId).Idempotent ∧ (admissionRequests requestId).Idempotent ∧
      (acceptanceRequests requestId).Idempotent := by
  refine ⟨?_, ?_, ?_⟩
  · refine (sessionRequests_binds requestId).idempotent fun r hr x env => ?_
    have hop : operationTx (.createOrResolveMultipart requestId x.versionId x.blobId x.plan) =
        effect ((sessionRequests requestId).call x) := rfl
    exact reachable_of_transact hop hr
  · refine (admissionRequests_binds requestId).idempotent fun r hr x env => ?_
    have hop : operationTx (.acquireMultipartLease requestId x.invocationId x.sessionId
        x.ttlSeconds x.capacity) = effect ((admissionRequests requestId).call x) := rfl
    exact reachable_of_transact hop hr
  · refine (acceptanceRequests_binds requestId).idempotent fun r hr x env => ?_
    have hop : operationTx (.acceptCompletion x.sessionId x.ownerId x.epoch requestId) =
        effect ((acceptanceRequests requestId).call x) := rfl
    exact reachable_of_transact hop hr

end Families

namespace Sample

set_option maxRecDepth 100000 in
/-- A bound admission request is refused for a TTL of zero. -/
theorem sample_admission_needs_a_positive_ttl :
    ¬RequestFamily.Idempotent { admissionRequests (requestId 2) with Admits := fun _ => True } := by
  intro hall
  have hfacts : (transact (acquireMultipartLease (requestId 2) 77 300 1000 5) (env 4)
      (store.runFrom store.start (registration ++ [resolution]))).1.isOk = true ∧
      (transact (acquireMultipartLease (requestId 2) 77 300 0 5) (env 5)
        (transact (acquireMultipartLease (requestId 2) 77 300 1000 5) (env 4)
          (store.runFrom store.start (registration ++ [resolution]))).2).1.isOk = false := by
    rw [runFrom_resolution]
    decide +kernel
  obtain ⟨hfirst, hrefused⟩ := hfacts
  cases hlease : (transact (acquireMultipartLease (requestId 2) 77 300 1000 5) (env 4)
      (store.runFrom store.start (registration ++ [resolution]))).1 with
  | error e =>
      rw [hlease] at hfirst
      cases hfirst
  | ok lease =>
      have hreplay := (hall _ ⟨registration ++ [resolution], rfl⟩ ⟨300, 77, 1000, 5⟩ (env 4) lease _
        (Prod.ext hlease rfl) [] ⟨300, 77, 0, 5⟩ (env 5) trivial).1 rfl
      obtain ⟨lease', hagain, _⟩ := hreplay
      have hcall : (transact (acquireMultipartLease (requestId 2) 77 300 0 5) (env 5)
          (transact (acquireMultipartLease (requestId 2) 77 300 1000 5) (env 4)
            (store.runFrom store.start (registration ++ [resolution]))).2).1 = .ok lease' :=
        congrArg Prod.fst hagain
      rw [hcall] at hrefused
      cases hrefused

end Sample

end RoboLake
