import RoboLake.Registry.Contexts
import RoboLake.Registry.Generations

/-! # Multipart requests that return

A request whose id is free of the right form binds the active session of its Blob.
-/

namespace RoboLake

open Foundation Work Store Migrations

variable [Platform] {env : Env} {r : Registry}

/-! ## Free request ids -/

def IsRequestId (requestId : UUID) : Prop := isRequestKey (String.ofList requestId.str) = true

omit [Platform] in
theorem length_of_isRequestKey {k : String} (h : isRequestKey k = true) : k.length = 36 := by
  simp only [isRequestKey, Bool.and_eq_true, beq_iff_eq] at h
  exact h.1

theorem idempotencyRules_of_free {db : Database} {record : IdempotencyRecordModel}
    {sessionId : UUID} {status : Nat} {response : ResponseJson}
    (hkey : isRequestKey record.key = true) (htype : record.resourceType = some "upload-session")
    (hid : record.resourceId = some sessionId) (hstatus : record.httpStatus = some status)
    (hresponse : record.responseJson = some response)
    (hfree : db.idempotency.get? (record.scope, record.key) = none) :
    Satisfied (idempotencyRules db record) := by
  have hlength := length_of_isRequestKey hkey
  simp only [idempotencyRules, satisfied_cons, satisfied_nil, and_true, Rule.violated_raiseIf,
    Rule.violated_range, Rule.violated_unique]
  refine ⟨?_, by omega, ?_⟩
  · simp [hkey, htype, hid, hstatus, hresponse]
  · simpa using hfree

/-! ## The active session -/

theorem activeSession_of_active (h : Lawful r.db) {u : UploadSessionModel}
    (hu : u ∈ r.db.sessions.rows) (hactive : u.state.isActive = true) :
    activeSession r.db u.blobId = some u := by
  cases hfound : activeSession r.db u.blobId with
  | none =>
      have hnone := inactive_of_activeSession hfound u hu rfl
      rw [hactive] at hnone
      cases hnone
  | some x =>
      obtain ⟨hx, hxb, hxa⟩ := mem_of_activeSession hfound
      have hsame : x = u := h.session_active x hx u hu u.blobId
        (activeKey_eq_some.mpr ⟨hxa, hxb⟩) (activeKey_eq_some.mpr ⟨hactive, rfl⟩)
      rw [hsame]

/-- A free request for the plan of the Blob's active session returns that session. -/
theorem transact_createOrResolveMultipart_active {requestId versionId : UUID}
    {u : UploadSessionModel} {plan : HashedMultipartPlan} (h : store.Reachable r)
    (hu : u ∈ r.db.sessions.rows) (hmultipart : u.strategy = .multipart)
    (hactive : u.state.isActive = true) (hplan : Planned r.db u plan.plan)
    (href : r.db.References versionId u.blobId) (hid : IsRequestId requestId)
    (hfree : r.db.idempotency.get? (.multipartSessionResolve, String.ofList requestId.str) =
      none) :
    ∃ context r', transact (createOrResolveMultipart requestId versionId u.blobId plan) env r =
      (.ok context, r') ∧ context.session.id = u.id ∧ r'.db.sessions = r.db.sessions := by
  have hlawful := (committed_of_reachable h).lawful
  obtain ⟨b, hb, hsize⟩ := hplan.blob
  obtain ⟨e, he, hev, heb⟩ := href
  obtain ⟨v, hv⟩ := hlawful.entry_version.get he
  rw [hev] at hv
  have hsha : u.partPlanSha256 = some plan.sha256 := by
    rw [hplan.sha256, plan.hashed]
  have hcall : ∃ context db, transact (createOrResolveMultipart requestId versionId u.blobId plan)
      env r = (.ok context, ⟨db, r.later env⟩) ∧
        (context.session.id = u.id ∧ db.sessions = r.db.sessions) := by
    refine transact_of_ends ?_
    simp only [createOrResolveMultipart, ends_bind, ends_select, db_beginTx, hfree, ends_fetch,
      ends_require, activeSession_of_active hlawful hu hactive, sessionToResolve, ends_pure,
      decide_eq_true_eq, ends_perform]
    refine ⟨b, hb, v, hv, ⟨e, he, hev, heb⟩, hsize, ⟨hmultipart, hsha⟩, _,
      exec_insertIdempotency_ok.mpr
        ⟨idempotencyRules_of_free hid rfl rfl rfl rfl hfree, hfree, rfl⟩, ?_⟩
    refine ends_loadMultipartContext { hplan with } (partSound_of_reachable h) fun context hof => ?_
    refine ⟨⟨hof.id, rfl⟩, ?_⟩
    intro t ht
    cases ht
  obtain ⟨context, db, hcall, hsession, hsessions⟩ := hcall
  exact ⟨context, _, hcall, hsession, hsessions⟩

end RoboLake
