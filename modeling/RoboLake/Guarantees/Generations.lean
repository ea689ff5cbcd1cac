import RoboLake.Registry.Accepted.Requests

/-! # Generations of a Blob

The multipart sessions of a Blob are numbered in the order of their creation, one
session of it is active at a time, and an ended one is frozen with its parts.
-/

namespace RoboLake

open Foundation Store Migrations

section Generations

variable [Platform] {r : Registry}

/-! ## New parts -/

/-- The part has neither a receipt nor a listing. -/
structure IsFresh (p : UploadPartModel) : Prop where
  pending : p.state = .pending
  receipt : hasAnyReceiptField p = false
  listing : p.listedEtag = none ∧ p.listedChecksumSha256Base64 = none ∧
    p.listedSizeBytes = none ∧ p.providerListedAt = none ∧ p.verifiedAt = none

theorem parts_of_new_session (h : store.Reachable r) (c : Call) {u : UploadSessionModel}
    (hu : u ∈ (c.step r).db.sessions.rows) (hm : u.strategy = .multipart)
    (hnew : r.db.sessions.get? u.id = none) :
    ∀ p ∈ (c.step r).db.partsOf u.id, IsFresh p := by
  intro p hp
  obtain ⟨hp, hpu⟩ := Database.mem_partsOf.mp hp
  cases session_of_effect (effect_of_step c r) hu with
  | kept hold =>
      have hget : r.db.sessions.get? u.id = some u := Relation.get?_of_mem hold
      rw [hnew] at hget
      cases hget
  | moved hold _ =>
      rw [hnew] at hold
      cases hold
  | singlePut _ hsingle _ =>
      rw [hsingle] at hm
      cases hm
  | multipart _ _ _ _ hparts _ _ _ =>
      rw [hparts, List.mem_append, List.mem_map] at hp
      rcases hp with hold | ⟨d, _, rfl⟩
      · obtain ⟨x, hx, _⟩ := (committed_of_reachable h).lawful.part_session p hold
        rw [hpu, hnew] at hx
        cases hx
      · exact ⟨rfl, rfl, rfl, rfl, rfl, rfl, rfl⟩

/-! ## Ended sessions -/

theorem ended_session_is_frozen (h : store.Reachable r) {u : UploadSessionModel}
    (hu : u ∈ r.db.sessions.rows) (hended : u.state.isTerminal = true) (calls : List Call) :
    u ∈ (store.runFrom r calls).db.sessions.rows ∧
      ∀ p, p.uploadSessionId = u.id →
        (p ∈ (store.runFrom r calls).db.parts.rows ↔ p ∈ r.db.parts.rows) := by
  have hextends := extends_of_run_store h calls
  have hget : r.db.sessions.get? u.id = some u := Relation.get?_of_mem hu
  constructor
  · obtain ⟨u', hu', hlater⟩ := hextends.sessions _ u hget
    rw [hlater.terminal hended] at hu'
    exact Relation.mem_of_get? hu'
  · intro p hpu
    constructor
    · intro hp
      -- The range of the part was planned already, and its row then is its row now.
      have hrange : plannedRange p ∈ rangesOf (store.runFrom r calls).db u.id :=
        mem_rangesOf.mpr ⟨p, hp, hpu, rfl⟩
      rw [rangesOf_run h hu calls] at hrange
      obtain ⟨q, hq, hqu, hsame⟩ := mem_rangesOf.mp hrange
      have hq' := hextends.frozen q hq u (by rw [hqu, hget]) hended
      have hnumber : q.partNumber = p.partNumber := (Prod.mk.inj hsame).1
      have hkey : key q = key p := by
        rw [key_part, key_part, hqu, hpu, hnumber]
      rw [← Relation.eq_of_key_eq hq' hp hkey]
      exact hq
    · intro hp
      exact hextends.frozen p hp u (by rw [hpu, hget]) hended

/-! ## Every reachable registry -/

/-- The multipart sessions of a Blob are numbered 1, …, k in creation order, at most one session of
it is active and free requests for its plan return it, new parts are fresh, and ended sessions
are frozen. -/
theorem generations_are_ordered (h : store.Reachable r) :
    (∀ blobId, ∃ k, generationsOf r.db blobId = (List.range' 1 k).map some) ∧
    (∀ calls, r.db.sessions.rows.map UploadSessionModel.id <+:
      (store.runFrom r calls).db.sessions.rows.map UploadSessionModel.id) ∧
    (∀ u ∈ r.db.sessions.rows, ∀ u' ∈ r.db.sessions.rows, u.blobId = u'.blobId →
      u.state.isActive = true → u'.state.isActive = true → u = u') ∧
    (∀ u ∈ r.db.sessions.rows, u.strategy = .multipart → u.state.isActive = true →
      ∀ env requestId versionId (plan : HashedMultipartPlan), Planned r.db u plan.plan →
        r.db.References versionId u.blobId → IsRequestId requestId →
        r.db.idempotency.get? (.multipartSessionResolve, String.ofList requestId.str) = none →
        ∃ context r', transact (createOrResolveMultipart requestId versionId u.blobId plan) env r =
          (.ok context, r') ∧ context.session.id = u.id ∧ r'.db.sessions = r.db.sessions) ∧
    (∀ c : Call, ∀ u ∈ (c.step r).db.sessions.rows, u.strategy = .multipart →
      r.db.sessions.get? u.id = none → ∀ p ∈ (c.step r).db.partsOf u.id, IsFresh p) ∧
    ∀ u ∈ r.db.sessions.rows, u.state.isTerminal = true → ∀ calls,
      u ∈ (store.runFrom r calls).db.sessions.rows ∧
        ∀ p, p.uploadSessionId = u.id →
          (p ∈ (store.runFrom r calls).db.parts.rows ↔ p ∈ r.db.parts.rows) := by
  have hlawful := (committed_of_reachable h).lawful
  refine ⟨generations_of_reachable h, ids_prefix_of_run h, ?_, ?_, ?_, ?_⟩
  · intro u hu u' hu' hsame hactive hactive'
    exact hlawful.session_active u hu u' hu' u'.blobId
      (activeKey_eq_some.mpr ⟨hactive, hsame⟩) (activeKey_eq_some.mpr ⟨hactive', rfl⟩)
  · intro u hu hm hactive env requestId versionId plan hplan href hid hfree
    exact transact_createOrResolveMultipart_active h hu hm hactive hplan href hid hfree
  · intro c u hu hm hnew
    exact parts_of_new_session h c hu hm hnew
  · intro u hu hended calls
    exact ended_session_is_frozen h hu hended calls

end Generations

namespace Sample

/-- The initiation of session `300` fails, and its Blob gets session `800`. -/
def superseded : List Call :=
  registration ++ [resolution, admission, initiation,
    ⟨.markMultipartInitiationAmbiguous 300 400 1, env 6⟩,
    ⟨.createOrResolveMultipart (requestId 8) 200 201 plan, env 8⟩]

set_option maxRecDepth 100000 in
/-- A request bound to the ended session returns that one, with the same plan. -/
theorem sample_request_returns_ended_session :
    ¬∀ r, store.Reachable r → ∀ u ∈ r.db.sessions.rows, u.strategy = .multipart →
      u.state.isActive = true → ∀ env requestId (plan : HashedMultipartPlan),
      u.partPlanSha256 = some plan.sha256 →
      ∃ context r',
        transact (createOrResolveMultipart requestId u.initiatingVersionId u.blobId plan)
        env r = (.ok context, r') ∧ context.session.id = u.id := by
  intro hall
  have hfacts : ((store.runFrom store.start superseded).db.sessions.get? 800).any (fun u =>
      u.id = 800 ∧ u.initiatingVersionId = 200 ∧ u.blobId = 201 ∧ u.strategy = .multipart ∧
        u.state.isActive = true ∧ u.partPlanSha256 = some plan.sha256) = true ∧
      ((transact (createOrResolveMultipart (requestId 1) 200 201 plan) (env 9)
        (store.runFrom store.start superseded)).1.toOption.map fun c => c.session.id) =
          some 300 := by
    rw [superseded, runFrom_resolution]
    decide +kernel
  obtain ⟨hsession, hreplayed⟩ := hfacts
  obtain ⟨u, hu, hfields⟩ := (Option.any_eq_true _ _).mp hsession
  obtain ⟨hid, hversion, hblob, hm, hactive, hplan⟩ := of_decide_eq_true hfields
  obtain ⟨context, r', hcall, hsame⟩ := hall _ ⟨superseded, rfl⟩ u (Relation.mem_of_get? hu) hm
    hactive (env 9) (requestId 1) plan hplan
  rw [hversion, hblob] at hcall
  rw [hcall] at hreplayed
  rw [hid] at hsame
  have hother : context.session.id = 300 := Option.some.inj hreplayed
  rw [hsame] at hother
  cases hother

/-- The sample Blob has its two generations in order. -/
theorem sample_generations_are_ordered :
    ∃ k, generationsOf (store.runFrom store.start superseded).db 201 =
      (List.range' 1 k).map some :=
  (generations_are_ordered ⟨superseded, rfl⟩).1 201

end Sample

end RoboLake
