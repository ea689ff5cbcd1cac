import RoboLake.Application.Transfers
import RoboLake.Guarantees.Keys
import RoboLake.Registry.Coupling

/-! # Write capabilities

A capability to write the object of a Blob should be issued while its session is open
and its Blob is not attested. The service starts a session in CREATED and refuses no
other state: what it issues for a session that has ended is not caught by the store.
-/

namespace RoboLake

open Foundation Store Work

section Capabilities

variable [Platform] {s : Scene} {sessionId : UUID}

/-- The session is CREATED or IN_PROGRESS, and its Blob is not AVAILABLE. -/
def Writable (db : Database) (sessionId : UUID) : Prop :=
  ∃ u b, db.sessions.get? sessionId = some u ∧ db.blobs.get? u.blobId = some b ∧
    (u.state = .created ∨ u.state = .inProgress) ∧ b.state ≠ .available

/-- The session is a single-PUT attempt that is COMPLETED or FAILED. -/
def HasEnded (db : Database) (sessionId : UUID) : Prop :=
  ∃ u, db.sessions.get? sessionId = some u ∧ u.strategy = .singlePut ∧
    (u.state = .completed ∨ u.state = .failed)

/-! ## Reading an attempt -/

theorem run_getUpload_ok {t t' : TxState} {c : UploadContext}
    (h : run (getUpload sessionId) t = .ok (c, t')) :
    ∃ u, t.db.sessions.get? sessionId = some u ∧ u.strategy = .singlePut ∧
      c.session = some (uploadSessionRecord u) ∧ t' = t := by
  simp only [getUpload, fetchDataset, run_fetch_bind_ok, run_ofExcept_bind_ok,
    requireSinglePutSession_ok, run_pure_ok] at h
  obtain ⟨u, hu, _, hsingle, b, _, v, _, d, _, rfl, rfl⟩ := h
  exact ⟨u, hu, hsingle, rfl, rfl⟩

theorem run_getUpload {r : Registry} (h : store.Reachable r) {u : UploadSessionModel} {t : TxState}
    (ht : t.db = r.db) (hu : r.db.sessions.get? sessionId = some u)
    (hsingle : u.strategy = .singlePut) :
    ∃ c, run (getUpload sessionId) t = .ok (c, t) ∧ c.session = some (uploadSessionRecord u) ∧
      ∀ b, r.db.blobs.get? u.blobId = some b → c.blob = blobRecord b := by
  have hlawful := (committed_of_reachable h).lawful
  obtain ⟨b, hb⟩ := hlawful.session_blob.get (Relation.mem_of_get? hu)
  obtain ⟨v, hv⟩ := hlawful.session_version.get (Relation.mem_of_get? hu)
  obtain ⟨d, hd⟩ := hlawful.version_dataset.get (Relation.mem_of_get? hv)
  rw [← ht] at hu hb hv hd ⊢
  refine ⟨uploadContext v d.name b (some u), ?_, rfl, ?_⟩
  swap
  · intro b' hb'
    cases hb.symm.trans hb'
    rfl
  unfold getUpload fetchDataset
  refine run_fetch_bind_ok.mpr ⟨u, hu, ?_⟩
  refine run_ofExcept_bind_ok.mpr ⟨(), requireSinglePutSession_ok.mpr hsingle, ?_⟩
  refine run_fetch_bind_ok.mpr ⟨b, hb, ?_⟩
  refine run_fetch_bind_ok.mpr ⟨v, hv, ?_⟩
  refine run_fetch_bind_ok.mpr ⟨d, hd, ?_⟩
  rfl

theorem run_markUploadInProgress_ok {t t' : TxState} {c : UploadContext}
    (h : run (markUploadInProgress sessionId) t = .ok (c, t')) :
    ∃ u, t'.db.sessions.get? sessionId = some u ∧ u.state = .inProgress := by
  obtain ⟨u, b, v, hu, hsingle, hb, hv, hrun⟩ := run_lockUpload_bind_ok h
  obtain rfl : u.id = sessionId := Relation.key_of_get? hu
  simp only at hrun
  by_cases hcreated : u.state = .created
  · rw [if_pos hcreated] at hrun
    simp only [run_utcNow_bind] at hrun
    obtain ⟨_, hrun⟩ := run_flushBlob_bind_ok hrun
    obtain ⟨_, hrun⟩ := run_flushVersion_bind_ok hrun
    obtain ⟨_, hrun⟩ := run_flushSession_bind_ok hrun
    simp only [run_pure_bind, fetchDataset, run_fetch_bind_ok, run_pure_ok] at hrun
    obtain ⟨_, _, _, rfl⟩ := hrun
    have hold : t.db.sessions.get? (key { u with
        state := .inProgress, lastActivityAt := t.ticked.now }) = some u := hu
    exact ⟨_, Relation.get?_replace_self hold, rfl⟩
  · rw [if_neg hcreated] at hrun
    simp only [run_require_bind_ok, run_pure_bind, fetchDataset, run_fetch_bind_ok,
      run_pure_ok] at hrun
    obtain ⟨hstate, _, _, _, rfl⟩ := hrun
    exact ⟨u, hu, hstate⟩

/-! ## Issued capabilities -/

theorem writable_of_open {r : Registry} (h : store.Reachable r) {u : UploadSessionModel}
    (hu : r.db.sessions.get? sessionId = some u)
    (hopen : u.state = .created ∨ u.state = .inProgress) :
    Writable r.db sessionId := by
  have hmem := Relation.mem_of_get? hu
  obtain ⟨b, hb⟩ := (committed_of_reachable h).lawful.session_blob.get hmem
  have hfits := (coupled_of_reachable h).fits u hmem b hb
  have hactive : u.state.isActive = true := by
    rcases hopen with hstate | hstate
    · rw [hstate]
      rfl
    · rw [hstate]
      rfl
  exact ⟨u, b, hu, hb, hopen, hfits.not_available hactive⟩

theorem not_writable_of_ended {db : Database} (h : HasEnded db sessionId) :
    ¬Writable db sessionId := by
  intro hwritable
  obtain ⟨u, hu, _, hended⟩ := h
  obtain ⟨u', _, hu', _, hopen, _⟩ := hwritable
  rw [hu] at hu'
  cases hu'
  rcases hended with hstate | hstate
  · rw [hstate] at hopen
    simp at hopen
  · rw [hstate] at hopen
    simp at hopen

variable (service : TransferService)

/-- A session that has ended is handed a capability. -/
theorem issueUploadUrl_of_ended (h : store.Reachable s.registry)
    (hended : HasEnded s.next.registry.db sessionId) :
    ∃ request s', service.issueUploadUrl sessionId s = (.ok request, s') ∧
      s'.registry.db = s.next.registry.db := by
  obtain ⟨u, hu, hsingle, hstate⟩ := hended
  obtain ⟨c, hrun, hsession, _⟩ := run_getUpload (Scene.next_reachable h)
    (t := beginTx (s.turns 0).env s.next.registry) rfl hu hsingle
  have hcall := transact_of_read hrun
  have hcreated : ¬(uploadSessionRecord u).state = .created := by
    change ¬u.state = .created
    rcases hstate with hstate | hstate
    · rw [hstate]
      nofun
    · rw [hstate]
      nofun
  refine ⟨service.putRequest c.blob, { s.next with
    registry := ⟨s.next.registry.db, s.next.registry.later (s.turns 0).env⟩ }, ?_, rfl⟩
  refine Served.bind_ok.mpr ⟨c, _, Served.call_of_read hrun, ?_⟩
  rw [hsession]
  simp only [if_neg hcreated]
  rfl

theorem writable_of_issued (h : store.Reachable s.registry) {request : PresignedRequest}
    {s' : Scene} (hended : ¬HasEnded s.next.registry.db sessionId)
    (hissued : service.issueUploadUrl sessionId s = (.ok request, s')) :
    Writable s'.registry.db sessionId := by
  obtain ⟨c, s₁, hread, hrest⟩ := Served.bind_ok.mp hissued
  obtain ⟨hvalue, rfl⟩ := Served.call_ok.mp hread
  obtain ⟨t, hrun, hregistry⟩ := returned_of_transact hvalue
  obtain ⟨u, hu, hsingle, hsession, rfl⟩ := run_getUpload_ok hrun
  have hfound : s.next.registry.db.sessions.get? sessionId = some u := hu
  have hreachable := Served.call_reachable (.getUpload sessionId) rfl h
  rw [hsession] at hrest
  simp only at hrest
  by_cases hcreated : (uploadSessionRecord u).state = .created
  · rw [if_pos hcreated] at hrest
    obtain ⟨c', s₂, hmarked, hpure⟩ := Served.bind_ok.mp hrest
    obtain ⟨_, rfl⟩ := Served.pure_ok.mp hpure
    obtain ⟨hvalue', rfl⟩ := Served.call_ok.mp hmarked
    obtain ⟨t', hrun', hregistry'⟩ := returned_of_transact hvalue'
    obtain ⟨u', hu', hstate⟩ := run_markUploadInProgress_ok hrun'
    refine writable_of_open (u := u')
      (Served.call_reachable (.markUploadInProgress sessionId) rfl hreachable) ?_ (.inr hstate)
    change (transact (markUploadInProgress sessionId) _ _).2.db.sessions.get? sessionId = some u'
    rw [hregistry']
    exact hu'
  · rw [if_neg hcreated] at hrest
    obtain ⟨_, rfl⟩ := Served.pure_ok.mp hrest
    have hstates := (committed_of_reachable (Scene.next_reachable h)).lawful.session_single u
      (Relation.mem_of_get? hfound) hsingle
    refine writable_of_open (u := u) hreachable ?_ ?_
    · change (transact (getUpload sessionId) _ _).2.db.sessions.get? sessionId = some u
      rw [hregistry]
      exact hu
    · rcases hstates with hstate | hstate | hstate | hstate
      · exact .inl hstate
      · exact .inr hstate
      · exact absurd ⟨u, hfound, hsingle, .inl hstate⟩ hended
      · exact absurd ⟨u, hfound, hsingle, .inr hstate⟩ hended

/-- A capability is issued for open sessions only, unless the session had ended before. -/
theorem issued_while_writable_iff (h : store.Reachable s.registry) (sessionId : UUID) :
    (Writable (service.issueUploadUrl sessionId s).2.registry.db sessionId ∨
      ∃ e, (service.issueUploadUrl sessionId s).1 = .error e) ↔
        ¬HasEnded s.next.registry.db sessionId := by
  constructor
  · intro hmet hended
    obtain ⟨request, s', hissued, hdb⟩ := issueUploadUrl_of_ended service h hended
    rw [hissued] at hmet
    rcases hmet with hwritable | ⟨e, herror⟩
    · rw [hdb] at hwritable
      exact not_writable_of_ended hended hwritable
    · cases herror
  · intro hended
    cases hissued : service.issueUploadUrl sessionId s with
    | mk outcome s' =>
        cases outcome with
        | error e => exact .inr ⟨e, rfl⟩
        | ok request => exact .inl (writable_of_issued service h hended hissued)

end Capabilities

namespace Sample

/-- A URL that spells the request. -/
def service : TransferService where
  sign := fun objectKey sizeBytes checksum expires =>
    String.ofList objectKey ++ "?" ++ toString sizeBytes ++ String.ofList checksum ++
      toString expires

def sceneAfter (calls : List Call) : Scene where
  registry := store.runFrom store.start calls
  turns := fun n => ⟨[], env (10 + n), .vacant⟩

set_option maxRecDepth 100000 in
/-- The verified attempt is handed another PUT of its AVAILABLE Blob. -/
theorem sample_attested_content_is_writable :
    ¬∀ s : Scene, store.Reachable s.registry → ∀ sessionId,
      Writable (service.issueUploadUrl sessionId s).2.registry.db sessionId ∨
        ∃ e, (service.issueUploadUrl sessionId s).1 = .error e := by
  intro hall
  have hended : ((store.runFrom store.start verified).db.sessions.get? 700).any (fun u =>
      u.strategy = .singlePut ∧ u.state = .completed) = true := by
    decide +kernel
  obtain ⟨u, hu, hstate⟩ := (Option.any_eq_true _ _).mp hended
  obtain ⟨hsingle, hcompleted⟩ := of_decide_eq_true hstate
  have hreachable : store.Reachable (sceneAfter verified).registry := ⟨verified, rfl⟩
  exact (issued_while_writable_iff service hreachable 700).mp (hall _ hreachable 700)
    ⟨u, hu, hsingle, .inl hcompleted⟩

set_option maxRecDepth 100000 in
/-- The started attempt is handed a PUT while it is open. -/
theorem sample_open_attempt_is_writable :
    (service.issueUploadUrl 700 (sceneAfter started)).1.isOk = true ∧
      (Writable (service.issueUploadUrl 700 (sceneAfter started)).2.registry.db 700 ∨
        ∃ e, (service.issueUploadUrl 700 (sceneAfter started)).1 = .error e) := by
  have hstate : ((store.runFrom store.start started).db.sessions.get? 700).all (fun u =>
      u.state = .inProgress) = true := by
    decide +kernel
  refine ⟨by decide +kernel, (issued_while_writable_iff service ⟨started, rfl⟩ 700).mpr ?_⟩
  intro hended
  obtain ⟨u, hu, _, hended⟩ := hended
  have hfound : (store.runFrom store.start started).db.sessions.get? 700 = some u := hu
  rw [hfound] at hstate
  have hopen : u.state = .inProgress := of_decide_eq_true hstate
  rw [hopen] at hended
  simp at hended

end Sample

end RoboLake
