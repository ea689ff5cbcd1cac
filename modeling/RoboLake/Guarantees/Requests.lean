import RoboLake.Application.Push
import RoboLake.Domain.Canonical
import RoboLake.Guarantees.Versions

/-! # Requests of the services

A service names each request by the digest of its fields. As long as no other text that
is hashed has the digest of a request, its key answers for that request, whoever has
bound it first.
-/

namespace RoboLake

open Foundation Store Work Migrations

variable [Platform] {texts : Set Bytes} {env : Env} {r : Registry} {op : Operation} {db : Database}

/-! ## Bound keys -/

/-- An operation as a service calls it: a fingerprint is that of the fields, and what is hashed for
it is among the texts. -/
def Named (texts : Set Bytes) : Operation → Prop
  | .createDataset name _ sha =>
      sha = requestFingerprint (creationFields name) ∧ framed (creationFields name) ∈ texts
  | .registerVersion datasetId manifest _ sha =>
      sha = requestFingerprint (registrationFields datasetId manifest) ∧
        framed (registrationFields datasetId manifest) ∈ texts ∧ manifest.canonicalBytes ∈ texts
  | _ => True

def Distinguished (texts : Set Bytes) (x : Bytes) : Prop := ∀ y ∈ texts, sha256 y = sha256 x → y = x

/-- Every key of the two scopes is bound to a named request and to what that request asked for. -/
structure Bound (texts : Set Bytes) (db : Database) : Prop where
  datasets : ∀ record ∈ db.idempotency.rows, record.scope = .datasetCreate →
    ∃ name d, framed (creationFields name) ∈ texts ∧
      record.requestSha256 = requestFingerprint (creationFields name) ∧
      record.resourceId = some d.id ∧ db.datasets.get? d.id = some d ∧ d.name = name
  versions : ∀ record ∈ db.idempotency.rows, record.scope = .versionRegister →
    ∃ datasetId manifest id, framed (registrationFields datasetId manifest) ∈ texts ∧
      record.requestSha256 = requestFingerprint (registrationFields datasetId manifest) ∧
      record.resourceId = some id ∧ IsOf db id datasetId manifest.sha256
  manifests : ∀ v ∈ db.versions.rows, v.manifestBytes ∈ texts

theorem datasetRecord_of_effect (heffect : Effect env r op db) {record : IdempotencyRecordModel}
    (hrecord : record ∈ db.idempotency.rows) (hscope : record.scope = .datasetCreate) :
    record ∈ r.db.idempotency.rows ∨ ∃ name key sha d, op = .createDataset name key sha ∧
      record = datasetBinding key sha d ∧ db.datasets.get? d.id = some d ∧ d.name = name := by
  have hother : ∀ {record' : IdempotencyRecordModel},
      record ∈ (r.db.idempotency.insert record').rows → record'.scope ≠ .datasetCreate →
        record ∈ r.db.idempotency.rows := by
    intro record' hmem hne
    rcases Relation.mem_of_mem_insert hmem with hold | hnew
    · exact hold
    · rw [hnew] at hscope
      exact absurd hscope hne
  cases heffect with
  | datasetFound hd hname =>
      rcases Relation.mem_of_mem_insert hrecord with hold | hnew
      · exact .inl hold
      · exact .inr ⟨_, _, _, _, rfl, hnew, hd, hname⟩
  | datasetCreated hname hfree =>
      rcases Relation.mem_of_mem_insert hrecord with hold | hnew
      · exact .inl hold
      · exact .inr ⟨_, _, _, _, rfl, hnew, Relation.get?_insert_self hfree, rfl⟩
  | versionFound => exact .inl (hother hrecord nofun)
  | versionRegistered => exact .inl (hother hrecord nofun)
  | uploadBound => exact .inl (hother hrecord nofun)
  | sessionOpened => exact .inl (hother hrecord nofun)
  | uploadRestarted => exact .inl (hother hrecord nofun)
  | multipartBound => exact .inl (hother hrecord nofun)
  | multipartCreated => exact .inl (hother hrecord nofun)
  | admissionGranted => exact .inl (hother hrecord nofun)
  | admissionTaken => exact .inl (hother hrecord nofun)
  | admissionRenewed => exact .inl (hother hrecord nofun)
  | completionAccepted => exact .inl (hother hrecord nofun)
  | _ => exact .inl hrecord

theorem bound_start : Bound texts store.start.db := by
  refine ⟨?_, ?_, ?_⟩
  · intro record hrecord
    cases hrecord
  · intro record hrecord
    cases hrecord
  · intro v hv
    cases hv

/-- A named operation keeps every key bound. -/
theorem Bound.of_effect (h : Bound texts r.db) (heffect : Effect env r op db)
    (hextends : Extends r.db db) (hsealed : AllSealed r.db) (hnamed : Named texts op) :
    Bound texts db := by
  refine ⟨?_, ?_, ?_⟩
  · intro record hrecord hscope
    rcases datasetRecord_of_effect heffect hrecord hscope with
      hold | ⟨name, key, sha, d, rfl, rfl, hd, hname⟩
    · obtain ⟨name, d, htext, hsha, hresource, hd, hname⟩ := h.datasets record hold hscope
      obtain ⟨d', hd', rfl⟩ := hextends.datasets _ d hd
      exact ⟨name, d, htext, hsha, hresource, hd', hname⟩
    · exact ⟨name, d, hnamed.2, hnamed.1, rfl, hd, hname⟩
  · intro record hrecord hscope
    rcases record_of_effect heffect hrecord hscope with
      hold | ⟨datasetId, manifest, key, sha, v, rfl, rfl, hisOf⟩
    · obtain ⟨datasetId, manifest, id, htext, hsha, hresource, hisOf⟩ :=
        h.versions record hold hscope
      exact ⟨datasetId, manifest, id, htext, hsha, hresource, hisOf.later hextends hsealed⟩
    · exact ⟨datasetId, manifest, v.id, hnamed.2.1, hnamed.1, rfl, hisOf⟩
  · intro v hv
    rcases manifest_of_effect heffect hextends hsealed hv with
      ⟨v₀, hv₀, hbytes⟩ | ⟨datasetId, manifest, key, sha, rfl, hbytes⟩
    · rw [hbytes]
      exact h.manifests v₀ hv₀
    · rw [hbytes]
      exact hnamed.2.2

/-! ## Scenes of the services -/

/-- The registry has only seen named calls, and so it will. -/
structure OnlyNamed (texts : Set Bytes) (s : Scene) : Prop where
  reachable : store.Reachable s.registry
  bound : Bound texts s.registry.db
  others : ∀ n, ∀ c ∈ (s.turns n).others, Named texts c.operation

theorem bound_of_run {calls : List Call} (hreachable : store.Reachable r)
    (hbound : Bound texts r.db) (hcalls : ∀ c ∈ calls, Named texts c.operation) :
    Bound texts (store.runFrom r calls).db := by
  induction calls generalizing r with
  | nil => exact hbound
  | cons c calls ih =>
      rw [Machine.runFrom_cons]
      have hcommitted := committed_of_reachable hreachable
      refine ih (hreachable.step c) ?_ fun c' hc' => hcalls c' (List.mem_cons_of_mem c hc')
      exact hbound.of_effect (effect_of_step c r) (extends_of_step c hcommitted)
        hcommitted.sealed (hcalls c List.mem_cons_self)

theorem OnlyNamed.next {s : Scene} (h : OnlyNamed texts s) : OnlyNamed texts s.next :=
  ⟨Scene.next_reachable h.reachable, bound_of_run h.reachable h.bound (h.others 0),
    fun n => h.others (n + 1)⟩

theorem effect_of_call {α : Type} {tx : Tx α} {s : Scene} (op : Operation)
    (hop : operationTx op = effect tx) :
    Effect (s.turns 0).env s.next.registry op (Served.call tx s).2.registry.db := by
  have heffect := effect_of_step ⟨op, (s.turns 0).env⟩ s.next.registry
  have hstep : Call.step ⟨op, (s.turns 0).env⟩ s.next.registry =
      (Served.call tx s).2.registry := by
    change (transact (operationTx op) _ _).2 = (transact tx _ _).2
    rw [hop, transact_effect]
  rwa [hstep] at heffect

theorem OnlyNamed.call {α : Type} {tx : Tx α} {s : Scene} (h : OnlyNamed texts s) (op : Operation)
    (hop : operationTx op = effect tx) (hnamed : Named texts op) :
    OnlyNamed texts (Served.call tx s).2 := by
  have hcommitted := committed_of_reachable h.next.reachable
  refine ⟨Served.call_reachable op hop h.reachable, ?_, fun n => h.others (n + 1)⟩
  exact h.next.bound.of_effect (effect_of_call op hop) (extends_of_transact hcommitted.lawful)
    hcommitted.sealed hnamed

/-! ## What the registrations answer -/

variable {t t' : TxState}

theorem framed_creationFields {name name' : DatasetName}
    (h : framed (creationFields name) = framed (creationFields name')) : name = name' := by
  simp only [framed, creationFields, List.flatMap_cons, List.flatMap_nil, List.append_nil] at h
  obtain ⟨_, hvalue⟩ := List.append_inj h (by rw [length_bigEndian, length_bigEndian])
  exact DatasetName.ext (flatMap_utf8_injective hvalue)

theorem run_createDataset_ok (hbound : Bound texts t.db) {name : DatasetName} {key : String}
    {a : DatasetRecord} (htext : Distinguished texts (framed (creationFields name)))
    (h : run (RegistryService.createDataset name key) t = .ok (a, t')) :
    ∃ d, t'.db.datasets.get? d.id = some d ∧ d.name = name ∧ a = datasetRecord d := by
  simp only [RegistryService.createDataset, createDataset, run_select_bind] at h
  cases hkey : t.db.idempotency.get? (.datasetCreate, key) with
  | some record =>
      simp only [hkey, run_require_bind_ok, run_fetch_bind_ok, run_pure_ok] at h
      obtain ⟨hrequest, id, hid, d, hd, rfl, rfl⟩ := h
      have hscope : record.scope = .datasetCreate := congrArg Prod.fst (Relation.key_of_get? hkey)
      obtain ⟨name', d', htext', hsha, hresource, hd', hname⟩ :=
        hbound.datasets record (Relation.mem_of_get? hkey) hscope
      rw [hid, Option.some.injEq] at hresource
      rw [hresource, hd', Option.some.injEq] at hd
      subst hd
      have hsame := htext _ htext' (hsha.symm.trans hrequest)
      exact ⟨d', hd', hname.trans (framed_creationFields hsame), rfl⟩
  | none =>
      simp only [hkey, run_select_bind] at h
      cases hfound : t.db.datasets.rows.find? fun d => d.name = name with
      | some d =>
          simp only [hfound, run_pure_bind, run_perform_bind_ok, run_pure_ok] at h
          obtain ⟨t₁, hw, rfl, rfl⟩ := h
          obtain ⟨_, _, rfl⟩ := exec_insertIdempotency_ok.mp hw
          have hname := List.find?_some hfound
          simp only [decide_eq_true_eq] at hname
          exact ⟨d, Relation.get?_of_mem (List.mem_of_find?_eq_some hfound), hname, rfl⟩
      | none =>
          simp only [hfound, run_uuid4_bind, run_perform_bind_ok, run_pure_bind, run_pure_ok] at h
          obtain ⟨t₁, hw₁, t₂, hw₂, rfl, rfl⟩ := h
          obtain ⟨_, hfree, rfl⟩ := exec_insertDataset_ok.mp hw₁
          obtain ⟨_, _, rfl⟩ := exec_insertIdempotency_ok.mp hw₂
          exact ⟨_, Relation.get?_insert_self hfree, rfl, rfl⟩

/-- A registration answers with a stored Version: one of the Dataset with the digest of the
manifest, or the one that its key is bound to. -/
theorem run_registerVersion_stored {datasetId : UUID} {manifest : Manifest} {key : String}
    {a : VersionRecord}
    (h : run (RegistryService.registerVersion datasetId manifest key) t = .ok (a, t')) :
    ∃ canonical v d, Manifest.fromCanonicalBytes manifest.canonicalBytes = .ok canonical ∧
      canonical.sha256 = manifest.sha256 ∧ t'.db.versions.get? v.id = some v ∧
      t.db.datasets.get? datasetId = some d ∧ a = versionRecord v d.name ∧
      ((v.datasetId = datasetId ∧ v.manifestSha256 = manifest.sha256) ∨
        ∃ record, t.db.idempotency.get? (.versionRegister, key) = some record ∧
          record.requestSha256 = requestFingerprint (registrationFields datasetId manifest) ∧
          record.resourceId = some v.id ∧ t.db.versions.get? v.id = some v) := by
  simp only [RegistryService.registerVersion, registerVersion, run_ofExcept_bind_ok,
    run_require_bind_ok, run_fetch_bind_ok, run_select_bind] at h
  obtain ⟨canonical, hcanonical, hsha, d, hd, h⟩ := h
  cases hkey : t.db.idempotency.get? (.versionRegister, key) with
  | some record =>
      simp only [hkey, run_require_bind_ok, run_fetch_bind_ok, run_pure_ok] at h
      obtain ⟨hrequest, id, hid, v, hv, rfl, rfl⟩ := h
      have hsame : v.id = id := Relation.key_of_get? hv
      rw [← hsame] at hv hid
      exact ⟨canonical, v, d, hcanonical, hsha, hv, hd, rfl, .inr ⟨record, rfl, hrequest, hid, hv⟩⟩
  | none =>
      simp only [hkey, run_select_bind] at h
      cases hfound : t.db.versions.rows.find? fun v =>
          v.datasetId = datasetId ∧ v.manifestSha256 = canonical.sha256 with
      | some v =>
          simp only [hfound, run_pure_bind, run_perform_bind_ok, run_pure_ok] at h
          obtain ⟨t₁, hw, rfl, rfl⟩ := h
          obtain ⟨_, _, rfl⟩ := exec_insertIdempotency_ok.mp hw
          have hmatch := List.find?_some hfound
          simp only [decide_eq_true_eq] at hmatch
          exact ⟨canonical, v, d, hcanonical, hsha,
            Relation.get?_of_mem (List.mem_of_find?_eq_some hfound), hd, rfl,
            .inl ⟨hmatch.1, hmatch.2.trans hsha⟩⟩
      | none =>
          simp only [hfound] at h
          obtain ⟨v, t₁, sealedAt, news, h, hv, hfree, hdb, _⟩ := run_sealVersion_bind_ok h
          simp only [run_perform_bind_ok, run_pure_ok] at h
          obtain ⟨t₂, hw, rfl, rfl⟩ := h
          obtain ⟨_, _, rfl⟩ := exec_insertIdempotency_ok.mp hw
          refine ⟨canonical, v, d, hcanonical, hsha, ?_, hd, rfl, .inl ⟨?_, ?_⟩⟩
          · simp only
            rw [hdb]
            exact Relation.get?_insert_self hfree
          · rw [hv]
            rfl
          · rw [hv]
            exact hsha

theorem run_registerVersion_record (hbound : Bound texts t.db) {datasetId : UUID}
    {manifest : Manifest} {key : String} {a : VersionRecord}
    (htext : Distinguished texts (framed (registrationFields datasetId manifest)))
    (h : run (RegistryService.registerVersion datasetId manifest key) t = .ok (a, t')) :
    ∃ canonical v d, Manifest.fromCanonicalBytes manifest.canonicalBytes = .ok canonical ∧
      canonical.sha256 = manifest.sha256 ∧ t'.db.versions.get? v.id = some v ∧
      v.datasetId = datasetId ∧ v.manifestSha256 = manifest.sha256 ∧
      t.db.datasets.get? datasetId = some d ∧ a = versionRecord v d.name := by
  obtain ⟨canonical, v, d, hcanonical, hsha, hv', hd, ha, hsource⟩ := run_registerVersion_stored h
  rcases hsource with hmatch | ⟨record, hkey, hrequest, hid, hv⟩
  · exact ⟨canonical, v, d, hcanonical, hsha, hv', hmatch.1, hmatch.2, hd, ha⟩
  · have hscope : record.scope = .versionRegister := congrArg Prod.fst (Relation.key_of_get? hkey)
    obtain ⟨datasetId', manifest', id', htext', hrequest', hresource, v', hv'', hdataset,
      hdigest⟩ := hbound.versions record (Relation.mem_of_get? hkey) hscope
    rw [hid, Option.some.injEq] at hresource
    rw [← hresource, hv, Option.some.injEq] at hv''
    subst hv''
    -- The key is bound to a request of the same fields, so to the same Dataset and digest.
    obtain ⟨rfl, hsame, _⟩ :=
      framed_registrationFields (htext _ htext' (hrequest'.symm.trans hrequest))
    exact ⟨canonical, v, d, hcanonical, hsha, hv', hdataset, hdigest.trans hsame, hd, ha⟩

theorem run_finalizeVersion_ok {versionId : UUID} {a : VersionRecord}
    (h : run (finalizeVersion versionId) t = .ok (a, t')) :
    ∃ v d, v.id = versionId ∧ t'.db.versions.get? v.id = some v ∧ v.state = .ready ∧
      t.db.datasets.get? v.datasetId = some d ∧ a = versionRecord v d.name := by
  simp only [finalizeVersion, fetchDataset, run_fetch_bind_ok] at h
  obtain ⟨v, hv, d, hd, hrun⟩ := h
  obtain rfl : v.id = versionId := Relation.key_of_get? hv
  by_cases hready : v.state = .ready
  · rw [if_pos hready, run_pure_ok] at hrun
    obtain ⟨rfl, rfl⟩ := hrun
    exact ⟨v, d, rfl, hv, hready, hd, rfl⟩
  · rw [if_neg hready] at hrun
    simp only [run_require_bind_ok, run_ofExcept_bind_ok, run_select_bind, run_utcNow_bind] at hrun
    obtain ⟨_, canonical, _, _, _, hrun⟩ := hrun
    obtain ⟨_, hrun⟩ := run_flushVersion_bind_ok hrun
    obtain ⟨_, hrun⟩ := run_flushVersion_bind_ok hrun
    obtain ⟨rfl, rfl⟩ := run_pure_ok.mp hrun
    refine ⟨{ v with
      state := .ready
      verifyingAt := some (t.wall 0)
      readyAt := some (t.wall 0) }, d, rfl, ?_, rfl, hd, rfl⟩
    simp only
    rw [Relation.replace_replace]
    · exact Relation.get?_replace_self hv
    · rfl

end RoboLake
