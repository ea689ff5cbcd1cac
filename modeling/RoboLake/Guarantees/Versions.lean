import RoboLake.Application.Registration
import RoboLake.Registry.Accepted
import RoboLake.Registry.Numbering
import RoboLake.Registry.Registrations

/-! # Identity of Versions

A Version is its Dataset and its canonical bytes, whatever key asked for it: the
replay of a key, the match of a manifest and a new row agree. The Versions of a
Dataset are numbered as they are first registered, and a call that raises leaves no
trace.
-/

namespace RoboLake

open Foundation Store Work Migrations

section Versions

variable [Platform] {env : Env} {r : Registry} {op : Operation} {db : Database}
  {calls : List Call}

/-! ## Runs of the service -/

/-- Some call of the run registers the manifest in the Dataset. -/
def Names (calls : List Call) (datasetId : UUID) (manifest : Manifest) : Prop :=
  ∃ c ∈ calls, ∃ key sha, c.operation = .registerVersion datasetId manifest key sha

/-- Every registration of the run comes with the fingerprint of its fields. -/
def ThroughService (calls : List Call) : Prop :=
  ∀ c ∈ calls, ∀ datasetId manifest key sha,
    c.operation = .registerVersion datasetId manifest key sha →
      sha = requestFingerprint (registrationFields datasetId manifest)

def hashedTexts (calls : List Call) : Set Bytes :=
  {x | ∃ datasetId manifest, Names calls datasetId manifest ∧
    (x = manifest.canonicalBytes ∨ x = framed (registrationFields datasetId manifest))}

def Registers (e : Registry × Call) (datasetId : UUID) (manifest : Manifest) (a : VersionRecord) :
    Prop :=
  ∃ key, e.2.operation = .registerVersion datasetId manifest key
      (requestFingerprint (registrationFields datasetId manifest)) ∧
    (transact (RegistryService.registerVersion datasetId manifest key) e.2.env e.1).1 = .ok a

/-! ## Bound keys -/

def IsOf (db : Database) (id datasetId : UUID) (sha : Sha256Digest) : Prop :=
  ∃ v, db.versions.get? id = some v ∧ v.datasetId = datasetId ∧ v.manifestSha256 = sha

theorem IsOf.later {db' : Database} {id datasetId : UUID} {sha : Sha256Digest}
    (h : IsOf db id datasetId sha) (hextends : Extends db db') (hsealed : AllSealed db) :
    IsOf db' id datasetId sha := by
  obtain ⟨v, hv, hdataset, hsha⟩ := h
  obtain ⟨v', hv', hlater⟩ := hextends.versions _ v hv
  obtain ⟨hdataset', _, _, _, hsha', _⟩ := hlater.content (hsealed v (Relation.mem_of_get? hv))
  exact ⟨v', hv', hdataset'.trans hdataset, hsha'.trans hsha⟩

/-- Every registration key is bound to the request of some call, and every Version stores the
manifest of some call. -/
structure RunBound (calls : List Call) (db : Database) : Prop where
  records : ∀ record ∈ db.idempotency.rows, record.scope = .versionRegister →
    ∃ datasetId manifest id, Names calls datasetId manifest ∧
      record.requestSha256 = requestFingerprint (registrationFields datasetId manifest) ∧
      record.resourceId = some id ∧ IsOf db id datasetId manifest.sha256
  manifests : ∀ v ∈ db.versions.rows, ∃ datasetId manifest, Names calls datasetId manifest ∧
    v.manifestBytes = manifest.canonicalBytes

/-- A record of the registration scope after a step was there before, or the step wrote it. -/
theorem record_of_effect (heffect : Effect env r op db) {record : IdempotencyRecordModel}
    (hrecord : record ∈ db.idempotency.rows) (hscope : record.scope = .versionRegister) :
    record ∈ r.db.idempotency.rows ∨ ∃ datasetId manifest key sha v,
      op = .registerVersion datasetId manifest key sha ∧ record = versionBinding key sha v ∧
        IsOf db v.id datasetId manifest.sha256 := by
  have hother : ∀ {record' : IdempotencyRecordModel},
      record ∈ (r.db.idempotency.insert record').rows → record'.scope ≠ .versionRegister →
        record ∈ r.db.idempotency.rows := by
    intro record' hmem hne
    rcases Relation.mem_of_mem_insert hmem with hold | hnew
    · exact hold
    · rw [hnew] at hscope
      exact absurd hscope hne
  cases heffect with
  | datasetFound => exact .inl (hother hrecord nofun)
  | datasetCreated => exact .inl (hother hrecord nofun)
  | versionFound hv hdataset hsha _ =>
      rcases Relation.mem_of_mem_insert hrecord with hold | hnew
      · exact .inl hold
      · exact .inr ⟨_, _, _, _, _, rfl, hnew, _, hv, hdataset, hsha⟩
  | @versionRegistered datasetId m canonical _ _ v _ _ _ _ hcanonical hsha hv hfree =>
      rcases Relation.mem_of_mem_insert hrecord with hold | hnew
      · exact .inl hold
      · refine .inr ⟨_, _, _, _, _, rfl, hnew, v, Relation.get?_insert_self hfree, ?_, ?_⟩
        · rw [hv]
          rfl
        · rw [hv]
          exact hsha
  | uploadBound => exact .inl (hother hrecord nofun)
  | sessionOpened => exact .inl (hother hrecord nofun)
  | uploadRestarted => exact .inl (hother hrecord nofun)
  | multipartBound => exact .inl (hother hrecord nofun)
  | multipartCreated => exact .inl (hother hrecord nofun)
  | admissionGranted => exact .inl (hother hrecord nofun)
  | admissionTaken => exact .inl (hother hrecord nofun)
  | admissionRenewed => exact .inl (hother hrecord nofun)
  | completionAccepted => exact .inl (hother hrecord nofun)
  | _ => exact .inl hrecord

theorem manifest_of_effect (heffect : Effect env r op db) (hextends : Extends r.db db)
    (hsealed : AllSealed r.db) {v : DatasetVersionModel} (hv : v ∈ db.versions.rows) :
    (∃ v₀ ∈ r.db.versions.rows, v.manifestBytes = v₀.manifestBytes) ∨
      ∃ datasetId manifest key sha, op = .registerVersion datasetId manifest key sha ∧
        v.manifestBytes = manifest.canonicalBytes := by
  have hget : db.versions.get? v.id = some v := Relation.get?_of_mem hv
  cases hold : r.db.versions.get? v.id with
  | some v₀ =>
      obtain ⟨v', hv', hlater⟩ := hextends.versions _ v₀ hold
      rw [hget] at hv'
      cases hv'
      have hmem := Relation.mem_of_get? hold
      exact .inl ⟨v₀, hmem, (hlater.content (hsealed v₀ hmem)).2.2.2.1⟩
  | none =>
      obtain ⟨datasetId, manifest, key, sha, canonical, _, _, _, _, hcall, hcanonical, _, hrow,
        _⟩ :=
        registration_of_effect heffect hv hold
      refine .inr ⟨datasetId, manifest, key, sha, hcall, ?_⟩
      rw [hrow]
      exact Manifest.canonicalBytes_of_fromCanonicalBytes hcanonical

theorem runBound_of_effect (heffect : Effect env r op db) (hextends : Extends r.db db)
    (hsealed : AllSealed r.db)
    (hop : ∀ datasetId manifest key sha, op = .registerVersion datasetId manifest key sha →
      Names calls datasetId manifest ∧
        sha = requestFingerprint (registrationFields datasetId manifest))
    (h : RunBound calls r.db) : RunBound calls db := by
  constructor
  · intro record hrecord hscope
    rcases record_of_effect heffect hrecord hscope with
      hold | ⟨datasetId, manifest, key, sha, v, hcall, hnew, hisOf⟩
    · obtain ⟨datasetId, manifest, id, hnames, hsha, hresource, hisOf⟩ :=
        h.records record hold hscope
      exact ⟨datasetId, manifest, id, hnames, hsha, hresource, hisOf.later hextends hsealed⟩
    · obtain ⟨hnames, hsha⟩ := hop _ _ _ _ hcall
      refine ⟨datasetId, manifest, v.id, hnames, ?_, ?_, hisOf⟩
      · rw [hnew]
        exact hsha
      · rw [hnew]
        rfl
  · intro v hv
    rcases manifest_of_effect heffect hextends hsealed hv with
      ⟨v₀, hv₀, hbytes⟩ | ⟨datasetId, manifest, key, sha, hcall, hbytes⟩
    · obtain ⟨datasetId, manifest, hnames, hbytes₀⟩ := h.manifests v₀ hv₀
      exact ⟨datasetId, manifest, hnames, hbytes.trans hbytes₀⟩
    · exact ⟨datasetId, manifest, (hop _ _ _ _ hcall).1, hbytes⟩

/-! ## What a call returns -/

theorem run_registerVersion_ok {datasetId : UUID} {manifest : Manifest} {key : String}
    {sha : Sha256Digest} {t t' : TxState} {a : VersionRecord}
    (h : run (registerVersion datasetId manifest key sha) t = .ok (a, t')) :
    ∃ canonical, Manifest.fromCanonicalBytes manifest.canonicalBytes = .ok canonical ∧
      canonical.sha256 = manifest.sha256 ∧ (IsOf t'.db a.id datasetId manifest.sha256 ∨
        ∃ record, t.db.idempotency.get? (.versionRegister, key) = some record ∧
          record.requestSha256 = sha ∧ record.resourceId = some a.id ∧ t' = t) := by
  simp only [registerVersion, run_ofExcept_bind_ok, run_require_bind_ok, run_fetch_bind_ok,
    run_select_bind] at h
  obtain ⟨canonical, hcanonical, hsha, _, _, h⟩ := h
  refine ⟨canonical, hcanonical, hsha, ?_⟩
  cases hkey : t.db.idempotency.get? (.versionRegister, key) with
  | some record =>
      simp only [hkey, run_require_bind_ok, run_fetch_bind_ok, run_pure_ok] at h
      obtain ⟨hrequest, id, hid, v, hv, rfl, rfl⟩ := h
      have hvid : v.id = id := Relation.key_of_get? hv
      refine .inr ⟨record, rfl, hrequest, ?_, rfl⟩
      rw [hid, ← hvid]
      rfl
  | none =>
      left
      simp only [hkey, run_select_bind] at h
      cases hfound : t.db.versions.rows.find? fun v =>
          v.datasetId = datasetId ∧ v.manifestSha256 = canonical.sha256 with
      | some v =>
          simp only [hfound, run_pure_bind, run_perform_bind_ok, run_pure_ok] at h
          obtain ⟨t₁, hw, rfl, rfl⟩ := h
          obtain ⟨_, _, rfl⟩ := exec_insertIdempotency_ok.mp hw
          have hmatch := List.find?_some hfound
          simp only [decide_eq_true_eq] at hmatch
          have hget : t.db.versions.get? v.id = some v :=
            Relation.get?_of_mem (List.mem_of_find?_eq_some hfound)
          exact ⟨v, hget, hmatch.1, hmatch.2.trans hsha⟩
      | none =>
          simp only [hfound] at h
          obtain ⟨v, t₁, sealedAt, news, h, hv, hfree, hdb, _⟩ := run_sealVersion_bind_ok h
          simp only [run_perform_bind_ok, run_pure_ok] at h
          obtain ⟨t₂, hw, rfl, rfl⟩ := h
          obtain ⟨_, _, rfl⟩ := exec_insertIdempotency_ok.mp hw
          refine ⟨v, ?_, ?_, ?_⟩
          · simp only
            rw [hdb]
            exact Relation.get?_insert_self hfree
          · rw [hv]
            rfl
          · rw [hv]
            exact hsha

theorem step_of_operation {c : Call} {datasetId : UUID} {manifest : Manifest} {key : String}
    {sha : Sha256Digest} (hop : c.operation = .registerVersion datasetId manifest key sha) :
    c.step r = (transact (registerVersion datasetId manifest key sha) c.env r).2 := by
  unfold Call.step
  rw [hop]
  change (transact (effect (registerVersion datasetId manifest key sha)) c.env r).2 = _
  rw [transact_effect]

theorem sha256_of_fromCanonicalBytes {data : Bytes} {m : Manifest}
    (h : Manifest.fromCanonicalBytes data = .ok m) : m.sha256 = sha256 data := by
  obtain ⟨hbytes, entries, hbuild⟩ := Manifest.fromCanonicalBytes_spec h
  rw [(Manifest.build_spec hbuild).2.2.1, hbytes]

/-- A registration in a run of the service returns the Version of its Dataset and manifest. -/
theorem isOf_of_registers {e : Registry × Call} (hbound : RunBound calls e.1.db)
    (hinj : Set.InjOn sha256 (hashedTexts calls)) {datasetId : UUID} {manifest : Manifest}
    {a : VersionRecord} (hnames : Names calls datasetId manifest)
    (h : Registers e datasetId manifest a) :
    IsOf (e.2.step e.1).db a.id datasetId manifest.sha256 ∧
      manifest.sha256 = sha256 manifest.canonicalBytes := by
  obtain ⟨key, hop, hreturned⟩ := h
  obtain ⟨t, hrun, hlast⟩ := returned_of_transact hreturned
  obtain ⟨canonical, hcanonical, hsha, hreturn⟩ := run_registerVersion_ok hrun
  have hstep : (e.2.step e.1).db = t.db := by
    rw [step_of_operation hop]
    exact congrArg Registry.db hlast
  refine ⟨?_, hsha.symm.trans (sha256_of_fromCanonicalBytes hcanonical)⟩
  rw [hstep]
  rcases hreturn with hnew | ⟨record, hrecord, hrequest, hresource, rfl⟩
  · exact hnew
  · have hmem : record ∈ e.1.db.idempotency.rows := Relation.mem_of_get? hrecord
    have hkey := Relation.key_of_get? hrecord
    have hscope : record.scope = .versionRegister := congrArg Prod.fst hkey
    obtain ⟨datasetId', manifest', id, hnames', hrequest', hresource', hisOf⟩ :=
      hbound.records record hmem hscope
    -- The key is bound to a request of the same fields, so to the same Dataset and digest.
    have htext : framed (registrationFields datasetId' manifest') =
        framed (registrationFields datasetId manifest) :=
      hinj ⟨_, _, hnames', .inr rfl⟩ ⟨_, _, hnames, .inr rfl⟩ (hrequest'.symm.trans hrequest)
    obtain ⟨hdataset, hdigest, _⟩ := framed_registrationFields htext
    rw [hresource] at hresource'
    cases hresource'
    rw [← hdataset, ← hdigest]
    exact hisOf

/-! ## Runs -/

theorem runBound_of_step (hservice : ThroughService calls) (hreachable : store.Reachable r)
    (hbound : RunBound calls r.db) {c : Call} (hc : c ∈ calls) : RunBound calls (c.step r).db := by
  have hcommitted := committed_of_reachable hreachable
  refine runBound_of_effect (effect_of_step c r) (extends_of_step c hcommitted) hcommitted.sealed
    ?_ hbound
  intro datasetId manifest key sha hop
  exact ⟨⟨c, hc, key, sha, hop⟩, hservice c hc _ _ _ _ hop⟩

theorem runBound_of_visited (hservice : ThroughService calls) :
    ∀ x ∈ store.visited store.start calls, RunBound calls x.db := by
  have hstart : RunBound calls store.start.db := by
    constructor
    · intro record hrecord
      cases hrecord
    · intro v hv
      cases hv
  exact Machine.forall_visited (P := fun x => RunBound calls x.db) (G := fun _ c => c ∈ calls)
    (fun _ _ hx hbound hc => runBound_of_step hservice hx hbound hc) store.reachable_start hstart
    (fun e he => (Machine.mem_of_mem_steps he).2)

theorem rest_of_step {e : Registry × Call} (he : e ∈ store.steps store.start calls) :
    store.Reachable (e.2.step e.1) ∧ ∃ after,
      store.runFrom store.start calls = store.runFrom (e.2.step e.1) after := by
  obtain ⟨before, after, hcalls, hbefore⟩ := Machine.split_of_mem_steps he
  have hreachable : store.Reachable e.1 := ⟨before, hbefore.symm⟩
  refine ⟨hreachable.step e.2, after, ?_⟩
  conv_lhs => rw [hcalls, Machine.runFrom_append, ← hbefore]
  rfl

theorem ids_prefix_of_step {e : Registry × Call} (he : e ∈ store.steps store.start calls) :
    (e.2.step e.1).db.versions.rows.map DatasetVersionModel.id <+:
      (store.runFrom store.start calls).db.versions.rows.map DatasetVersionModel.id := by
  obtain ⟨hnext, after, hrest⟩ := rest_of_step he
  rw [hrest]
  exact versions_prefix_of_run hnext after

theorem isOf_last (hservice : ThroughService calls)
    (hinj : Set.InjOn sha256 (hashedTexts calls)) {e : Registry × Call}
    (he : e ∈ store.steps store.start calls) {datasetId : UUID} {manifest : Manifest}
    {a : VersionRecord} (h : Registers e datasetId manifest a) :
    IsOf (store.runFrom store.start calls).db a.id datasetId manifest.sha256 ∧
      manifest.sha256 = sha256 manifest.canonicalBytes ∧ Names calls datasetId manifest := by
  obtain ⟨hvisited, hc⟩ := Machine.mem_of_mem_steps he
  obtain ⟨key, hop, _⟩ := id h
  have hnames : Names calls datasetId manifest := ⟨e.2, hc, _, _, hop⟩
  obtain ⟨hisOf, hsha⟩ :=
    isOf_of_registers (runBound_of_visited hservice e.1 hvisited) hinj hnames h
  obtain ⟨hnext, after, hrest⟩ := rest_of_step he
  rw [hrest]
  exact ⟨hisOf.later (extends_of_run_store hnext after) (committed_of_reachable hnext).sealed,
    hsha, hnames⟩

/-- Two registrations return one Version exactly when Dataset and canonical bytes agree. -/
theorem same_version_iff (hservice : ThroughService calls)
    (hinj : Set.InjOn sha256 (hashedTexts calls)) {e e' : Registry × Call}
    (he : e ∈ store.steps store.start calls) (he' : e' ∈ store.steps store.start calls)
    {datasetId datasetId' : UUID} {manifest manifest' : Manifest} {a a' : VersionRecord}
    (h : Registers e datasetId manifest a) (h' : Registers e' datasetId' manifest' a') :
    a.id = a'.id ↔ datasetId = datasetId' ∧ manifest.canonicalBytes = manifest'.canonicalBytes := by
  obtain ⟨⟨v, hv, hdataset, hsha⟩, hdigest, hnames⟩ := isOf_last hservice hinj he h
  obtain ⟨⟨v', hv', hdataset', hsha'⟩, hdigest', hnames'⟩ := isOf_last hservice hinj he' h'
  constructor
  · intro hid
    rw [hid, hv'] at hv
    cases hv
    refine ⟨hdataset.symm.trans hdataset', hinj ⟨_, _, hnames, .inl rfl⟩
      ⟨_, _, hnames', .inl rfl⟩ ?_⟩
    rw [← hdigest, ← hdigest', ← hsha, hsha']
  · intro hsame
    obtain ⟨hdatasets, hbytes⟩ := hsame
    have hreachable : store.Reachable (store.runFrom store.start calls) := ⟨calls, rfl⟩
    have hdigests : manifest.sha256 = manifest'.sha256 := by
      rw [hdigest, hdigest', hbytes]
    have hrow : v = v' := (committed_of_reachable hreachable).lawful.version_manifest v
      (Relation.mem_of_get? hv) v' (Relation.mem_of_get? hv')
      (v'.datasetId, v'.manifestSha256)
      (congrArg some (Prod.ext (hdataset.trans (hdatasets.trans hdataset'.symm))
        (hsha.trans (hdigests.trans hsha'.symm)))) rfl
    have hvid : v.id = a.id := Relation.key_of_get? hv
    have hvid' : v'.id = a'.id := Relation.key_of_get? hv'
    rw [← hvid, ← hvid', hrow]

theorem registers_of_added (hservice : ThroughService calls) {e : Registry × Call}
    (he : e ∈ store.steps store.start calls) {v : DatasetVersionModel}
    (hv : v ∈ (e.2.step e.1).db.versions.rows) (hnew : e.1.db.versions.get? v.id = none) :
    ∃ manifest a, Registers e v.datasetId manifest a ∧ a.id = v.id := by
  have hc := (Machine.mem_of_mem_steps he).2
  have hnext := (rest_of_step he).1
  obtain ⟨datasetId, manifest, key, sha, canonical, id, number, sealedAt, news, hop, hcanonical,
    hsha, hrow, _⟩ := registration_of_effect (effect_of_step e.2 e.1) hv hnew
  have hdataset : v.datasetId = datasetId := by
    rw [hrow]
    rfl
  have hdigest : v.manifestSha256 = manifest.sha256 := by
    rw [hrow]
    exact hsha
  have hfields := hservice e.2 hc _ _ _ _ hop
  subst hfields
  have hstep := step_of_operation (r := e.1) hop
  rcases transact_cases (RegistryService.registerVersion datasetId manifest key) e.2.env e.1 with
    ⟨_, hunchanged⟩ | ⟨a, t, t', hreturned, hrun, _, hlast⟩
  · have hget : (e.2.step e.1).db.versions.get? v.id = some v := Relation.get?_of_mem hv
    have hsame : (e.2.step e.1).db = e.1.db := by
      rw [hstep]
      exact hunchanged
    rw [hsame, hnew] at hget
    cases hget
  · have hlast : (e.2.step e.1).db = t.db := by
      rw [hstep]
      exact hlast
    obtain ⟨_, _, _, hreturn⟩ := run_registerVersion_ok hrun
    rw [hdataset]
    refine ⟨manifest, a, ⟨key, hop, hreturned⟩, ?_⟩
    rcases hreturn with ⟨v', hv', hdataset', hdigest'⟩ | ⟨_, _, _, _, hsame⟩
    · rw [← hlast] at hv'
      have hvid : v'.id = a.id := Relation.key_of_get? hv'
      have hrows : v' = v := (committed_of_reachable hnext).lawful.version_manifest v'
        (Relation.mem_of_get? hv') v hv (v.datasetId, v.manifestSha256)
        (congrArg some (Prod.ext (hdataset'.trans hdataset.symm)
          (hdigest'.trans hdigest.symm))) rfl
      rw [← hvid, hrows]
    · have hget : (e.2.step e.1).db.versions.get? v.id = some v := Relation.get?_of_mem hv
      rw [hlast, hsame] at hget
      have hold : e.1.db.versions.get? v.id = some v := hget
      rw [hnew] at hold
      cases hold

/-- Every Version of a run was added by the first registration that returned it. -/
theorem first_registration (hservice : ThroughService calls) {v : DatasetVersionModel}
    (hv : v ∈ (store.runFrom store.start calls).db.versions.rows) :
    ∃ e ∈ store.steps store.start calls, ∃ manifest a, Registers e v.datasetId manifest a ∧
      a.id = v.id ∧ e.1.db.versions.get? v.id = none ∧
      (e.2.step e.1).db.versions.rows.map DatasetVersionModel.id =
        e.1.db.versions.rows.map DatasetVersionModel.id ++ [v.id] := by
  let P (x : Registry) : Prop := x.db.versions.get? v.id ≠ none
  have hlast : P (store.runFrom store.start calls) := by
    have hget : (store.runFrom store.start calls).db.versions.get? v.id = some v :=
      Relation.get?_of_mem hv
    intro hnone
    rw [hget] at hnone
    cases hnone
  rcases Machine.exists_step_of_runFrom (P := P) hlast with
    hstart | ⟨e, he, hbefore, hafter⟩
  · exact absurd rfl hstart
  · have hnew : e.1.db.versions.get? v.id = none := not_not.mp hbefore
    obtain ⟨v₀, hv₀⟩ := Option.ne_none_iff_exists'.mp hafter
    have hid : v₀.id = v.id := Relation.key_of_get? hv₀
    have hmem : v₀ ∈ (e.2.step e.1).db.versions.rows := Relation.mem_of_get? hv₀
    have hdataset : v.datasetId = v₀.datasetId := by
      obtain ⟨hnext, after, hrest⟩ := rest_of_step he
      obtain ⟨v₁, hv₁, hlater⟩ := (extends_of_run_store hnext after).versions _ v₀ hv₀
      have hget : (store.runFrom store.start calls).db.versions.get? v.id = some v :=
        Relation.get?_of_mem hv
      rw [← hrest, hget] at hv₁
      cases hv₁
      exact (hlater.content ((committed_of_reachable hnext).sealed v₀ hmem)).1
    obtain ⟨manifest, a, hregisters, ha⟩ :=
      registers_of_added hservice he hmem (hid.symm ▸ hnew)
    refine ⟨e, he, manifest, a, hdataset ▸ hregisters, ha.trans hid, hnew, ?_⟩
    cases versionsGrown_of_effect (effect_of_step e.2 e.1) with
    | kept hids =>
        have hkept : v.id ∈ e.1.db.versions.rows.map DatasetVersionModel.id := by
          rw [← hids, ← hid]
          exact List.mem_map_of_mem hmem
        obtain ⟨v₁, hv₁, hid₁⟩ := List.mem_map.mp hkept
        have hget : e.1.db.versions.get? v₁.id = some v₁ := Relation.get?_of_mem hv₁
        rw [hid₁, hnew] at hget
        cases hget
    | @appended w hrows _ =>
        have hlast : v₀ ∈ e.1.db.versions.rows ++ [w] := hrows ▸ hmem
        rcases List.mem_append.mp hlast with hold | hw
        · have hget : e.1.db.versions.get? v₀.id = some v₀ := Relation.get?_of_mem hold
          rw [hid, hnew] at hget
          cases hget
        · rw [List.mem_singleton] at hw
          rw [hrows, ← hw, List.map_append, ← hid]
          rfl

/-! ## Refusals -/

/-- The registrations that must raise: an unknown Dataset, a key bound to another request, and a
digest that a stored Version names with another size. -/
inductive Refused (db : Database) (datasetId : UUID) (manifest : Manifest) (key : String) : Prop
  | unknownDataset (h : db.datasets.get? datasetId = none)
  | boundKey {record : IdempotencyRecordModel}
      (h : db.idempotency.get? (.versionRegister, key) = some record)
      (hne : record.requestSha256 ≠ requestFingerprint (registrationFields datasetId manifest))
  | twoSizes {v : DatasetVersionModel} {m canonical : Manifest} {x y : ManifestEntry}
      (hv : v ∈ db.versions.rows) (hm : Manifest.fromCanonicalBytes v.manifestBytes = .ok m)
      (hcanonical : Manifest.fromCanonicalBytes manifest.canonicalBytes = .ok canonical)
      (hx : x ∈ m.entries) (hy : y ∈ canonical.entries) (hdigest : x.sha256 = y.sha256)
      (hsize : x.sizeBytes ≠ y.sizeBytes)

theorem size_of_digest (h : store.Reachable r) {v v' : DatasetVersionModel} {m m' : Manifest}
    (hv : v ∈ r.db.versions.rows) (hv' : v' ∈ r.db.versions.rows)
    (hm : Manifest.fromCanonicalBytes v.manifestBytes = .ok m)
    (hm' : Manifest.fromCanonicalBytes v'.manifestBytes = .ok m') {x y : ManifestEntry}
    (hx : x ∈ m.entries) (hy : y ∈ m'.entries) (hdigest : x.sha256 = y.sha256) :
    x.sizeBytes = y.sizeBytes := by
  obtain ⟨m₁, hm₁⟩ := registered_of_reachable h v hv
  obtain ⟨m₂, hm₂⟩ := registered_of_reachable h v' hv'
  have hmanifest : m₁ = m := Except.ok.inj (hm₁.loads.symm.trans hm)
  have hmanifest' : m₂ = m' := Except.ok.inj (hm₂.loads.symm.trans hm')
  rw [hmanifest] at hm₁
  rw [hmanifest'] at hm₂
  obtain ⟨b, _, hb, hsha, hsize⟩ := carried_of_mem hm₁.carries hx
  obtain ⟨b', _, hb', hsha', hsize'⟩ := carried_of_mem hm₂.carries hy
  have hrow : b = b' := (committed_of_reachable h).lawful.blob_digest b hb b' hb' b'.sha256
    (congrArg some (hsha.trans (hdigest.trans hsha'.symm))) rfl
  rw [← hsize, ← hsize', hrow]

theorem raises_of_refused (hservice : ThroughService calls)
    (hinj : Set.InjOn sha256 (hashedTexts calls)) {e : Registry × Call}
    (he : e ∈ store.steps store.start calls) {datasetId : UUID} {manifest : Manifest}
    {key : String} (hop : e.2.operation = .registerVersion datasetId manifest key
      (requestFingerprint (registrationFields datasetId manifest)))
    (hrefused : Refused e.1.db datasetId manifest key) :
    ∃ failure, (transact (RegistryService.registerVersion datasetId manifest key) e.2.env
      e.1).1 = .error failure := by
  cases hresult : (transact (RegistryService.registerVersion datasetId manifest key) e.2.env
      e.1).1 with
  | error failure => exact ⟨failure, rfl⟩
  | ok a =>
      exfalso
      obtain ⟨t, hrun, hlast⟩ := returned_of_transact hresult
      have hreads := hrun
      simp only [RegistryService.registerVersion, registerVersion, run_ofExcept_bind_ok,
        run_require_bind_ok, run_fetch_bind_ok, run_select_bind] at hreads
      obtain ⟨_, _, _, dataset, hdataset, hreads⟩ := hreads
      cases hrefused with
      | unknownDataset h =>
          have hnone : (beginTx e.2.env e.1).db.datasets.get? datasetId = none := h
          rw [hnone] at hdataset
          cases hdataset
      | @boundKey record h hne =>
          have hkey : (beginTx e.2.env e.1).db.idempotency.get? (.versionRegister, key) =
            some record := h
          rw [hkey] at hreads
          simp only [run_require_bind_ok] at hreads
          exact hne hreads.1
      | @twoSizes v m canonical x y hv hm hcanonical hx hy hdigest hsize =>
          obtain ⟨hvisited, hc⟩ := Machine.mem_of_mem_steps he
          have hreachable := Machine.reachable_of_mem_visited store.reachable_start hvisited
          have hnext := (rest_of_step he).1
          have hnames : Names calls datasetId manifest := ⟨e.2, hc, _, _, hop⟩
          have hbound := runBound_of_visited hservice e.1 hvisited
          obtain ⟨⟨w, hw, _, hsha⟩, hmanifest⟩ :=
            isOf_of_registers hbound hinj hnames ⟨key, hop, hresult⟩
          have hwrow := Relation.mem_of_get? hw
          -- The returned Version stores the bytes of the request, so its Blobs have their sizes.
          obtain ⟨_, manifest', hnames', hbytes⟩ :=
            (runBound_of_step hservice hreachable hbound hc).manifests w hwrow
          obtain ⟨mw, hmw⟩ := registered_of_reachable hnext w hwrow
          have htexts : manifest'.canonicalBytes = manifest.canonicalBytes := by
            refine hinj ⟨_, _, hnames', .inl rfl⟩ ⟨_, _, hnames, .inl rfl⟩ ?_
            rw [← hbytes, ← sha256_of_fromCanonicalBytes hmw.loads, hmw.summaries.1, hsha,
              hmanifest]
          have hloads : Manifest.fromCanonicalBytes w.manifestBytes = .ok canonical := by
            rw [hbytes, htexts]
            exact hcanonical
          have hcommitted := committed_of_reachable hreachable
          obtain ⟨v', hv', hlater⟩ := (extends_of_step e.2 hcommitted).versions v.id v
            (Relation.get?_of_mem hv)
          have hstored : v'.manifestBytes = v.manifestBytes :=
            (hlater.content (hcommitted.sealed v hv)).2.2.2.1
          have hkept : Manifest.fromCanonicalBytes v'.manifestBytes = .ok m := by
            rw [hstored]
            exact hm
          exact hsize (size_of_digest hnext (Relation.mem_of_get? hv') hwrow hkept hloads hx hy
            hdigest)

/-- Versions are identified by Dataset and canonical bytes and numbered as they are first
registered; a registration that raises changes no table, and every refused one raises. -/
theorem versions_are_identified (hservice : ThroughService calls)
    (hinj : Set.InjOn sha256 (hashedTexts calls)) :
    (∀ datasetId, ∃ k,
      numbersOf (store.runFrom store.start calls).db datasetId = List.range' 1 k) ∧
    (∀ v ∈ (store.runFrom store.start calls).db.versions.rows,
      ∃ e ∈ store.steps store.start calls, ∃ manifest a, Registers e v.datasetId manifest a ∧
        a.id = v.id ∧ e.1.db.versions.get? v.id = none ∧
        e.1.db.versions.rows.map DatasetVersionModel.id ++ [v.id] <+:
          (store.runFrom store.start calls).db.versions.rows.map DatasetVersionModel.id) ∧
    (∀ e ∈ store.steps store.start calls, ∀ e' ∈ store.steps store.start calls,
      ∀ datasetId datasetId' manifest manifest' a a', Registers e datasetId manifest a →
        Registers e' datasetId' manifest' a' →
        (a.id = a'.id ↔
          datasetId = datasetId' ∧ manifest.canonicalBytes = manifest'.canonicalBytes)) ∧
    ∀ e ∈ store.steps store.start calls, ∀ datasetId manifest key sha,
      e.2.operation = .registerVersion datasetId manifest key sha →
      (∀ failure, (transact (RegistryService.registerVersion datasetId manifest key) e.2.env
        e.1).1 = .error failure → (e.2.step e.1).db = e.1.db) ∧
      (Refused e.1.db datasetId manifest key → ∃ failure,
        (transact (RegistryService.registerVersion datasetId manifest key) e.2.env e.1).1 =
          .error failure) := by
  refine ⟨numbers_of_reachable ⟨calls, rfl⟩, ?_, ?_, ?_⟩
  · intro v hv
    obtain ⟨e, he, manifest, a, hregisters, ha, hnew, hids⟩ := first_registration hservice hv
    refine ⟨e, he, manifest, a, hregisters, ha, hnew, ?_⟩
    rw [← hids]
    exact ids_prefix_of_step he
  · intro e he e' he' datasetId datasetId' manifest manifest' a a' h h'
    exact same_version_iff hservice hinj he he' h h'
  · intro e he datasetId manifest key sha hop
    have hsha := hservice e.2 (Machine.mem_of_mem_steps he).2 _ _ _ _ hop
    rw [hsha] at hop
    refine ⟨?_, raises_of_refused hservice hinj he hop⟩
    intro failure herror
    have hunchanged := transact_error (Prod.ext herror rfl)
    have hdb := congrArg Registry.db hunchanged
    rw [step_of_operation hop]
    exact hdb

end Versions

namespace Sample

def registrations : List Call :=
  [⟨.createDataset name "dataset" manifestDigest, env 1⟩,
   ⟨.registerVersion 100 manifest "one"
      (requestFingerprint (registrationFields 100 manifest)), env 2⟩,
   ⟨.registerVersion 100 manifest "two"
      (requestFingerprint (registrationFields 100 manifest)), env 3⟩]

theorem registers_sample {c : Call} (hc : c ∈ registrations) {datasetId : UUID}
    {m : Manifest} {key : String} {sha : Sha256Digest}
    (hop : c.operation = .registerVersion datasetId m key sha) :
    datasetId = 100 ∧ m = manifest ∧
      sha = requestFingerprint (registrationFields 100 manifest) := by
  simp only [registrations, List.mem_cons, List.not_mem_nil, or_false] at hc
  rcases hc with rfl | rfl | rfl
  · cases hop
  · cases hop
    exact ⟨rfl, rfl, rfl⟩
  · cases hop
    exact ⟨rfl, rfl, rfl⟩

set_option maxRecDepth 100000 in
/-- Two keys register one Version, and it is number 1. -/
theorem sample_two_keys_name_one_version :
    numbersOf (store.runFrom store.start registrations).db 100 = [1] ∧
    (∃ k, numbersOf (store.runFrom store.start registrations).db 100 = List.range' 1 k) ∧
    ∀ e ∈ store.steps store.start registrations, ∀ e' ∈ store.steps store.start registrations,
      ∀ a a', Registers e 100 manifest a → Registers e' 100 manifest a' → a.id = a'.id := by
  have hservice : ThroughService registrations := by
    intro c hc datasetId m key sha hop
    obtain ⟨hdataset, hm, hsha⟩ := registers_sample hc hop
    rw [hdataset, hm]
    exact hsha
  have htexts : ∀ x ∈ hashedTexts registrations,
      x = manifest.canonicalBytes ∨ x = framed (registrationFields 100 manifest) := by
    intro x hx
    obtain ⟨datasetId, m, ⟨c, hc, key, sha, hop⟩, hx⟩ := hx
    obtain ⟨hdataset, hm, _⟩ := registers_sample hc hop
    rw [hdataset, hm] at hx
    exact hx
  have hne : sha256 manifest.canonicalBytes ≠
      sha256 (framed (registrationFields 100 manifest)) := by
    decide
  have hinj : Set.InjOn sha256 (hashedTexts registrations) := by
    intro x hx y hy hxy
    rcases htexts x hx with rfl | rfl
    · rcases htexts y hy with rfl | rfl
      · rfl
      · exact absurd hxy hne
    · rcases htexts y hy with rfl | rfl
      · exact absurd hxy.symm hne
      · rfl
  have hidentified := versions_are_identified hservice hinj
  refine ⟨by decide, hidentified.1 100, ?_⟩
  intro e he e' he' a a' h h'
  exact (hidentified.2.2.1 e he e' he' 100 100 manifest manifest a a' h h').mpr ⟨rfl, rfl⟩

end Sample

end RoboLake
