import RoboLake.Registry.Effect

/-! # Effects of the Dataset and Version operations -/

namespace RoboLake

open Foundation Work Store

variable [Platform] {env : Env} {r : Registry} {s : TxState}

/-! ## Blobs of a registration -/

omit [Platform] in
theorem BlobsGrown.refl (blobs : Relation BlobModel) : BlobsGrown blobs blobs :=
  ⟨Relation.Later.refl (fun _ => rfl) _, fun _ hb => Or.inl hb⟩

omit [Platform] in
theorem BlobsGrown.trans {b₁ b₂ b₃ : Relation BlobModel} (h : BlobsGrown b₁ b₂)
    (h' : BlobsGrown b₂ b₃) : BlobsGrown b₁ b₃ := by
  refine ⟨h.kept.trans (fun _ _ _ hl hl' => hl.trans hl') h'.kept, fun b hb => ?_⟩
  rcases h'.fresh b hb with hold | ⟨hfree, hnew⟩
  · exact h.fresh b hold
  · refine Or.inr ⟨?_, hnew⟩
    cases hget : b₁.get? b.id with
    | none => rfl
    | some x =>
        obtain ⟨x', hx', _⟩ := h.kept _ x hget
        rw [hfree] at hx'
        cases hx'

omit [Platform] in
theorem BlobsGrown.get {blobs blobs' : Relation BlobModel} (h : BlobsGrown blobs blobs')
    {id : UUID} {b : BlobModel} (hb : blobs.get? id = some b) : blobs'.get? id = some b := by
  obtain ⟨b', hb', rfl⟩ := h.kept id b hb
  exact hb'

theorem EntryOf.grown {versionId : UUID} {blobs blobs' : Relation BlobModel}
    {item : ManifestEntry × Nat} {row : DatasetEntryModel} (h : EntryOf versionId blobs item row)
    (hgrown : BlobsGrown blobs blobs') : EntryOf versionId blobs' item row := by
  obtain ⟨hv, ho, hp, b, hb, hsha, hsize⟩ := h
  exact ⟨hv, ho, hp, b, hgrown.get hb, hsha, hsize⟩

theorem run_getOrCreateBlob_bind_ok {α : Type} {digest : Sha256Digest} {size : Nat}
    {f : BlobModel → Tx α} {s' : TxState} {a : α}
    (h : run (getOrCreateBlob digest size >>= f) s = .ok (a, s')) :
    ∃ b s₁, run (f b) s₁ = .ok (a, s') ∧ b.sha256 = digest ∧ b.sizeBytes = size ∧
      s₁.db = { s.db with blobs := s₁.db.blobs } ∧ s₁.db.blobs.get? b.id = some b ∧
      BlobsGrown s.db.blobs s₁.db.blobs := by
  simp only [getOrCreateBlob, Work.bind_assoc, run_uuid4_bind, run_select_bind] at h
  cases hfound : s.drawn.db.blobs.rows.find? fun b => b.sha256 = digest with
  | some b =>
      simp only [hfound, Work.bind_assoc, run_pure_bind, run_require_bind_ok] at h
      obtain ⟨hsize, h⟩ := h
      have hsha := List.find?_some hfound
      simp only [decide_eq_true_eq] at hsha
      exact ⟨b, s.drawn, h, hsha, hsize, rfl,
        Relation.get?_of_mem (List.mem_of_find?_eq_some hfound), BlobsGrown.refl _⟩
  | none =>
      simp only [hfound, Work.bind_assoc, run_perform_bind_ok, run_pure_bind,
        run_require_bind_ok] at h
      obtain ⟨s₁, hw, _, h⟩ := h
      obtain ⟨_, hfree, rfl⟩ := exec_insertBlob_ok.mp hw
      refine ⟨_, _, h, rfl, rfl, rfl, ?_, Relation.Later.insert (fun _ => rfl) hfree, ?_⟩
      · exact Relation.get?_of_mem ((Relation.mem_insert hfree).mpr (Or.inr rfl))
      · intro b hb
        rcases (Relation.mem_insert hfree).mp hb with hb | rfl
        · exact Or.inl hb
        · exact Or.inr ⟨hfree, rfl, rfl, rfl⟩

/-- The tables while the entries of a manifest are inserted. -/
structure Registering (base : Database) (versionId : UUID) (items rest : List (ManifestEntry × Nat))
    (db : Database) : Prop where
  frame : db = { base with blobs := db.blobs, entries := db.entries }
  grown : BlobsGrown base.blobs db.blobs
  entries : ∃ done news, items = done ++ rest ∧ db.entries.rows = base.entries.rows ++ news ∧
    List.Forall₂ (EntryOf versionId db.blobs) done news

theorem registering_step {base : Database} {versionId : UUID}
    {items rest : List (ManifestEntry × Nat)} {item : ManifestEntry × Nat} {s' : TxState} {u : Unit}
    (hinv : Registering base versionId items (item :: rest) s.db)
    (h : run (registerEntry versionId item) s = .ok (u, s')) :
    Registering base versionId items rest s'.db := by
  obtain ⟨hframe, hgrown, done, news, hitems, hrows, hnews⟩ := hinv
  obtain ⟨b, s₁, hrun, hsha, hsize, hdb, hb, hgrown₁⟩ := run_getOrCreateBlob_bind_ok h
  obtain ⟨_, hfree, rfl⟩ := exec_insertEntry_ok.mp (run_perform_ok.mp hrun)
  have hentries : s₁.db.entries = s.db.entries := by rw [hdb]
  refine ⟨?_, hgrown.trans hgrown₁, done ++ [item],
    news ++ [⟨versionId, item.2, item.1.relativePath, b.id⟩], ?_, ?_, ?_⟩
  · rw [hdb, hframe]
  · rw [hitems, List.append_assoc]
    rfl
  · simp only
    rw [Relation.rows_insert hfree, hentries, hrows, List.append_assoc]
  · refine List.rel_append (List.Forall₂.imp (fun _ _ hrow => hrow.grown hgrown₁) hnews) ?_
    exact List.Forall₂.cons ⟨rfl, rfl, rfl, b, hb, hsha, hsize⟩ List.Forall₂.nil

theorem run_registerEntries {versionId : UUID} {items : List (ManifestEntry × Nat)} {s' : TxState}
    {u : Unit} (h : run (forEach items (registerEntry versionId)) s = .ok (u, s')) :
    Registering s.db versionId items [] s'.db := by
  have hstart : Registering s.db versionId items items s.db :=
    ⟨rfl, BlobsGrown.refl _, [], [], rfl, by simp, List.Forall₂.nil⟩
  exact run_forEach (J := fun rest s₁ => Registering s.db versionId items rest s₁.db)
    (fun _ _ _ _ => registering_step) hstart h

theorem run_sealVersion_bind_ok {α : Type} {datasetId : UUID} {canonical : Manifest}
    {f : DatasetVersionModel → Tx α} {s' : TxState} {a : α}
    (h : run (sealVersion datasetId canonical >>= f) s = .ok (a, s')) :
    ∃ v s₁ sealedAt news, run (f v) s₁ = .ok (a, s') ∧
      v = { draftVersion (s.uuids 0) datasetId (nextVersionNumber s.db datasetId) canonical with
        sealedAt := some sealedAt } ∧
      s.db.versions.get? v.id = none ∧
      s₁.db = { s.db with
        versions := s.db.versions.insert v
        blobs := s₁.db.blobs
        entries := s₁.db.entries } ∧
      BlobsGrown s.db.blobs s₁.db.blobs ∧ s₁.db.entries.rows = s.db.entries.rows ++ news ∧
      List.Forall₂ (EntryOf v.id s₁.db.blobs) canonical.entries.zipIdx news := by
  simp only [sealVersion, Work.bind_assoc, run_select_bind, run_uuid4_bind,
    run_perform_bind_ok] at h
  obtain ⟨s₁, hw, h⟩ := h
  obtain ⟨_, hfree, rfl⟩ := exec_insertVersion_ok.mp hw
  rw [run_bind_ok] at h
  obtain ⟨_, s₂, hloop, h⟩ := h
  obtain ⟨hframe, hgrown, done, news, hdone, hrows, hnews⟩ := run_registerEntries hloop
  rw [List.append_nil] at hdone
  simp only [run_utcNow_bind] at h
  obtain ⟨_, h⟩ := run_flushVersion_bind_ok h
  refine ⟨_, _, s₂.wall 0, news, h, rfl, hfree, ?_, hgrown, hrows, hdone ▸ hnews⟩
  simp only [db_glanced]
  rw [hframe]
  simp only
  rw [Relation.replace_insert hfree]
  · rfl
  · rfl

/-! ## Operations -/

theorem effect_createDataset {name : DatasetName} {key : String} {sha : Sha256Digest}
    {a : DatasetRecord} (h : run (createDataset name key sha) (beginTx env r) = .ok (a, s)) :
    Effect env r (.createDataset name key sha) s.db := by
  rw [createDataset, run_select_bind] at h
  cases hkey : (beginTx env r).db.idempotency.get? (.datasetCreate, key) with
  | some replay =>
      simp only [hkey, run_require_bind_ok, run_fetch_bind_ok, run_pure_ok] at h
      obtain ⟨_, _, _, _, _, _, rfl⟩ := h
      exact .idle
  | none =>
      simp only [hkey, run_select_bind] at h
      cases hfound : (beginTx env r).db.datasets.rows.find? fun d => d.name = name with
      | some d =>
          simp only [hfound, run_pure_bind, run_perform_bind_ok, run_pure_ok] at h
          obtain ⟨s₁, hw, _, rfl⟩ := h
          obtain ⟨_, _, rfl⟩ := exec_insertIdempotency_ok.mp hw
          have hname := List.find?_some hfound
          simp only [decide_eq_true_eq] at hname
          exact .datasetFound (Relation.get?_of_mem (List.mem_of_find?_eq_some hfound)) hname hkey
      | none =>
          simp only [hfound, run_uuid4_bind, run_perform_bind_ok, run_pure_bind, run_pure_ok] at h
          obtain ⟨s₁, hw₁, s₂, hw₂, _, rfl⟩ := h
          obtain ⟨_, hfree, rfl⟩ := exec_insertDataset_ok.mp hw₁
          obtain ⟨_, _, rfl⟩ := exec_insertIdempotency_ok.mp hw₂
          have hname : ∀ d ∈ r.db.datasets.rows, d.name ≠ name := by
            simpa using List.find?_eq_none.mp hfound
          exact .datasetCreated hname hfree hkey

theorem effect_registerVersion {datasetId : UUID} {manifest : Manifest} {key : String}
    {sha : Sha256Digest} {a : VersionRecord}
    (h : run (registerVersion datasetId manifest key sha) (beginTx env r) = .ok (a, s)) :
    Effect env r (.registerVersion datasetId manifest key sha) s.db := by
  simp only [registerVersion, run_ofExcept_bind_ok, run_require_bind_ok, run_fetch_bind_ok,
    run_select_bind] at h
  obtain ⟨canonical, hcanonical, hsha, _, _, h⟩ := h
  cases hkey : (beginTx env r).db.idempotency.get? (.versionRegister, key) with
  | some replay =>
      simp only [hkey, run_require_bind_ok, run_fetch_bind_ok, run_pure_ok] at h
      obtain ⟨_, _, _, _, _, _, rfl⟩ := h
      exact .idle
  | none =>
      simp only [hkey, run_select_bind] at h
      cases hfound : (beginTx env r).db.versions.rows.find? fun v =>
          v.datasetId = datasetId ∧ v.manifestSha256 = canonical.sha256 with
      | some v =>
          simp only [hfound, run_pure_bind, run_perform_bind_ok, run_pure_ok] at h
          obtain ⟨s₁, hw, _, rfl⟩ := h
          obtain ⟨_, _, rfl⟩ := exec_insertIdempotency_ok.mp hw
          have hmatch := List.find?_some hfound
          simp only [decide_eq_true_eq] at hmatch
          exact .versionFound (Relation.get?_of_mem (List.mem_of_find?_eq_some hfound)) hmatch.1
            (hmatch.2.trans hsha) hkey
      | none =>
          simp only [hfound] at h
          obtain ⟨v, s₁, sealedAt, news, h, hv, hfree, hdb, hgrown, hrows, hnews⟩ :=
            run_sealVersion_bind_ok h
          simp only [run_perform_bind_ok, run_pure_ok] at h
          obtain ⟨s₂, hw, _, rfl⟩ := h
          obtain ⟨_, _, rfl⟩ := exec_insertIdempotency_ok.mp hw
          simp only
          rw [hdb]
          exact .versionRegistered hcanonical hsha hv hfree hkey hgrown hrows hnews

/-! ## Reads -/

theorem effect_resolveVersion {name : DatasetName} {number : Nat} {a : VersionRecord}
    (h : run (resolveVersion name number) (beginTx env r) = .ok (a, s)) :
    Effect env r (.resolveVersion name number) s.db := by
  rw [resolveVersion, run_fetch_ok] at h
  rw [h.2]
  exact .idle

theorem effect_getManifest {id : UUID} {a : Manifest}
    (h : run (getManifest id) (beginTx env r) = .ok (a, s)) :
    Effect env r (.getManifest id) s.db := by
  simp only [getManifest, run_fetch_bind_ok, run_ofExcept_ok] at h
  obtain ⟨_, _, _, rfl⟩ := h
  exact .idle

theorem effect_getStatus {id : UUID} {a : VersionStatus}
    (h : run (getStatus id) (beginTx env r) = .ok (a, s)) :
    Effect env r (.getStatus id) s.db := by
  simp only [getStatus, run_fetch_bind_ok, run_select_bind, run_ofExcept_bind_ok,
    run_pure_ok] at h
  obtain ⟨_, _, _, _, _, _, _, _, _, rfl⟩ := h
  exact .idle

theorem effect_getDownloadEntry {id : UUID} {ordinal : Nat} {a : Option ManifestEntry}
    (h : run (getDownloadEntry id ordinal) (beginTx env r) = .ok (a, s)) :
    Effect env r (.getDownloadEntry id ordinal) s.db := by
  rw [getDownloadEntry, run_select_ok] at h
  rw [h.2]
  exact .idle

theorem effect_getUpload {id : UUID} {a : UploadContext}
    (h : run (getUpload id) (beginTx env r) = .ok (a, s)) :
    Effect env r (.getUpload id) s.db := by
  simp only [getUpload, fetchDataset, run_fetch_bind_ok, run_ofExcept_bind_ok, run_pure_ok] at h
  obtain ⟨_, _, _, _, _, _, _, _, _, _, _, rfl⟩ := h
  exact .idle

end RoboLake
