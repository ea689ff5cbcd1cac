import RoboLake.Registry.Committed
import RoboLake.Foundation.Total

/-! # What the database accepts

On lawful tables a row may be overwritten by one that keeps its alternate keys, its
references and its column checks, and a transaction commits when the triggers on
the rows it watches pass. With these rules a call is shown to return, one command
at a time.
-/

namespace RoboLake

open Foundation Work Migrations

variable [Platform]

/-! ## Overwritten rows -/

section Kept

variable {db : Database}

theorem Lawful.versionConstraints_kept {old new : DatasetVersionModel} (h : Lawful db)
    (hold : db.versions.get? new.id = some old) (hdataset : new.datasetId = old.datasetId)
    (hsha : new.manifestSha256 = old.manifestSha256)
    (hnumber : new.versionNumber = old.versionNumber) (hchecks : Satisfied (versionChecks new)) :
    Satisfied (versionConstraints db new) := by
  have hid : old.id = new.id := Relation.key_of_get? hold
  have hmem := Relation.mem_of_get? hold
  simp only [versionConstraints, satisfied_append, satisfied_cons, Rule.violated_unique,
    Rule.violated_foreignKey, satisfied_nil, and_true]
  refine ⟨hchecks, ?_, ?_, ?_⟩
  · intro hclash
    obtain ⟨v, hv, hne, hvd, hvs⟩ := hclash
    have hsame : v = old := h.version_manifest v hv old hmem (new.datasetId, new.manifestSha256)
      (by rw [manifestKey, hvd, hvs]) (by rw [manifestKey, hdataset, hsha])
    exact hne (by rw [hsame, hid])
  · intro hclash
    obtain ⟨v, hv, hne, hvd, hvn⟩ := hclash
    have hsame : v = old := h.version_number v hv old hmem (new.datasetId, new.versionNumber)
      (by rw [numberKey, hvd, hvn]) (by rw [numberKey, hdataset, hnumber])
    exact hne (by rw [hsame, hid])
  · rw [hdataset]
    exact h.version_dataset old hmem

theorem Lawful.blobConstraints_kept {old new : BlobModel} (h : Lawful db)
    (hold : db.blobs.get? new.id = some old) (hsha : new.sha256 = old.sha256)
    (hobject : new.objectKey = old.objectKey) (hchecks : Satisfied (blobChecks new)) :
    Satisfied (blobConstraints db new) := by
  have hid : old.id = new.id := Relation.key_of_get? hold
  have hmem := Relation.mem_of_get? hold
  simp only [blobConstraints, satisfied_append, satisfied_cons, Rule.violated_unique,
    satisfied_nil, and_true]
  refine ⟨hchecks, ?_, ?_⟩
  · intro hclash
    obtain ⟨b, hb, hne, hbo⟩ := hclash
    have hsame : b = old := h.blob_object b hb old hmem new.objectKey
      (by rw [objectKeyKey, hbo]) (by rw [objectKeyKey, hobject])
    exact hne (by rw [hsame, hid])
  · intro hclash
    obtain ⟨b, hb, hne, hbs⟩ := hclash
    have hsame : b = old := h.blob_digest b hb old hmem new.sha256
      (by rw [digestKey, hbs]) (by rw [digestKey, hsha])
    exact hne (by rw [hsame, hid])

theorem Lawful.sessionConstraints_kept {old new : UploadSessionModel} (h : Lawful db)
    (hold : db.sessions.get? new.id = some old) (hblob : new.blobId = old.blobId)
    (hversion : new.initiatingVersionId = old.initiatingVersionId)
    (hgeneration : new.sessionGeneration = old.sessionGeneration)
    (hactive : new.state.isActive = true → old.state.isActive = true)
    (hchecks : Satisfied (sessionChecks new)) : Satisfied (sessionConstraints db new) := by
  have hid : old.id = new.id := Relation.key_of_get? hold
  have hmem := Relation.mem_of_get? hold
  simp only [sessionConstraints, satisfied_append, satisfied_cons, Rule.violated_unique,
    Rule.violated_foreignKey, satisfied_nil, and_true]
  refine ⟨hchecks, ?_, ?_, ?_, ?_⟩
  · intro hclash
    obtain ⟨hsome, u, hu, hne, hub, hug⟩ := hclash
    obtain ⟨g, hg⟩ := Option.ne_none_iff_exists'.mp hsome
    have hsame : u = old := h.session_generation u hu old hmem (new.blobId, g)
      (generationKey_eq_some.mpr ⟨hub, hug.trans hg⟩)
      (generationKey_eq_some.mpr ⟨hblob.symm, hgeneration.symm.trans hg⟩)
    exact hne (by rw [hsame, hid])
  · intro hclash
    obtain ⟨hnew, u, hu, hne, hub, hua⟩ := hclash
    have hsame : u = old := h.session_active u hu old hmem new.blobId
      (activeKey_eq_some.mpr ⟨hua, hub⟩) (activeKey_eq_some.mpr ⟨hactive hnew, hblob.symm⟩)
    exact hne (by rw [hsame, hid])
  · rw [hblob]
    exact h.session_blob old hmem
  · rw [hversion]
    exact h.session_version old hmem

end Kept

/-! ## Flushes that succeed -/

section Flushes

variable {s : TxState} {Q : Unit → TxState → Prop}

/-- A flush returns when its row is stored already, or when its statement is accepted. -/
private theorem ends_flush {ρ κ : Type} [Keyed ρ κ] [DecidableEq κ] [DecidableEq ρ]
    {table : Database → Relation ρ} {update : ρ → Write} {row : ρ}
    (hsame : (table s.db).get? (key row) = some row → Q () s)
    (hwrite : ∃ s', execWrite (update row) s = .ok s' ∧ Q () s') :
    Ends (flush table update row) s Q := by
  unfold Ends flush
  rw [run_inspect]
  split
  · rename_i hstored
    exact ⟨(), s, rfl, hsame hstored⟩
  · obtain ⟨s', hw, hQ⟩ := hwrite
    exact ⟨(), s', run_perform_ok.mpr hw, hQ⟩

theorem ends_flushVersion {old row : DatasetVersionModel} (h : Lawful s.db)
    (hold : s.db.versions.get? row.id = some old)
    (hrules : Satisfied (guardDatasetVersion s.db old row ++ versionConstraints s.db row))
    (hQ : ∀ ts, (∀ t ∈ ts, t = .version row.id) →
      Lawful { s.db with versions := s.db.versions.replace row } → Q () { s with
        db := { s.db with versions := s.db.versions.replace row }
        touched := s.touched ++ ts }) : Ends (flushVersion row) s Q := by
  have hexec := exec_updateVersion_ok.mpr ⟨old, hold, hrules, rfl⟩
  have hlawful := lawful_of_exec hexec h
  refine ends_flush (fun hsame => ?_) ⟨_, hexec, hQ [.version row.id] (by simp) hlawful⟩
  have hstate := hQ [] (by simp) hlawful
  rwa [Relation.replace_of_get? hsame, List.append_nil] at hstate

theorem ends_flushBlob {old row : BlobModel} (h : Lawful s.db)
    (hold : s.db.blobs.get? row.id = some old)
    (hrules : Satisfied (guardBlob old row ++ blobConstraints s.db row))
    (hQ : ∀ ts, (∀ t ∈ ts, t = .blob row.id) →
      Lawful { s.db with blobs := s.db.blobs.replace row } → Q () { s with
        db := { s.db with blobs := s.db.blobs.replace row }
        touched := s.touched ++ ts }) : Ends (flushBlob row) s Q := by
  have hexec := exec_updateBlob_ok.mpr ⟨old, hold, hrules, rfl⟩
  have hlawful := lawful_of_exec hexec h
  refine ends_flush (fun hsame => ?_) ⟨_, hexec, hQ [.blob row.id] (by simp) hlawful⟩
  have hstate := hQ [] (by simp) hlawful
  rwa [Relation.replace_of_get? hsame, List.append_nil] at hstate

theorem ends_flushSession {old row : UploadSessionModel} (h : Lawful s.db)
    (hold : s.db.sessions.get? row.id = some old)
    (hrules : Satisfied (guardUploadSession s.db old row ++ sessionConstraints s.db row))
    (hQ : ∀ ts, (∀ t ∈ ts, t = .session row.blobId) →
      Lawful { s.db with sessions := s.db.sessions.replace row } → Q () { s with
        db := { s.db with sessions := s.db.sessions.replace row }
        touched := s.touched ++ ts }) : Ends (flushSession row) s Q := by
  have hexec := exec_updateSession_ok.mpr ⟨old, hold, hrules, rfl⟩
  have hlawful := lawful_of_exec hexec h
  refine ends_flush (fun hsame => ?_) ⟨_, hexec, hQ [.session row.blobId] (by simp) hlawful⟩
  have hstate := hQ [] (by simp) hlawful
  rwa [Relation.replace_of_get? hsame, List.append_nil] at hstate

theorem ends_updateSession {old row : UploadSessionModel} (h : Lawful s.db)
    (hold : s.db.sessions.get? row.id = some old)
    (hrules : Satisfied (guardUploadSession s.db old row ++ sessionConstraints s.db row))
    (hQ : Lawful { s.db with sessions := s.db.sessions.replace row } → Q () { s with
        db := { s.db with sessions := s.db.sessions.replace row }
        touched := s.touched ++ [.session row.blobId] }) :
    Ends (perform (Write.updateSession row) : Tx Unit) s Q := by
  have hexec := exec_updateSession_ok.mpr ⟨old, hold, hrules, rfl⟩
  exact ends_perform.mpr ⟨_, hexec, hQ (lawful_of_exec hexec h)⟩

end Flushes

/-! ## Readings -/

section Readings

variable {s : TxState}

theorem ends_clockTimestamp {Q : Timestamp → TxState → Prop} :
    Ends clockTimestamp s Q ↔ Q s.ticked.now s.ticked := by
  rw [clockTimestamp, ends_bind, ends_perform]
  constructor
  · intro h
    obtain ⟨s', hw, hQ⟩ := h
    cases hw
    exact ends_select.mp hQ
  · intro hQ
    exact ⟨s.ticked, rfl, ends_select.mpr hQ⟩

theorem ends_utcNow {Q : Timestamp → TxState → Prop} :
    Ends utcNow s Q ↔ Q (s.wall 0) s.glanced := by
  constructor
  · intro h
    obtain ⟨a, s', hrun, hQ⟩ := h
    cases hrun
    exact hQ
  · intro hQ
    exact ⟨_, _, rfl, hQ⟩

theorem ends_uuid4 {Q : UUID → TxState → Prop} :
    Ends uuid4 s Q ↔ Q (s.uuids 0) s.drawn := by
  constructor
  · intro h
    obtain ⟨a, s', hrun, hQ⟩ := h
    cases hrun
    exact hQ
  · intro hQ
    exact ⟨_, _, rfl, hQ⟩

end Readings

/-! ## Calls that return -/

/-- Every trigger a commit would run passes, whenever it reads the clock. -/
def Committable (s : TxState) : Prop :=
  ∀ t ∈ s.touched, ∀ clock, s.now ≤ clock → Satisfied (t.rules s.db clock)

theorem transact_of_ends {α : Type} {tx : Tx α} {env : Env} {r : Registry}
    {Q : α → Database → Prop}
    (h : Ends tx (beginTx env r) fun a s => Q a s.db ∧ Committable s) :
    ∃ a db, transact tx env r = (.ok a, ⟨db, r.later env⟩) ∧ Q a db := by
  obtain ⟨a, s, hrun, hQ, hcommit⟩ := h
  obtain ⟨s', hs', _⟩ := run_commit_succeeds hcommit
  exact ⟨a, s.db, transact_ok.mpr ⟨s, s', hrun, hs', rfl⟩, hQ⟩

theorem transact_of_raised {α : Type} {tx : Tx α} {env : Env} {r : Registry} {e : Failure}
    (h : run tx (beginTx env r) = .error e) :
    transact tx env r = (.error e, ⟨r.db, r.later env⟩) := by
  unfold transact
  rw [run_bind, h]

theorem transact_of_answers {α : Type} {tx : Tx α} {env : Env} {r : Registry}
    {Q : α → Database → Prop} {E : Failure → Prop}
    (h : Answers tx (beginTx env r) (fun a s => Q a s.db ∧ Committable s) E) :
    (∃ a db, transact tx env r = (.ok a, ⟨db, r.later env⟩) ∧ Q a db) ∨
      ∃ e, E e ∧ transact tx env r = (.error e, ⟨r.db, r.later env⟩) := by
  unfold Answers at h
  cases hrun : run tx (beginTx env r) with
  | error e =>
      rw [hrun] at h
      exact .inr ⟨e, h, transact_of_raised hrun⟩
  | ok x =>
      rw [hrun] at h
      exact .inl (transact_of_ends ⟨x.1, x.2, hrun, h⟩)

/-- A program that writes nothing returns without touching the tables. -/
theorem transact_of_read {α : Type} {tx : Tx α} {env : Env} {r : Registry} {a : α}
    (h : run tx (beginTx env r) = .ok (a, beginTx env r)) :
    transact tx env r = (.ok a, ⟨r.db, r.later env⟩) := by
  have hcommit : ∀ t ∈ (beginTx env r).touched, ∀ clock, (beginTx env r).now ≤ clock →
      Satisfied (t.rules (beginTx env r).db clock) := by
    intro t ht
    cases ht
  obtain ⟨s', hs', _⟩ := run_commit_succeeds hcommit
  exact transact_ok.mpr ⟨_, s', h, hs', rfl⟩

theorem validateM2Publication_of_singlePut {db : Database} {clock : Timestamp} {blobId : UUID}
    (h : ¬HasMultipart db blobId) : Satisfied (validateM2Publication db clock blobId) := by
  unfold validateM2Publication
  split
  · exact satisfied_nil
  · rename_i b hb
    have hnone : ¬∃ u ∈ db.sessions.rows, u.blobId = blobId ∧ u.strategy = .multipart := h
    rw [if_neg hnone]
    exact satisfied_nil

theorem requireSealedVersion_of_sealed {db : Database} {versionId : UUID} (h : AllSealed db) :
    Satisfied (requireSealedVersion db versionId) := by
  simp only [requireSealedVersion, satisfied_cons, Rule.violated_raiseIf, Ternary.holds_of,
    satisfied_nil, and_true]
  intro hbad
  obtain ⟨v, hv, _, hnone⟩ := hbad
  exact h v hv hnone

end RoboLake
