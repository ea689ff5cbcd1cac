import RoboLake.Infrastructure.Transactions

/-! # Lawful tables

What the constraints and triggers guarantee of the rows that are stored, whatever
statements put them there: column checks, alternate keys, references, the states
of single-PUT sessions and the checksums of parts. Every accepted statement keeps
these facts, so every transaction does.
-/

namespace RoboLake

open Foundation Work Migrations

variable [Platform]

/-! ## The alternate keys -/

def nameKey (d : DatasetModel) : Option DatasetName := some d.name
def manifestKey (v : DatasetVersionModel) : Option (UUID × Sha256Digest) :=
  some (v.datasetId, v.manifestSha256)
def numberKey (v : DatasetVersionModel) : Option (UUID × Nat) :=
  some (v.datasetId, v.versionNumber)
def digestKey (b : BlobModel) : Option Sha256Digest := some b.sha256
def objectKeyKey (b : BlobModel) : Option (List Char) := some b.objectKey
def ordinalKey (e : DatasetEntryModel) : Option (UUID × Nat) :=
  some (e.datasetVersionId, e.manifestOrdinal)
def generationKey (u : UploadSessionModel) : Option (UUID × Nat) :=
  u.sessionGeneration.map fun g => (u.blobId, g)

def activeKey (u : UploadSessionModel) : Option UUID :=
  if u.state.isActive = true then some u.blobId else none

def offsetKey (p : UploadPartModel) : Option (UUID × Nat) := some (p.uploadSessionId, p.offsetBytes)

omit [Platform] in
theorem activeKey_eq_some {u : UploadSessionModel} {blobId : UUID} :
    activeKey u = some blobId ↔ u.state.isActive = true ∧ u.blobId = blobId := by
  unfold activeKey
  split <;> simp_all

omit [Platform] in
theorem generationKey_eq_some {u : UploadSessionModel} {c : UUID × Nat} :
    generationKey u = some c ↔ u.blobId = c.1 ∧ u.sessionGeneration = some c.2 := by
  cases hg : u.sessionGeneration with
  | none => simp [generationKey, hg]
  | some g =>
      obtain ⟨blobId, n⟩ := c
      simp [generationKey, hg]

def SinglePutState (state : SessionState) : Prop :=
  state = .created ∨ state = .inProgress ∨ state = .completed ∨ state = .failed

/-- Every stored checksum of a part is the canonical spelling of its planned digest. -/
def ChecksumsPlanned (p : UploadPartModel) : Prop :=
  (∀ c, p.uploadResponseChecksumSha256Base64 = some c → c = p.sha256.checksumBase64) ∧
    ∀ c, p.listedChecksumSha256Base64 = some c → c = p.sha256.checksumBase64

def OfMultipart (db : Database) (p : UploadPartModel) : Prop :=
  ∃ u, db.sessions.get? p.uploadSessionId = some u ∧ u.strategy = .multipart

/-! ## Lawfulness -/

/-- The stored rows meet every constraint. -/
structure Lawful (db : Database) : Prop where
  dataset_name : db.datasets.Unique nameKey
  version_checks : ∀ v ∈ db.versions.rows, Satisfied (versionChecks v)
  version_manifest : db.versions.Unique manifestKey
  version_number : db.versions.Unique numberKey
  version_dataset : db.versions.Refers DatasetVersionModel.datasetId db.datasets
  blob_checks : ∀ b ∈ db.blobs.rows, Satisfied (blobChecks b)
  blob_object : db.blobs.Unique objectKeyKey
  blob_digest : db.blobs.Unique digestKey
  entry_ordinal : db.entries.Unique ordinalKey
  entry_blob : db.entries.Refers DatasetEntryModel.blobId db.blobs
  entry_version : db.entries.Refers DatasetEntryModel.datasetVersionId db.versions
  session_checks : ∀ u ∈ db.sessions.rows, Satisfied (sessionChecks u)
  session_generation : db.sessions.Unique generationKey
  session_active : db.sessions.Unique activeKey
  session_blob : db.sessions.Refers UploadSessionModel.blobId db.blobs
  session_version : db.sessions.Refers UploadSessionModel.initiatingVersionId db.versions
  session_single : ∀ u ∈ db.sessions.rows, u.strategy = .singlePut → SinglePutState u.state
  part_checks : ∀ p ∈ db.parts.rows, Satisfied (partChecks p)
  part_checksums : ∀ p ∈ db.parts.rows, ChecksumsPlanned p
  part_offset : db.parts.Unique offsetKey
  part_session : ∀ p ∈ db.parts.rows, OfMultipart db p
  admission_checks : ∀ l ∈ db.admissionLeases.rows, Satisfied (admissionLeaseChecks l)
  admission_session :
    db.admissionLeases.Refers MultipartAdmissionLeaseModel.uploadSessionId db.sessions
  completion_checks : ∀ l ∈ db.completionLeases.rows, Satisfied (completionLeaseChecks l)
  completion_session :
    db.completionLeases.Refers MultipartCompletionLeaseModel.uploadSessionId db.sessions

theorem lawful_empty : Lawful Database.empty where
  dataset_name := Relation.unique_empty
  version_checks := fun _ hv => by cases hv
  version_manifest := Relation.unique_empty
  version_number := Relation.unique_empty
  version_dataset := Relation.refers_empty
  blob_checks := fun _ hb => by cases hb
  blob_object := Relation.unique_empty
  blob_digest := Relation.unique_empty
  entry_ordinal := Relation.unique_empty
  entry_blob := Relation.refers_empty
  entry_version := Relation.refers_empty
  session_checks := fun _ hu => by cases hu
  session_generation := Relation.unique_empty
  session_active := Relation.unique_empty
  session_blob := Relation.refers_empty
  session_version := Relation.refers_empty
  session_single := fun _ hu => by cases hu
  part_checks := fun _ hp => by cases hp
  part_checksums := fun _ hp => by cases hp
  part_offset := Relation.unique_empty
  part_session := fun _ hp => by cases hp
  admission_checks := fun _ hl => by cases hl
  admission_session := Relation.refers_empty
  completion_checks := fun _ hl => by cases hl
  completion_session := Relation.refers_empty

/-! ## What the rules of a new row say -/

section Rules

variable {db : Database}

theorem datasetRules_satisfied {new : DatasetModel} (h : Satisfied (datasetRules db new)) :
    ∀ y ∈ db.datasets.rows, y.id ≠ new.id → ∀ c, nameKey new = some c → nameKey y ≠ some c := by
  simp only [datasetRules, satisfied_cons, Rule.violated_unique] at h
  rintro y hy hne c hc hyc
  exact h.2.1 ⟨y, hy, hne, by simp_all [nameKey]⟩

theorem versionConstraints_satisfied {new : DatasetVersionModel}
    (h : Satisfied (versionConstraints db new)) :
    Satisfied (versionChecks new) ∧
      (∀ y ∈ db.versions.rows, y.id ≠ new.id →
        ∀ c, manifestKey new = some c → manifestKey y ≠ some c) ∧
      (∀ y ∈ db.versions.rows, y.id ≠ new.id →
        ∀ c, numberKey new = some c → numberKey y ≠ some c) ∧
      (db.datasets.get? new.datasetId).isSome = true := by
  simp only [versionConstraints, satisfied_append, satisfied_cons, Rule.violated_unique,
    Rule.violated_foreignKey, satisfied_nil, and_true] at h
  obtain ⟨hchecks, hmanifest, hnumber, hdataset⟩ := h
  refine ⟨hchecks, ?_, ?_, hdataset⟩
  · rintro y hy hne c hc hyc
    cases hc
    simp only [manifestKey, Option.some.injEq, Prod.mk.injEq] at hyc
    exact hmanifest ⟨y, hy, hne, hyc⟩
  · rintro y hy hne c hc hyc
    cases hc
    simp only [numberKey, Option.some.injEq, Prod.mk.injEq] at hyc
    exact hnumber ⟨y, hy, hne, hyc⟩

theorem blobConstraints_satisfied {new : BlobModel} (h : Satisfied (blobConstraints db new)) :
    Satisfied (blobChecks new) ∧
      (∀ y ∈ db.blobs.rows, y.id ≠ new.id →
        ∀ c, objectKeyKey new = some c → objectKeyKey y ≠ some c) ∧
      (∀ y ∈ db.blobs.rows, y.id ≠ new.id →
        ∀ c, digestKey new = some c → digestKey y ≠ some c) := by
  simp only [blobConstraints, satisfied_append, satisfied_cons, Rule.violated_unique,
    satisfied_nil, and_true] at h
  obtain ⟨hchecks, hobject, hdigest⟩ := h
  refine ⟨hchecks, ?_, ?_⟩
  · rintro y hy hne c hc hyc
    cases hc
    exact hobject ⟨y, hy, hne, Option.some.inj hyc⟩
  · rintro y hy hne c hc hyc
    cases hc
    exact hdigest ⟨y, hy, hne, Option.some.inj hyc⟩

theorem entryRules_satisfied {new : DatasetEntryModel} (h : Satisfied (entryRules db new)) :
    (∀ v, db.versions.get? new.datasetVersionId = some v → v.sealedAt = none) ∧
      (∀ y ∈ db.entries.rows, ∀ c, ordinalKey new = some c → ordinalKey y ≠ some c) ∧
      (db.blobs.get? new.blobId).isSome = true ∧
      (db.versions.get? new.datasetVersionId).isSome = true := by
  simp only [entryRules, satisfied_cons, Rule.violated_raiseIf, Ternary.holds_of,
    Rule.violated_unique, Rule.violated_foreignKey, satisfied_nil, and_true] at h
  obtain ⟨hsealed, _, _, _, hordinal, hblob, hversion⟩ := h
  refine ⟨?_, ?_, hblob, hversion⟩
  · intro v hv
    simpa [hv] using hsealed
  · rintro y hy c hc hyc
    cases hc
    simp only [ordinalKey, Option.some.injEq, Prod.mk.injEq] at hyc
    exact hordinal ⟨y, hy, hyc⟩

theorem sessionConstraints_satisfied {new : UploadSessionModel}
    (h : Satisfied (sessionConstraints db new)) :
    Satisfied (sessionChecks new) ∧
      (∀ y ∈ db.sessions.rows, y.id ≠ new.id →
        ∀ c, generationKey new = some c → generationKey y ≠ some c) ∧
      (∀ y ∈ db.sessions.rows, y.id ≠ new.id →
        ∀ c, activeKey new = some c → activeKey y ≠ some c) ∧
      (db.blobs.get? new.blobId).isSome = true ∧
      (db.versions.get? new.initiatingVersionId).isSome = true := by
  simp only [sessionConstraints, satisfied_append, satisfied_cons, Rule.violated_unique,
    Rule.violated_foreignKey, satisfied_nil, and_true] at h
  obtain ⟨hchecks, hgeneration, hactive, hblob, hversion⟩ := h
  refine ⟨hchecks, ?_, ?_, hblob, hversion⟩
  · rintro y hy hne c hc hyc
    rw [generationKey_eq_some] at hc hyc
    exact hgeneration ⟨by simp [hc.2], y, hy, hne, hyc.1.trans hc.1.symm, hyc.2.trans hc.2.symm⟩
  · rintro y hy hne c hc hyc
    rw [activeKey_eq_some] at hc hyc
    exact hactive ⟨hc.1, y, hy, hne, hyc.2.trans hc.2.symm, hyc.1⟩

omit [Platform] in
theorem not_holds_checksumDiffers {sha256 : Sha256Digest} {checksum : Option (List Char)}
    (h : ¬(checksumDiffers sha256 checksum).Holds) :
    ∀ c, checksum = some c → c = sha256.checksumBase64 := by
  intro c hc
  simp only [checksumDiffers, Ternary.holds_lift, not_exists, not_and, not_or, not_not] at h
  exact (h c hc).1

omit [Platform] in
theorem requireMultipartParent_satisfied {parent : Option UploadSessionModel}
    (h : (requireMultipartParent parent).violated = false) :
    ∃ u, parent = some u ∧ u.strategy = .multipart := by
  simp only [requireMultipartParent, Rule.violated_raiseIf, Ternary.holds_of, not_not,
    Option.map_eq_some_iff] at h
  exact h

theorem partConstraints_satisfied {new : UploadPartModel}
    (h : Satisfied (partConstraints db new)) :
    Satisfied (partChecks new) ∧
      ∀ y ∈ db.parts.rows, key y ≠ key new →
        ∀ c, offsetKey new = some c → offsetKey y ≠ some c := by
  simp only [partConstraints, satisfied_append, satisfied_cons, Rule.violated_unique] at h
  obtain ⟨hchecks, hoffset, _⟩ := h
  refine ⟨hchecks, ?_⟩
  rintro y hy hne c hc hyc
  cases hc
  simp only [offsetKey, Option.some.injEq, Prod.mk.injEq] at hyc
  exact hoffset ⟨y, hy, hne, hyc⟩

theorem guardInsertPart_satisfied {new : UploadPartModel}
    (h : Satisfied (guardInsertPart db new)) : OfMultipart db new ∧ ChecksumsPlanned new := by
  simp only [guardInsertPart, satisfied_cons, Rule.violated_raiseIf] at h
  obtain ⟨hparent, _, hresponse, hlisted, _⟩ := h
  exact ⟨requireMultipartParent_satisfied hparent, not_holds_checksumDiffers hresponse,
    not_holds_checksumDiffers hlisted⟩

theorem guardUpdatePart_satisfied {old new : UploadPartModel}
    (h : Satisfied (guardUpdatePart db old new)) : OfMultipart db new ∧ ChecksumsPlanned new := by
  simp only [guardUpdatePart, satisfied_cons, Rule.violated_raiseIf] at h
  obtain ⟨hparent, _, _, _, hresponse, hlisted, _⟩ := h
  exact ⟨requireMultipartParent_satisfied hparent, not_holds_checksumDiffers hresponse,
    not_holds_checksumDiffers hlisted⟩

/-- An update keeps the identity of a session, and a single-PUT session moves along its edges. -/
theorem guardUploadSession_satisfied {old new : UploadSessionModel}
    (h : Satisfied (guardUploadSession db old new)) :
    new.blobId = old.blobId ∧ new.initiatingVersionId = old.initiatingVersionId ∧
      new.strategy = old.strategy ∧
      (old.strategy = .singlePut → new.state ≠ old.state →
        (old.state, new.state) ∈ singlePutEdges) := by
  simp only [guardUploadSession, satisfied_cons, Rule.violated_raiseIf, Ternary.holds_of, not_or,
    not_not] at h
  obtain ⟨⟨hblob, hversion, hstrategy⟩, hguard⟩ := h
  refine ⟨hblob, hversion, hstrategy, fun hsingle hne => ?_⟩
  rw [if_pos hsingle] at hguard
  simp only [guardSinglePutSession, satisfied_cons, Rule.violated_raiseIf, Ternary.holds_of,
    not_and, not_not, satisfied_nil, and_true] at hguard
  exact hguard.2 hne

omit [Platform] in
theorem singlePutState_of_edge {a b : SessionState} (h : (a, b) ∈ singlePutEdges) :
    SinglePutState b := by
  simp only [singlePutEdges, List.mem_cons, Prod.mk.injEq, List.not_mem_nil, or_false] at h
  unfold SinglePutState
  tauto

end Rules

/-! ## Every statement keeps the tables lawful -/

theorem OfMultipart.insertSession {db : Database} {p : UploadPartModel} {new : UploadSessionModel}
    (h : OfMultipart db p) (hfree : db.sessions.get? new.id = none) :
    OfMultipart { db with sessions := db.sessions.insert new } p := by
  obtain ⟨u, hu, hm⟩ := h
  exact ⟨u, Relation.get?_insert_of_some hfree hu, hm⟩

theorem OfMultipart.replaceSession {db : Database} {p : UploadPartModel}
    {old new : UploadSessionModel} (h : OfMultipart db p)
    (hold : db.sessions.get? new.id = some old) (hs : new.strategy = old.strategy) :
    OfMultipart { db with sessions := db.sessions.replace new } p := by
  obtain ⟨u, hu, hm⟩ := h
  by_cases hid : p.uploadSessionId = new.id
  · have heq : u = old := Option.some.inj (hu.symm.trans (hid ▸ hold))
    refine ⟨new, ?_, by rw [hs, ← heq, hm]⟩
    simp only [hid]
    exact Relation.get?_replace_self hold
  · refine ⟨u, ?_, hm⟩
    simp only
    rw [Relation.get?_replace_ne hid, hu]

theorem lawful_of_exec {w : Write} {s s' : TxState} (hw : execWrite w s = .ok s')
    (h : Lawful s.db) : Lawful s'.db := by
  cases w with
  | tick =>
      cases hw
      exact h
  | glance =>
      cases hw
      exact h
  | draw =>
      cases hw
      exact h
  | insertDataset row =>
      obtain ⟨hr, hf, rfl⟩ := exec_insertDataset_ok.mp hw
      have hname := datasetRules_satisfied hr
      exact { h with
        dataset_name := h.dataset_name.insert hf fun y hy =>
          hname y hy (Relation.key_ne_of_free hf hy)
        version_dataset := h.version_dataset.insertTarget hf }
  | insertVersion row =>
      obtain ⟨hr, hf, rfl⟩ := exec_insertVersion_ok.mp hw
      obtain ⟨hchecks, hmanifest, hnumber, hdataset⟩ := versionConstraints_satisfied hr
      have hne : ∀ y ∈ s.db.versions.rows, y.id ≠ row.id := fun _ => Relation.key_ne_of_free hf
      exact { h with
        version_checks := Relation.forall_insert h.version_checks hf hchecks
        version_manifest := h.version_manifest.insert hf fun y hy => hmanifest y hy (hne y hy)
        version_number := h.version_number.insert hf fun y hy => hnumber y hy (hne y hy)
        version_dataset := h.version_dataset.insert hf hdataset
        entry_version := h.entry_version.insertTarget hf
        session_version := h.session_version.insertTarget hf }
  | updateVersion row =>
      obtain ⟨old, ho, hr, rfl⟩ := exec_updateVersion_ok.mp hw
      obtain ⟨hchecks, hmanifest, hnumber, hdataset⟩ :=
        versionConstraints_satisfied (satisfied_append.mp hr).2
      exact { h with
        version_checks := Relation.forall_replace h.version_checks hchecks
        version_manifest := h.version_manifest.replace hmanifest
        version_number := h.version_number.replace hnumber
        version_dataset := h.version_dataset.replace hdataset
        entry_version := h.entry_version.replaceTarget
        session_version := h.session_version.replaceTarget }
  | insertBlob row =>
      obtain ⟨hr, hf, rfl⟩ := exec_insertBlob_ok.mp hw
      obtain ⟨hchecks, hobject, hdigest⟩ := blobConstraints_satisfied hr
      have hne : ∀ y ∈ s.db.blobs.rows, y.id ≠ row.id := fun _ => Relation.key_ne_of_free hf
      exact { h with
        blob_checks := Relation.forall_insert h.blob_checks hf hchecks
        blob_object := h.blob_object.insert hf fun y hy => hobject y hy (hne y hy)
        blob_digest := h.blob_digest.insert hf fun y hy => hdigest y hy (hne y hy)
        entry_blob := h.entry_blob.insertTarget hf
        session_blob := h.session_blob.insertTarget hf }
  | updateBlob row =>
      obtain ⟨old, ho, hr, rfl⟩ := exec_updateBlob_ok.mp hw
      obtain ⟨hchecks, hobject, hdigest⟩ := blobConstraints_satisfied (satisfied_append.mp hr).2
      exact { h with
        blob_checks := Relation.forall_replace h.blob_checks hchecks
        blob_object := h.blob_object.replace hobject
        blob_digest := h.blob_digest.replace hdigest
        entry_blob := h.entry_blob.replaceTarget
        session_blob := h.session_blob.replaceTarget }
  | insertEntry row =>
      obtain ⟨hr, hf, rfl⟩ := exec_insertEntry_ok.mp hw
      obtain ⟨_, hordinal, hblob, hversion⟩ := entryRules_satisfied hr
      exact { h with
        entry_ordinal := h.entry_ordinal.insert hf hordinal
        entry_blob := h.entry_blob.insert hf hblob
        entry_version := h.entry_version.insert hf hversion }
  | insertSession row =>
      obtain ⟨⟨hcreated, hr⟩, hf, rfl⟩ := exec_insertSession_ok.mp hw
      obtain ⟨hchecks, hgeneration, hactive, hblob, hversion⟩ := sessionConstraints_satisfied hr
      have hne : ∀ y ∈ s.db.sessions.rows, y.id ≠ row.id := fun _ => Relation.key_ne_of_free hf
      exact { h with
        session_checks := Relation.forall_insert h.session_checks hf hchecks
        session_generation := h.session_generation.insert hf fun y hy =>
          hgeneration y hy (hne y hy)
        session_active := h.session_active.insert hf fun y hy => hactive y hy (hne y hy)
        session_blob := h.session_blob.insert hf hblob
        session_version := h.session_version.insert hf hversion
        session_single := Relation.forall_insert h.session_single hf fun _ => Or.inl hcreated
        part_session := fun p hp => (h.part_session p hp).insertSession hf
        admission_session := h.admission_session.insertTarget hf
        completion_session := h.completion_session.insertTarget hf }
  | updateSession row =>
      obtain ⟨old, ho, hr, rfl⟩ := exec_updateSession_ok.mp hw
      obtain ⟨hguard, hr⟩ := satisfied_append.mp hr
      obtain ⟨hchecks, hgeneration, hactive, hblob, hversion⟩ := sessionConstraints_satisfied hr
      obtain ⟨_, _, hstrategy, hedge⟩ := guardUploadSession_satisfied hguard
      have hsingle : row.strategy = .singlePut → SinglePutState row.state := by
        intro hs
        by_cases hstate : row.state = old.state
        · rw [hstate]
          exact h.session_single old (Relation.mem_of_get? ho) (hstrategy ▸ hs)
        · exact singlePutState_of_edge (hedge (hstrategy ▸ hs) hstate)
      exact { h with
        session_checks := Relation.forall_replace h.session_checks hchecks
        session_generation := h.session_generation.replace hgeneration
        session_active := h.session_active.replace hactive
        session_blob := h.session_blob.replace hblob
        session_version := h.session_version.replace hversion
        session_single := Relation.forall_replace h.session_single hsingle
        part_session := fun p hp => (h.part_session p hp).replaceSession ho hstrategy
        admission_session := h.admission_session.replaceTarget
        completion_session := h.completion_session.replaceTarget }
  | insertPart row =>
      obtain ⟨hr, hf, rfl⟩ := exec_insertPart_ok.mp hw
      obtain ⟨hguard, hr⟩ := satisfied_append.mp hr
      obtain ⟨hchecks, hoffset⟩ := partConstraints_satisfied hr
      obtain ⟨hparent, hplanned⟩ := guardInsertPart_satisfied hguard
      have hne : ∀ y ∈ s.db.parts.rows, key y ≠ key row := fun _ => Relation.key_ne_of_free hf
      exact { h with
        part_checks := Relation.forall_insert h.part_checks hf hchecks
        part_checksums := Relation.forall_insert h.part_checksums hf hplanned
        part_offset := h.part_offset.insert hf fun y hy => hoffset y hy (hne y hy)
        part_session := Relation.forall_insert h.part_session hf hparent }
  | updatePart row =>
      obtain ⟨old, ho, hr, rfl⟩ := exec_updatePart_ok.mp hw
      obtain ⟨hguard, hr⟩ := satisfied_append.mp hr
      obtain ⟨hchecks, hoffset⟩ := partConstraints_satisfied hr
      obtain ⟨hparent, hplanned⟩ := guardUpdatePart_satisfied hguard
      exact { h with
        part_checks := Relation.forall_replace h.part_checks hchecks
        part_checksums := Relation.forall_replace h.part_checksums hplanned
        part_offset := h.part_offset.replace hoffset
        part_session := Relation.forall_replace h.part_session hparent }
  | insertAdmissionLease row =>
      obtain ⟨⟨_, hr⟩, hf, rfl⟩ := exec_insertAdmissionLease_ok.mp hw
      simp only [admissionLeaseConstraints, satisfied_append, satisfied_cons,
        Rule.violated_foreignKey] at hr
      exact { h with
        admission_checks := Relation.forall_insert h.admission_checks hf hr.1
        admission_session := h.admission_session.insert hf hr.2.1 }
  | updateAdmissionLease row =>
      obtain ⟨old, ho, hr, rfl⟩ := exec_updateAdmissionLease_ok.mp hw
      simp only [admissionLeaseConstraints, satisfied_append, satisfied_cons,
        Rule.violated_foreignKey] at hr
      exact { h with
        admission_checks := Relation.forall_replace h.admission_checks hr.2.1
        admission_session := h.admission_session.replace hr.2.2.1 }
  | insertCompletionLease row =>
      obtain ⟨⟨_, hr⟩, hf, rfl⟩ := exec_insertCompletionLease_ok.mp hw
      simp only [completionLeaseConstraints, satisfied_append, satisfied_cons,
        Rule.violated_foreignKey] at hr
      exact { h with
        completion_checks := Relation.forall_insert h.completion_checks hf hr.1
        completion_session := h.completion_session.insert hf hr.2.1 }
  | updateCompletionLease row =>
      obtain ⟨old, ho, hr, rfl⟩ := exec_updateCompletionLease_ok.mp hw
      simp only [completionLeaseConstraints, satisfied_append, satisfied_cons,
        Rule.violated_foreignKey] at hr
      exact { h with
        completion_checks := Relation.forall_replace h.completion_checks hr.2.1
        completion_session := h.completion_session.replace hr.2.2.1 }
  | insertIdempotency row =>
      obtain ⟨_, _, rfl⟩ := exec_insertIdempotency_ok.mp hw
      exact { h with }

/-- Every transaction keeps the tables lawful, whatever its program. -/
theorem Lawful.run {α : Type} {tx : Tx α} {s s' : TxState} {a : α} (h : Lawful s.db)
    (hrun : Work.run tx s = .ok (a, s')) : Lawful s'.db :=
  run_keeps (I := fun s => Lawful s.db) (fun _ _ _ hw hs => lawful_of_exec hw hs) tx hrun h

theorem Lawful.transact {α : Type} {tx : Tx α} {env : Env} {r : Registry} (h : Lawful r.db) :
    Lawful (transact tx env r).2.db := by
  rcases transact_cases tx env r with ⟨_, hdb⟩ | ⟨_, _, _, _, hrun, _, hdb⟩
  · rw [hdb]
    exact h
  · rw [hdb]
    exact h.run hrun

end RoboLake
