import RoboLake.Registry.Lawful

/-! # What stays

No accepted statement deletes a row, and the triggers freeze what must not change
again: a READY Version, sealed content, an AVAILABLE Blob, a terminal session, the
identity of a part, a bound key. `Extends` collects this as one preorder on tables,
so it relates the two ends of every run.
-/

namespace RoboLake

open Foundation Work Migrations

/-! ## Rows that move -/

/-- The columns that sealing freezes. -/
def SameContent (v v' : DatasetVersionModel) : Prop :=
  v'.datasetId = v.datasetId ∧ v'.versionNumber = v.versionNumber ∧
    v'.manifestSchemaVersion = v.manifestSchemaVersion ∧ v'.manifestBytes = v.manifestBytes ∧
    v'.manifestSha256 = v.manifestSha256 ∧ v'.fileCount = v.fileCount ∧
    v'.logicalBytes = v.logicalBytes ∧ v'.uniqueBlobCount = v.uniqueBlobCount ∧
    v'.uniqueBlobBytes = v.uniqueBlobBytes ∧ v'.sealedAt = v.sealedAt

structure VersionLater (v v' : DatasetVersionModel) : Prop where
  ready : v.state = .ready → v' = v
  content : v.sealedAt ≠ none → SameContent v v'

structure BlobLater (b b' : BlobModel) : Prop where
  sha256 : b'.sha256 = b.sha256
  sizeBytes : b'.sizeBytes = b.sizeBytes
  objectKey : b'.objectKey = b.objectKey
  available : b.state = .available → b' = b

def SessionState.isTerminal : SessionState → Bool
  | .completed | .aborted | .cancelled | .failed => true
  | .created | .initiating | .inProgress | .completing | .aborting => false

theorem SessionState.isTerminal_iff {state : SessionState} :
    state.isTerminal = true ↔
      state = .completed ∨ state = .aborted ∨ state = .cancelled ∨ state = .failed := by
  cases state <;> simp [isTerminal]

/-- The columns that freeze the plan of a multipart session. -/
def SamePlan (u u' : UploadSessionModel) : Prop :=
  u'.sessionGeneration = u.sessionGeneration ∧ u'.partSizeBytes = u.partSizeBytes ∧
    u'.plannedPartCount = u.plannedPartCount ∧
    u'.partPlanSchemaVersion = u.partPlanSchemaVersion ∧ u'.partPlanSha256 = u.partPlanSha256

structure SessionLater (u u' : UploadSessionModel) : Prop where
  blob : u'.blobId = u.blobId
  version : u'.initiatingVersionId = u.initiatingVersionId
  strategy : u'.strategy = u.strategy
  plan : u.strategy = .multipart → SamePlan u u'
  terminal : u.state.isTerminal = true → u' = u

structure PartLater (p p' : UploadPartModel) : Prop where
  offset : p'.offsetBytes = p.offsetBytes
  size : p'.sizeBytes = p.sizeBytes
  sha256 : p'.sha256 = p.sha256

/-- An epoch that did not move has kept its owner. -/
structure AdmissionLater (l l' : MultipartAdmissionLeaseModel) : Prop where
  epoch : l.epoch ≤ l'.epoch
  owner : l'.epoch = l.epoch → l'.ownerId = l.ownerId ∧ l'.invocationId = l.invocationId

structure CompletionLater (l l' : MultipartCompletionLeaseModel) : Prop where
  epoch : l.epoch ≤ l'.epoch
  owner : l'.epoch = l.epoch → l'.ownerInstanceId = l.ownerInstanceId

theorem VersionLater.refl (v : DatasetVersionModel) : VersionLater v v :=
  ⟨fun _ => rfl, fun _ => ⟨rfl, rfl, rfl, rfl, rfl, rfl, rfl, rfl, rfl, rfl⟩⟩

theorem VersionLater.trans {x y z : DatasetVersionModel} (h : VersionLater x y)
    (h' : VersionLater y z) : VersionLater x z := by
  refine ⟨fun hr => ?_, fun hs => ?_⟩
  · have hy := h.ready hr
    rw [h'.ready (hy ▸ hr), hy]
  · obtain ⟨h₁, h₂, h₃, h₄, h₅, h₆, h₇, h₈, h₉, h₁₀⟩ := h.content hs
    obtain ⟨k₁, k₂, k₃, k₄, k₅, k₆, k₇, k₈, k₉, k₁₀⟩ := h'.content (h₁₀ ▸ hs)
    exact ⟨k₁.trans h₁, k₂.trans h₂, k₃.trans h₃, k₄.trans h₄, k₅.trans h₅, k₆.trans h₆,
      k₇.trans h₇, k₈.trans h₈, k₉.trans h₉, k₁₀.trans h₁₀⟩

theorem BlobLater.refl (b : BlobModel) : BlobLater b b := ⟨rfl, rfl, rfl, fun _ => rfl⟩

theorem BlobLater.trans {x y z : BlobModel} (h : BlobLater x y) (h' : BlobLater y z) :
    BlobLater x z := by
  refine ⟨h'.sha256.trans h.sha256, h'.sizeBytes.trans h.sizeBytes,
    h'.objectKey.trans h.objectKey, fun ha => ?_⟩
  have hy := h.available ha
  rw [h'.available (hy ▸ ha), hy]

theorem SessionLater.refl (u : UploadSessionModel) : SessionLater u u :=
  ⟨rfl, rfl, rfl, fun _ => ⟨rfl, rfl, rfl, rfl, rfl⟩, fun _ => rfl⟩

theorem SamePlan.trans {x y z : UploadSessionModel} (h : SamePlan x y) (h' : SamePlan y z) :
    SamePlan x z := by
  obtain ⟨h₁, h₂, h₃, h₄, h₅⟩ := h
  obtain ⟨k₁, k₂, k₃, k₄, k₅⟩ := h'
  exact ⟨k₁.trans h₁, k₂.trans h₂, k₃.trans h₃, k₄.trans h₄, k₅.trans h₅⟩

theorem SessionLater.trans {x y z : UploadSessionModel} (h : SessionLater x y)
    (h' : SessionLater y z) : SessionLater x z := by
  refine ⟨h'.blob.trans h.blob, h'.version.trans h.version, h'.strategy.trans h.strategy,
    fun hm => (h.plan hm).trans (h'.plan (h.strategy.trans hm)), fun ht => ?_⟩
  have hy := h.terminal ht
  rw [h'.terminal (hy ▸ ht), hy]

theorem PartLater.refl (p : UploadPartModel) : PartLater p p := ⟨rfl, rfl, rfl⟩

theorem PartLater.trans {x y z : UploadPartModel} (h : PartLater x y) (h' : PartLater y z) :
    PartLater x z :=
  ⟨h'.offset.trans h.offset, h'.size.trans h.size, h'.sha256.trans h.sha256⟩

theorem AdmissionLater.refl (l : MultipartAdmissionLeaseModel) : AdmissionLater l l :=
  ⟨le_refl _, fun _ => ⟨rfl, rfl⟩⟩

theorem AdmissionLater.trans {x y z : MultipartAdmissionLeaseModel} (h : AdmissionLater x y)
    (h' : AdmissionLater y z) : AdmissionLater x z := by
  refine ⟨h.epoch.trans h'.epoch, fun he => ?_⟩
  have hxy : y.epoch = x.epoch := le_antisymm (he ▸ h'.epoch) h.epoch
  obtain ⟨ho, hi⟩ := h.owner hxy
  obtain ⟨ho', hi'⟩ := h'.owner (he.trans hxy.symm)
  exact ⟨ho'.trans ho, hi'.trans hi⟩

theorem CompletionLater.refl (l : MultipartCompletionLeaseModel) : CompletionLater l l :=
  ⟨le_refl _, fun _ => rfl⟩

theorem CompletionLater.trans {x y z : MultipartCompletionLeaseModel} (h : CompletionLater x y)
    (h' : CompletionLater y z) : CompletionLater x z := by
  refine ⟨h.epoch.trans h'.epoch, fun he => ?_⟩
  have hxy : y.epoch = x.epoch := le_antisymm (he ▸ h'.epoch) h.epoch
  exact (h'.owner (he.trans hxy.symm)).trans (h.owner hxy)

variable [Platform]

/-! ## The preorder -/

/-- The second tables are later tables of the first. -/
structure Extends (db db' : Database) : Prop where
  datasets : Relation.Later Eq db.datasets db'.datasets
  versions : Relation.Later VersionLater db.versions db'.versions
  blobs : Relation.Later BlobLater db.blobs db'.blobs
  entries : Relation.Later Eq db.entries db'.entries
  /-- A new entry belongs to a Version that was not sealed. -/
  sealed : ∀ e ∈ db'.entries.rows, e ∈ db.entries.rows ∨
    ∀ v, db.versions.get? e.datasetVersionId = some v → v.sealedAt = none
  sessions : Relation.Later SessionLater db.sessions db'.sessions
  parts : Relation.Later PartLater db.parts db'.parts
  /-- The parts of a terminal session are frozen. -/
  frozen : ∀ p ∈ db.parts.rows, ∀ u, db.sessions.get? p.uploadSessionId = some u →
    u.state.isTerminal = true → p ∈ db'.parts.rows
  admissions : Relation.Later AdmissionLater db.admissionLeases db'.admissionLeases
  completions : Relation.Later CompletionLater db.completionLeases db'.completionLeases
  idempotency : Relation.Later Eq db.idempotency db'.idempotency

theorem Extends.refl (db : Database) : Extends db db where
  datasets := Relation.Later.refl (fun _ => rfl) _
  versions := Relation.Later.refl VersionLater.refl _
  blobs := Relation.Later.refl BlobLater.refl _
  entries := Relation.Later.refl (fun _ => rfl) _
  sealed := fun _ he => Or.inl he
  sessions := Relation.Later.refl SessionLater.refl _
  parts := Relation.Later.refl PartLater.refl _
  frozen := fun _ hp _ _ _ => hp
  admissions := Relation.Later.refl AdmissionLater.refl _
  completions := Relation.Later.refl CompletionLater.refl _
  idempotency := Relation.Later.refl (fun _ => rfl) _

theorem Extends.trans {db₁ db₂ db₃ : Database} (h : Extends db₁ db₂) (h' : Extends db₂ db₃) :
    Extends db₁ db₃ where
  datasets := h.datasets.trans (fun _ _ _ hl hl' => hl.trans hl') h'.datasets
  versions := h.versions.trans (fun _ _ _ hl hl' => hl.trans hl') h'.versions
  blobs := h.blobs.trans (fun _ _ _ hl hl' => hl.trans hl') h'.blobs
  entries := h.entries.trans (fun _ _ _ hl hl' => hl.trans hl') h'.entries
  sealed := by
    intro e he
    rcases h'.sealed e he with he | hunsealed
    · exact h.sealed e he
    · refine Or.inr fun v hv => ?_
      obtain ⟨v', hv', hlater⟩ := h.versions _ v hv
      by_contra hs
      obtain ⟨_, _, _, _, _, _, _, _, _, hsame⟩ := hlater.content hs
      exact hs (hsame ▸ hunsealed v' hv')
  sessions := h.sessions.trans (fun _ _ _ hl hl' => hl.trans hl') h'.sessions
  parts := h.parts.trans (fun _ _ _ hl hl' => hl.trans hl') h'.parts
  frozen := by
    intro p hp u hu ht
    obtain ⟨u', hu', hlater⟩ := h.sessions _ u hu
    exact h'.frozen p (h.frozen p hp u hu ht) u' hu' (hlater.terminal ht ▸ ht)
  admissions := h.admissions.trans (fun _ _ _ hl hl' => hl.trans hl') h'.admissions
  completions := h.completions.trans (fun _ _ _ hl hl' => hl.trans hl') h'.completions
  idempotency := h.idempotency.trans (fun _ _ _ hl hl' => hl.trans hl') h'.idempotency

/-! ## One update -/

theorem versionLater_of_guard {db : Database} {old new : DatasetVersionModel}
    (h : Satisfied (guardDatasetVersion db old new)) : VersionLater old new := by
  simp only [guardDatasetVersion, satisfied_append, satisfied_cons, Rule.violated_raiseIf,
    Ternary.holds_of, satisfied_nil, and_true] at h
  obtain ⟨⟨⟨hready, hcontent⟩, _⟩, _⟩ := h
  refine ⟨fun hr => by_contra fun hne => hready ⟨hr, hne⟩, fun hs => ?_⟩
  unfold SameContent
  simp only [not_and, not_or, not_not] at hcontent
  exact hcontent hs

omit [Platform] in
theorem blobLater_of_guard {old new : BlobModel} (h : Satisfied (guardBlob old new)) :
    BlobLater old new := by
  simp only [guardBlob, satisfied_cons, Rule.violated_raiseIf, Ternary.holds_of, not_or, not_not,
    not_and, satisfied_nil, and_true] at h
  obtain ⟨⟨hsha, hsize, hkey⟩, havailable, _⟩ := h
  exact ⟨hsha, hsize, hkey, havailable⟩

theorem sessionLater_of_guard {db : Database} {old new : UploadSessionModel}
    (h : Satisfied (guardUploadSession db old new))
    (hsingle : old.strategy = .singlePut → SinglePutState old.state) : SessionLater old new := by
  obtain ⟨hblob, hversion, hstrategy, _⟩ := guardUploadSession_satisfied h
  simp only [guardUploadSession, satisfied_cons] at h
  obtain ⟨_, h⟩ := h
  refine ⟨hblob, hversion, hstrategy, fun hm => ?_, fun ht => ?_⟩
  · have hmultipart : old.strategy ≠ .singlePut := by simp [hm]
    rw [if_neg hmultipart] at h
    simp only [guardMultipartSession, satisfied_append, satisfied_cons, Rule.violated_raiseIf,
      Ternary.holds_of, not_or, not_not] at h
    obtain ⟨hgeneration, hsize, hcount, hschema, hsha, _⟩ := h.1.1.1.1.1
    exact ⟨hgeneration, hsize, hcount, hschema, hsha⟩
  by_contra hne
  by_cases hs : old.strategy = .singlePut
  · rw [if_pos hs] at h
    simp only [guardSinglePutSession, satisfied_cons, Rule.violated_raiseIf, Ternary.holds_of] at h
    refine h.1 ⟨?_, hne⟩
    rcases hsingle hs with he | he | he | he
    · rw [he] at ht
      cases ht
    · rw [he] at ht
      cases ht
    · exact Or.inl he
    · exact Or.inr he
  · rw [if_neg hs] at h
    simp only [guardMultipartSession, satisfied_append, satisfied_cons, Rule.violated_raiseIf,
      Ternary.holds_of] at h
    exact h.1.1.1.1.2.1 ⟨SessionState.isTerminal_iff.mp ht, hne⟩

theorem partLater_of_guard {db : Database} {old new : UploadPartModel}
    (h : Satisfied (guardUpdatePart db old new)) :
    PartLater old new ∧ ∀ u, db.sessions.get? new.uploadSessionId = some u →
      u.state.isTerminal = true → new = old := by
  simp only [guardUpdatePart, satisfied_cons, Rule.violated_raiseIf, Ternary.holds_of,
    Ternary.holds_and, Ternary.holds_lift] at h
  obtain ⟨_, hidentity, hterminal, _⟩ := h
  simp only [not_or, not_not] at hidentity
  obtain ⟨_, _, hoffset, hsize, hsha⟩ := hidentity
  refine ⟨⟨hoffset, hsize, hsha⟩, fun u hu ht => ?_⟩
  by_contra hne
  exact hterminal ⟨⟨u, hu, SessionState.isTerminal_iff.mp ht⟩, hne⟩

omit [Platform] in
theorem admissionLater_of_guard {clock : Timestamp} {old new : MultipartAdmissionLeaseModel}
    (h : Satisfied (guardAdmissionLease clock old new)) : AdmissionLater old new := by
  simp only [guardAdmissionLease, satisfied_cons, Rule.violated_raiseIf, Ternary.holds_of,
    not_or, not_lt, not_not] at h
  obtain ⟨⟨_, hepoch, _⟩, hrest⟩ := h
  refine ⟨hepoch, fun he => ?_⟩
  by_cases hmoved : new.ownerId ≠ old.ownerId ∨ new.invocationId ≠ old.invocationId
  · rw [if_pos hmoved] at hrest
    simp only [satisfied_cons, Rule.violated_raiseIf, Ternary.holds_of, not_or, not_not] at hrest
    omega
  · simpa only [not_or, not_not] using hmoved

omit [Platform] in
theorem completionLater_of_guard {clock : Timestamp} {old new : MultipartCompletionLeaseModel}
    (h : Satisfied (guardCompletionLease clock old new)) : CompletionLater old new := by
  simp only [guardCompletionLease, satisfied_cons, Rule.violated_raiseIf, Ternary.holds_of,
    not_or, not_lt, not_not] at h
  obtain ⟨⟨_, hepoch, _⟩, hrest⟩ := h
  refine ⟨hepoch, fun he => ?_⟩
  rw [if_pos he] at hrest
  simp only [satisfied_cons, Rule.violated_raiseIf, Ternary.holds_of, not_or, not_not] at hrest
  exact hrest.1.1

/-! ## Every statement extends the tables -/

theorem extends_of_exec {w : Write} {s s' : TxState} (hw : execWrite w s = .ok s')
    (h : Lawful s.db) : Extends s.db s'.db := by
  have hrefl := Extends.refl s.db
  cases w with
  | tick =>
      cases hw
      exact hrefl
  | glance =>
      cases hw
      exact hrefl
  | draw =>
      cases hw
      exact hrefl
  | insertDataset row =>
      obtain ⟨_, hf, rfl⟩ := exec_insertDataset_ok.mp hw
      exact { hrefl with datasets := Relation.Later.insert (fun _ => rfl) hf }
  | insertVersion row =>
      obtain ⟨_, hf, rfl⟩ := exec_insertVersion_ok.mp hw
      exact { hrefl with versions := Relation.Later.insert VersionLater.refl hf }
  | updateVersion row =>
      obtain ⟨old, ho, hr, rfl⟩ := exec_updateVersion_ok.mp hw
      have hlater := versionLater_of_guard (satisfied_append.mp hr).1
      exact { hrefl with versions := Relation.Later.replace VersionLater.refl ho hlater }
  | insertBlob row =>
      obtain ⟨_, hf, rfl⟩ := exec_insertBlob_ok.mp hw
      exact { hrefl with blobs := Relation.Later.insert BlobLater.refl hf }
  | updateBlob row =>
      obtain ⟨old, ho, hr, rfl⟩ := exec_updateBlob_ok.mp hw
      have hlater := blobLater_of_guard (satisfied_append.mp hr).1
      exact { hrefl with blobs := Relation.Later.replace BlobLater.refl ho hlater }
  | insertEntry row =>
      obtain ⟨hr, hf, rfl⟩ := exec_insertEntry_ok.mp hw
      refine { hrefl with
        entries := Relation.Later.insert (fun _ => rfl) hf
        sealed := fun e he => ?_ }
      rcases (Relation.mem_insert hf).mp he with he | rfl
      · exact Or.inl he
      · exact Or.inr (entryRules_satisfied hr).1
  | insertSession row =>
      obtain ⟨_, hf, rfl⟩ := exec_insertSession_ok.mp hw
      exact { hrefl with sessions := Relation.Later.insert SessionLater.refl hf }
  | updateSession row =>
      obtain ⟨old, ho, hr, rfl⟩ := exec_updateSession_ok.mp hw
      have hlater := sessionLater_of_guard (satisfied_append.mp hr).1
        (h.session_single old (Relation.mem_of_get? ho))
      exact { hrefl with sessions := Relation.Later.replace SessionLater.refl ho hlater }
  | insertPart row =>
      obtain ⟨_, hf, rfl⟩ := exec_insertPart_ok.mp hw
      exact { hrefl with
        parts := Relation.Later.insert PartLater.refl hf
        frozen := fun p hp _ _ _ => (Relation.mem_insert hf).mpr (Or.inl hp) }
  | updatePart row =>
      obtain ⟨old, ho, hr, rfl⟩ := exec_updatePart_ok.mp hw
      obtain ⟨hlater, hfrozen⟩ := partLater_of_guard (satisfied_append.mp hr).1
      refine { hrefl with
        parts := Relation.Later.replace PartLater.refl ho hlater
        frozen := fun p hp u hu ht => ?_ }
      by_cases hk : key p = key row
      · have hp' : p = old := Option.some.inj ((Relation.get?_of_mem hp).symm.trans (hk ▸ ho))
        have hid : p.uploadSessionId = row.uploadSessionId := congrArg Prod.fst hk
        rw [hp', ← hfrozen u (hid ▸ hu) ht]
        exact Relation.mem_replace_self ho
      · exact Relation.mem_replace_of_ne hp hk
  | insertAdmissionLease row =>
      obtain ⟨_, hf, rfl⟩ := exec_insertAdmissionLease_ok.mp hw
      exact { hrefl with admissions := Relation.Later.insert AdmissionLater.refl hf }
  | updateAdmissionLease row =>
      obtain ⟨old, ho, hr, rfl⟩ := exec_updateAdmissionLease_ok.mp hw
      have hlater := admissionLater_of_guard (satisfied_append.mp hr).1
      exact { hrefl with admissions := Relation.Later.replace AdmissionLater.refl ho hlater }
  | insertCompletionLease row =>
      obtain ⟨_, hf, rfl⟩ := exec_insertCompletionLease_ok.mp hw
      exact { hrefl with completions := Relation.Later.insert CompletionLater.refl hf }
  | updateCompletionLease row =>
      obtain ⟨old, ho, hr, rfl⟩ := exec_updateCompletionLease_ok.mp hw
      have hlater := completionLater_of_guard (satisfied_append.mp hr).1
      exact { hrefl with completions := Relation.Later.replace CompletionLater.refl ho hlater }
  | insertIdempotency row =>
      obtain ⟨_, hf, rfl⟩ := exec_insertIdempotency_ok.mp hw
      exact { hrefl with idempotency := Relation.Later.insert (fun _ => rfl) hf }

/-- Every transaction extends lawful tables, whatever its program. -/
theorem extends_of_run {α : Type} {tx : Tx α} {s s' : TxState} {a : α} (h : Lawful s.db)
    (hrun : run tx s = .ok (a, s')) : Extends s.db s'.db := by
  have hkeep := run_keeps (I := fun s₁ => Lawful s₁.db ∧ Extends s.db s₁.db)
    (fun _ _ _ hw hs => ⟨lawful_of_exec hw hs.1, hs.2.trans (extends_of_exec hw hs.1)⟩)
    tx hrun ⟨h, Extends.refl s.db⟩
  exact hkeep.2

theorem extends_of_transact {α : Type} {tx : Tx α} {env : Env} {r : Registry} (h : Lawful r.db) :
    Extends r.db (transact tx env r).2.db := by
  rcases transact_cases tx env r with ⟨_, hdb⟩ | ⟨_, _, _, _, hrun, _, hdb⟩
  · rw [hdb]
    exact Extends.refl _
  · rw [hdb]
    exact extends_of_run h hrun

end RoboLake
