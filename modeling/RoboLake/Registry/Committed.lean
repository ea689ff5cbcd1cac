import RoboLake.Registry.Extends

/-! # What a commit has checked

Every row a transaction changed is watched by a deferred trigger, so after a commit
a changed Version is sealed and a changed multipart Blob meets the publication
rules. What the transaction did not touch it inherits, so both facts hold of every
committed state.
-/

namespace RoboLake

open Foundation Work Migrations

variable [Platform]

/-! ## Watched rows -/

/-- Every row that differs from the start of the transaction is watched. -/
structure Tracked (db : Database) (s : TxState) : Prop where
  version : ∀ id v, s.db.versions.get? id = some v →
    db.versions.get? id = some v ∨ .version id ∈ s.touched
  blob : ∀ id b, s.db.blobs.get? id = some b →
    db.blobs.get? id = some b ∨ db.blobs.get? id = none ∨ .blob id ∈ s.touched
  session : ∀ id u, s.db.sessions.get? id = some u →
    db.sessions.get? id = some u ∨ .session u.blobId ∈ s.touched

theorem Tracked.refl (s : TxState) : Tracked s.db s :=
  ⟨fun _ _ h => Or.inl h, fun _ _ h => Or.inl h, fun _ _ h => Or.inl h⟩

theorem Tracked.of_eq {db : Database} {s s' : TxState} (h : Tracked db s)
    (hv : s'.db.versions = s.db.versions) (hb : s'.db.blobs = s.db.blobs)
    (hu : s'.db.sessions = s.db.sessions) (ht : s'.touched = s.touched) : Tracked db s' := by
  refine ⟨?_, ?_, ?_⟩
  · rw [hv, ht]
    exact h.version
  · rw [hb, ht]
    exact h.blob
  · rw [hu, ht]
    exact h.session

theorem tracked_of_exec {db : Database} {w : Write} {s s' : TxState}
    (hw : execWrite w s = .ok s') (h : Tracked db s) (he : Extends db s.db) : Tracked db s' := by
  have htouched : ∀ {t t' : Touched}, t ∈ s.touched → t ∈ s.touched ++ [t'] :=
    fun ht => List.mem_append_left _ ht
  cases w with
  | tick =>
      cases hw
      exact h.of_eq rfl rfl rfl rfl
  | glance =>
      cases hw
      exact h.of_eq rfl rfl rfl rfl
  | draw =>
      cases hw
      exact h.of_eq rfl rfl rfl rfl
  | insertDataset row =>
      obtain ⟨_, _, rfl⟩ := exec_insertDataset_ok.mp hw
      exact h.of_eq rfl rfl rfl rfl
  | insertVersion row =>
      obtain ⟨_, hf, rfl⟩ := exec_insertVersion_ok.mp hw
      refine ⟨fun id v hv => ?_, fun id b hb => ?_, fun id u hu => ?_⟩
      · simp only at hv
        rw [Relation.get?_insert hf] at hv
        split at hv
        · rename_i hid
          exact Or.inr (by rw [hid]; simp [key])
        · exact (h.version id v hv).imp_right htouched
      · exact (h.blob id b hb).imp_right (Or.imp_right htouched)
      · exact (h.session id u hu).imp_right htouched
  | updateVersion row =>
      obtain ⟨old, ho, _, rfl⟩ := exec_updateVersion_ok.mp hw
      refine ⟨fun id v hv => ?_, fun id b hb => ?_, fun id u hu => ?_⟩
      · by_cases hid : id = row.id
        · exact Or.inr (by rw [hid]; simp)
        · simp only at hv
          rw [Relation.get?_replace_ne hid] at hv
          exact (h.version id v hv).imp_right htouched
      · exact (h.blob id b hb).imp_right (Or.imp_right htouched)
      · exact (h.session id u hu).imp_right htouched
  | insertBlob row =>
      obtain ⟨_, hf, rfl⟩ := exec_insertBlob_ok.mp hw
      refine ⟨h.version, fun id b hb => ?_, h.session⟩
      simp only at hb
      rw [Relation.get?_insert hf] at hb
      split at hb
      · rename_i hid
        refine Or.inr (Or.inl ?_)
        cases hdb : db.blobs.get? id with
        | none => rfl
        | some b₀ =>
            obtain ⟨b₁, hb₁, _⟩ := he.blobs id b₀ hdb
            rw [hid, key_blob, hf] at hb₁
            cases hb₁
      · exact h.blob id b hb
  | updateBlob row =>
      obtain ⟨old, ho, _, rfl⟩ := exec_updateBlob_ok.mp hw
      refine ⟨fun id v hv => ?_, fun id b hb => ?_, fun id u hu => ?_⟩
      · exact (h.version id v hv).imp_right htouched
      · by_cases hid : id = row.id
        · exact Or.inr (Or.inr (by rw [hid]; simp))
        · simp only at hb
          rw [Relation.get?_replace_ne hid] at hb
          exact (h.blob id b hb).imp_right (Or.imp_right htouched)
      · exact (h.session id u hu).imp_right htouched
  | insertEntry row =>
      obtain ⟨_, _, rfl⟩ := exec_insertEntry_ok.mp hw
      exact h.of_eq rfl rfl rfl rfl
  | insertSession row =>
      obtain ⟨_, hf, rfl⟩ := exec_insertSession_ok.mp hw
      refine ⟨fun id v hv => ?_, fun id b hb => ?_, fun id u hu => ?_⟩
      · exact (h.version id v hv).imp_right htouched
      · exact (h.blob id b hb).imp_right (Or.imp_right htouched)
      · simp only at hu
        rw [Relation.get?_insert hf] at hu
        split at hu
        · cases hu
          exact Or.inr (by simp)
        · exact (h.session id u hu).imp_right htouched
  | updateSession row =>
      obtain ⟨old, ho, _, rfl⟩ := exec_updateSession_ok.mp hw
      refine ⟨fun id v hv => ?_, fun id b hb => ?_, fun id u hu => ?_⟩
      · exact (h.version id v hv).imp_right htouched
      · exact (h.blob id b hb).imp_right (Or.imp_right htouched)
      · simp only at hu
        by_cases hid : id = row.id
        · have hrow : (s.db.sessions.replace row).get? row.id = some row :=
            Relation.get?_replace_self ho
          rw [hid, hrow] at hu
          cases hu
          exact Or.inr (by simp)
        · rw [Relation.get?_replace_ne hid] at hu
          exact (h.session id u hu).imp_right htouched
  | insertPart row =>
      obtain ⟨_, _, rfl⟩ := exec_insertPart_ok.mp hw
      exact h.of_eq rfl rfl rfl rfl
  | updatePart row =>
      obtain ⟨_, _, _, rfl⟩ := exec_updatePart_ok.mp hw
      exact h.of_eq rfl rfl rfl rfl
  | insertAdmissionLease row =>
      obtain ⟨_, _, rfl⟩ := exec_insertAdmissionLease_ok.mp hw
      exact h.of_eq rfl rfl rfl rfl
  | updateAdmissionLease row =>
      obtain ⟨_, _, _, rfl⟩ := exec_updateAdmissionLease_ok.mp hw
      exact h.of_eq rfl rfl rfl rfl
  | insertCompletionLease row =>
      obtain ⟨_, _, rfl⟩ := exec_insertCompletionLease_ok.mp hw
      exact h.of_eq rfl rfl rfl rfl
  | updateCompletionLease row =>
      obtain ⟨_, _, _, rfl⟩ := exec_updateCompletionLease_ok.mp hw
      exact h.of_eq rfl rfl rfl rfl
  | insertIdempotency row =>
      obtain ⟨_, _, rfl⟩ := exec_insertIdempotency_ok.mp hw
      exact h.of_eq rfl rfl rfl rfl

theorem tracked_of_run {α : Type} {tx : Tx α} {s s' : TxState} {a : α} (h : Lawful s.db)
    (hrun : run tx s = .ok (a, s')) : Tracked s.db s' := by
  have hkeep := run_keeps (I := fun s₁ => (Lawful s₁.db ∧ Extends s.db s₁.db) ∧ Tracked s.db s₁)
    (fun _ _ _ hw hs => ⟨⟨lawful_of_exec hw hs.1.1,
      hs.1.2.trans (extends_of_exec hw hs.1.1)⟩, tracked_of_exec hw hs.2 hs.1.2⟩)
    tx hrun ⟨⟨h, Extends.refl s.db⟩, Tracked.refl s⟩
  exact hkeep.2

/-! ## Sealed Versions -/

def AllSealed (db : Database) : Prop := ∀ v ∈ db.versions.rows, v.sealedAt ≠ none

/-! ## Publication -/

def HasMultipart (db : Database) (blobId : UUID) : Prop :=
  ∃ u ∈ db.sessions.rows, u.blobId = blobId ∧ u.strategy = .multipart

/-- The publication rules of a multipart Blob that do not look at the clock. -/
structure PublishedBlob (db : Database) (b : BlobModel) : Prop where
  settled : b.state ≠ .verifying
  evidence : b.state = .available → ∃ u ∈ db.sessions.rows, (isValidCompletion b u).Holds
  inactive : b.state = .available → ∀ u ∈ db.sessions.rows, u.blobId = b.id →
    u.strategy = .multipart → u.state.isActive = false
  completed : ∀ u ∈ db.sessions.rows, u.blobId = b.id → u.strategy = .multipart →
    u.state = .completed → b.state = .available

def Published (db : Database) : Prop :=
  ∀ b ∈ db.blobs.rows, HasMultipart db b.id → PublishedBlob db b

theorem publishedBlob_of_rules {db : Database} {clock : Timestamp} {b : BlobModel}
    (h : Satisfied (validateM2Publication db clock b.id)) (hb : b ∈ db.blobs.rows)
    (hm : HasMultipart db b.id) : PublishedBlob db b := by
  have hget : db.blobs.get? b.id = some b := Relation.get?_of_mem hb
  have hexists : ∃ u ∈ db.sessions.rows, u.blobId = b.id ∧ u.strategy = .multipart := hm
  simp only [validateM2Publication, hget, if_pos hexists] at h
  simp only [publicationRules, satisfied_cons, Rule.violated_raiseIf, Ternary.holds_of] at h
  obtain ⟨hsettled, havailable, hcompleted, _⟩ := h
  refine ⟨hsettled, fun ha => ?_, fun ha u hu hub hum => ?_, fun u hu hub hum huc => ?_⟩
  · by_contra hn
    exact havailable ⟨ha, Or.inl hn⟩
  · by_contra hn
    exact havailable ⟨ha, Or.inr ⟨u, hu, ⟨hub, hum⟩, by simpa using hn⟩⟩
  · by_contra hn
    exact hcompleted ⟨⟨u, hu, ⟨hub, hum⟩, huc⟩, hn⟩

omit [Platform] in
theorem isValidCompletion_holds {b : BlobModel} {u : UploadSessionModel} :
    (isValidCompletion b u).Holds ↔
      (u.blobId = b.id ∧ u.strategy = .multipart ∧ u.state = .completed) ∧
      u.completionPhase = some .finalVerification ∧
      u.verificationMethod = some .fullStreamSha256 ∧ u.observedSha256 = some b.sha256 ∧
      u.observedSizeBytes = some b.sizeBytes ∧ u.verificationReadBytes = some b.sizeBytes ∧
      u.verificationCompletedAt ≠ none ∧ ∃ i, u.verifierImplementation = some i ∧ i ≠ "" := by
  simp only [isValidCompletion, Ternary.holds_and, Ternary.holds_of, Ternary.holds_lift,
    exists_eq_right]
  constructor
  · rintro ⟨hrow, hphase, ⟨method, hmethod, _⟩, hrest⟩
    cases method
    exact ⟨hrow, hphase, hmethod, hrest⟩
  · rintro ⟨hrow, hphase, hmethod, hrest⟩
    exact ⟨hrow, hphase, ⟨_, hmethod, trivial⟩, hrest⟩

/-! ## Committed states -/

/-- What every commit leaves behind. -/
structure Committed (db : Database) : Prop where
  lawful : Lawful db
  sealed : AllSealed db
  published : Published db

theorem committed_empty : Committed Database.empty where
  lawful := lawful_empty
  sealed := fun _ hv => by cases hv
  published := fun _ hb => by cases hb

/-- Every transaction takes committed tables to committed tables, whatever its program. -/
theorem Committed.transact {α : Type} {tx : Tx α} {env : Env} {r : Registry}
    (h : Committed r.db) : Committed (transact tx env r).2.db := by
  refine ⟨h.lawful.transact, ?_, ?_⟩ <;>
    rcases transact_cases tx env r with
      ⟨_, hdb⟩ | ⟨_, s, _, _, hrun, hcommit, hdb⟩
  · rw [hdb]
    exact h.sealed
  · have htracked : Tracked r.db s := tracked_of_run (s := beginTx env r) h.lawful hrun
    have hrules := (run_commit_ok hcommit).2
    rw [hdb]
    intro v hv
    rcases htracked.version v.id v (Relation.get?_of_mem hv) with hold | ht
    · exact h.sealed v (Relation.mem_of_get? hold)
    · obtain ⟨clock, hclock⟩ := hrules _ ht
      simp only [Touched.rules, requireSealedVersion, satisfied_cons, Rule.violated_raiseIf,
        Ternary.holds_of] at hclock
      exact fun hs => hclock.1 ⟨v, hv, rfl, hs⟩
  · rw [hdb]
    exact h.published
  · have htracked : Tracked r.db s := tracked_of_run (s := beginTx env r) h.lawful hrun
    have hext : Extends r.db s.db := extends_of_run (s := beginTx env r) h.lawful hrun
    have hrules := (run_commit_ok hcommit).2
    rw [hdb]
    intro b hb hm
    by_cases hwatched : .blob b.id ∈ s.touched ∨ .session b.id ∈ s.touched
    · rcases hwatched with ht | ht
      · obtain ⟨clock, hclock⟩ := hrules _ ht
        exact publishedBlob_of_rules hclock hb hm
      · obtain ⟨clock, hclock⟩ := hrules _ ht
        exact publishedBlob_of_rules hclock hb hm
    · rw [not_or] at hwatched
      -- No row of this Blob was written, so the rules of the committed state before carry over.
      have hsessions : ∀ u ∈ s.db.sessions.rows, u.blobId = b.id → u ∈ r.db.sessions.rows := by
        intro u hu hub
        rcases htracked.session u.id u (Relation.get?_of_mem hu) with hold | ht
        · exact Relation.mem_of_get? hold
        · exact absurd (hub ▸ ht) hwatched.2
      obtain ⟨u, hu, hub, hum⟩ := hm
      have hu₀ := hsessions u hu hub
      have hb₀ : b ∈ r.db.blobs.rows := by
        rcases htracked.blob b.id b (Relation.get?_of_mem hb) with hold | hnew | ht
        · exact Relation.mem_of_get? hold
        · obtain ⟨b₀, hb₀⟩ := h.lawful.session_blob.get hu₀
          rw [hub, hnew] at hb₀
          cases hb₀
        · exact absurd ht hwatched.1
      have hpub := h.published b hb₀ ⟨u, hu₀, hub, hum⟩
      refine ⟨hpub.settled, fun ha => ?_, fun ha x hx hxb => ?_, fun x hx hxb => ?_⟩
      · obtain ⟨x, hx, hvalid⟩ := hpub.evidence ha
        obtain ⟨x', hx', hlater⟩ := hext.sessions x.id x (Relation.get?_of_mem hx)
        have hterminal : x.state.isTerminal = true := by
          rw [(isValidCompletion_holds.mp hvalid).1.2.2]
          rfl
        rw [hlater.terminal hterminal] at hx'
        exact ⟨x, Relation.mem_of_get? hx', hvalid⟩
      · exact hpub.inactive ha x (hsessions x hx hxb) hxb
      · exact hpub.completed x (hsessions x hx hxb) hxb

end RoboLake
