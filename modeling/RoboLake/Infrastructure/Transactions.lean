import RoboLake.Infrastructure.Session

/-! # Rules of transactions

What one accepted statement does, what a flush does, what a commit has checked,
and how the clock moves. The proofs about operations use these rules and never
unfold the engine.
-/

namespace RoboLake

open Foundation Work

def Satisfied (rules : List Rule) : Prop := ∀ r ∈ rules, r.violated = false

@[simp] theorem satisfied_nil : Satisfied [] := by simp [Satisfied]

@[simp] theorem satisfied_cons {r : Rule} {rules : List Rule} :
    Satisfied (r :: rules) ↔ r.violated = false ∧ Satisfied rules := by simp [Satisfied]

@[simp] theorem satisfied_append {rules rules' : List Rule} :
    Satisfied (rules ++ rules') ↔ Satisfied rules ∧ Satisfied rules' := by
  simp [Satisfied, or_imp, forall_and]

variable [Platform]

/-! ## One statement -/

section Statements

open Migrations

variable {s s' : TxState}

section Shapes

variable {ρ κ : Type} [Keyed ρ κ] [DecidableEq κ]

private theorem insertion_ok {t : Relation ρ} {row : ρ} {rules : List Rule} {pkey : String}
    {f : Relation ρ → TxState} :
    (do let t' ← insertIn t row rules pkey; pure (f t')) = .ok s' ↔
      Satisfied rules ∧ t.get? (key row) = none ∧ s' = f (t.insert row) := by
  simp only [Except.bind_ok, insertIn_ok]
  constructor
  · rintro ⟨t', ⟨hr, hf, rfl⟩, h⟩
    exact ⟨hr, hf, (Except.ok.inj h).symm⟩
  · rintro ⟨hr, hf, rfl⟩
    exact ⟨_, ⟨hr, hf, rfl⟩, rfl⟩

private theorem update_ok {t : Relation ρ} {row : ρ} {rules : ρ → List Rule} {table : String}
    {f : Relation ρ → TxState} :
    (do let t' ← updateIn t row rules table; pure (f t')) = .ok s' ↔
      ∃ old, t.get? (key row) = some old ∧ Satisfied (rules old) ∧ s' = f (t.replace row) := by
  simp only [Except.bind_ok, updateIn_ok]
  constructor
  · rintro ⟨t', ⟨old, ho, hr, rfl⟩, h⟩
    exact ⟨old, ho, hr, (Except.ok.inj h).symm⟩
  · rintro ⟨old, ho, hr, rfl⟩
    exact ⟨_, ⟨old, ho, hr, rfl⟩, rfl⟩

end Shapes

theorem exec_insertDataset_ok {row : DatasetModel} :
    execWrite (.insertDataset row) s = .ok s' ↔
      Satisfied (datasetRules s.db row) ∧ s.db.datasets.get? row.id = none ∧
        s' = { s with db := { s.db with datasets := s.db.datasets.insert row } } :=
  insertion_ok

theorem exec_insertVersion_ok {row : DatasetVersionModel} :
    execWrite (.insertVersion row) s = .ok s' ↔
      Satisfied (versionConstraints s.db row) ∧ s.db.versions.get? row.id = none ∧
        s' = { s with
          db := { s.db with versions := s.db.versions.insert row }
          touched := s.touched ++ [.version row.id] } :=
  insertion_ok

theorem exec_updateVersion_ok {row : DatasetVersionModel} :
    execWrite (.updateVersion row) s = .ok s' ↔
      ∃ old, s.db.versions.get? row.id = some old ∧
        Satisfied (guardDatasetVersion s.db old row ++ versionConstraints s.db row) ∧
        s' = { s with
          db := { s.db with versions := s.db.versions.replace row }
          touched := s.touched ++ [.version row.id] } :=
  update_ok

theorem exec_insertBlob_ok {row : BlobModel} :
    execWrite (.insertBlob row) s = .ok s' ↔
      Satisfied (blobConstraints s.db row) ∧ s.db.blobs.get? row.id = none ∧
        s' = { s with db := { s.db with blobs := s.db.blobs.insert row } } :=
  insertion_ok

theorem exec_updateBlob_ok {row : BlobModel} :
    execWrite (.updateBlob row) s = .ok s' ↔
      ∃ old, s.db.blobs.get? row.id = some old ∧
        Satisfied (guardBlob old row ++ blobConstraints s.db row) ∧
        s' = { s with
          db := { s.db with blobs := s.db.blobs.replace row }
          touched := s.touched ++ [.blob row.id] } :=
  update_ok

theorem exec_insertEntry_ok {row : DatasetEntryModel} :
    execWrite (.insertEntry row) s = .ok s' ↔
      Satisfied (entryRules s.db row) ∧ s.db.entries.get? (key row) = none ∧
        s' = { s with db := { s.db with entries := s.db.entries.insert row } } :=
  insertion_ok

theorem exec_insertSession_ok {row : UploadSessionModel} :
    execWrite (.insertSession row) s = .ok s' ↔
      (row.state = .created ∧ Satisfied (sessionConstraints s.db row)) ∧
        s.db.sessions.get? row.id = none ∧
        s' = { s with
          db := { s.db with sessions := s.db.sessions.insert row }
          touched := s.touched ++ [.session row.blobId] } := by
  refine insertion_ok.trans (and_congr_left' ?_)
  simp

theorem exec_updateSession_ok {row : UploadSessionModel} :
    execWrite (.updateSession row) s = .ok s' ↔
      ∃ old, s.db.sessions.get? row.id = some old ∧
        Satisfied (guardUploadSession s.db old row ++ sessionConstraints s.db row) ∧
        s' = { s with
          db := { s.db with sessions := s.db.sessions.replace row }
          touched := s.touched ++ [.session row.blobId] } :=
  update_ok

theorem exec_insertPart_ok {row : UploadPartModel} :
    execWrite (.insertPart row) s = .ok s' ↔
      Satisfied (guardInsertPart s.db row ++ partConstraints s.db row) ∧
        s.db.parts.get? (key row) = none ∧
        s' = { s with db := { s.db with parts := s.db.parts.insert row } } :=
  insertion_ok

theorem exec_updatePart_ok {row : UploadPartModel} :
    execWrite (.updatePart row) s = .ok s' ↔
      ∃ old, s.db.parts.get? (key row) = some old ∧
        Satisfied (guardUpdatePart s.db old row ++ partConstraints s.db row) ∧
        s' = { s with
          db := { s.db with parts := s.db.parts.replace row } } :=
  update_ok

theorem exec_insertAdmissionLease_ok {row : MultipartAdmissionLeaseModel} :
    execWrite (.insertAdmissionLease row) s = .ok s' ↔
      (row.epoch = 1 ∧ Satisfied (admissionLeaseConstraints s.db row)) ∧
        s.db.admissionLeases.get? row.uploadSessionId = none ∧
        s' = { s with
          db := { s.db with admissionLeases := s.db.admissionLeases.insert row } } := by
  refine insertion_ok.trans (and_congr_left' ?_)
  simp

theorem exec_updateAdmissionLease_ok {row : MultipartAdmissionLeaseModel} :
    execWrite (.updateAdmissionLease row) s = .ok s' ↔
      ∃ old, s.db.admissionLeases.get? row.uploadSessionId = some old ∧
        Satisfied (guardAdmissionLease s.ticked.now old row ++
          admissionLeaseConstraints s.db row) ∧
        s' = { s.ticked with
          db := { s.db with admissionLeases := s.db.admissionLeases.replace row } } :=
  update_ok

theorem exec_insertCompletionLease_ok {row : MultipartCompletionLeaseModel} :
    execWrite (.insertCompletionLease row) s = .ok s' ↔
      (row.epoch = 1 ∧ Satisfied (completionLeaseConstraints s.db row)) ∧
        s.db.completionLeases.get? row.uploadSessionId = none ∧
        s' = { s with
          db := { s.db with completionLeases := s.db.completionLeases.insert row } } := by
  refine insertion_ok.trans (and_congr_left' ?_)
  simp

theorem exec_updateCompletionLease_ok {row : MultipartCompletionLeaseModel} :
    execWrite (.updateCompletionLease row) s = .ok s' ↔
      ∃ old, s.db.completionLeases.get? row.uploadSessionId = some old ∧
        Satisfied (guardCompletionLease s.ticked.now old row ++
          completionLeaseConstraints s.db row) ∧
        s' = { s.ticked with
          db := { s.db with completionLeases := s.db.completionLeases.replace row } } :=
  update_ok

theorem exec_insertIdempotency_ok {row : IdempotencyRecordModel} :
    execWrite (.insertIdempotency row) s = .ok s' ↔
      Satisfied (idempotencyRules s.db row) ∧ s.db.idempotency.get? (row.scope, row.key) = none ∧
        s' = { s with db := { s.db with idempotency := s.db.idempotency.insert row } } :=
  insertion_ok

/-! ## Refused statements -/

omit [Platform] in
theorem enforce_error {rules : List Rule} {e : Failure} (h : enforce rules = .error e) :
    ∃ d, e = .database d := by
  induction rules with
  | nil => cases h
  | cons r rules ih =>
      rw [enforce] at h
      split at h
      · exact ⟨r.error, (Except.error.inj h).symm⟩
      · exact ih h

section Shapes

variable {ρ κ : Type} [Keyed ρ κ] [DecidableEq κ]

private theorem insertion_error {t : Relation ρ} {row : ρ} {rules : List Rule} {pkey : String}
    {f : Relation ρ → TxState} {e : Failure}
    (h : (do let t' ← insertIn t row rules pkey; pure (f t')) = .error e) :
    ∃ d, e = .database d := by
  unfold insertIn at h
  cases he : enforce (rules ++ [Rule.unique ((t.get? (key row)).isSome = true) pkey]) with
  | error e' =>
      rw [he] at h
      cases h
      exact enforce_error he
  | ok u =>
      rw [he] at h
      cases h

private theorem update_error {t : Relation ρ} {row : ρ} {rules : ρ → List Rule} {table : String}
    {f : Relation ρ → TxState} {e : Failure}
    (h : (do let t' ← updateIn t row rules table; pure (f t')) = .error e) :
    ∃ d, e = .database d := by
  unfold updateIn at h
  cases hold : t.get? (key row) with
  | none =>
      simp only [hold] at h
      exact ⟨_, (Except.error.inj h).symm⟩
  | some old =>
      simp only [hold] at h
      cases he : enforce (rules old) with
      | error e' =>
          rw [he] at h
          cases h
          exact enforce_error he
      | ok u =>
          rw [he] at h
          cases h

end Shapes

theorem exec_error {w : Write} {e : Failure} (h : execWrite w s = .error e) :
    ∃ d, e = .database d := by
  cases w with
  | tick => cases h
  | glance => cases h
  | draw => cases h
  | insertDataset row => exact insertion_error h
  | insertVersion row => exact insertion_error h
  | updateVersion row => exact update_error h
  | insertBlob row => exact insertion_error h
  | updateBlob row => exact update_error h
  | insertEntry row => exact insertion_error h
  | insertSession row => exact insertion_error h
  | updateSession row => exact update_error h
  | insertPart row => exact insertion_error h
  | updatePart row => exact update_error h
  | insertAdmissionLease row => exact insertion_error h
  | updateAdmissionLease row => exact update_error h
  | insertCompletionLease row => exact insertion_error h
  | updateCompletionLease row => exact update_error h
  | insertIdempotency row => exact insertion_error h

end Statements

/-! ## Readings -/

def TxState.glanced (s : TxState) : TxState := { s with wall := fun n => s.wall (n + 1) }

def TxState.drawn (s : TxState) : TxState := { s with uuids := fun n => s.uuids (n + 1) }

section Readings

variable {α : Type} {s : TxState}

@[simp] theorem db_ticked (s : TxState) : s.ticked.db = s.db := rfl
@[simp] theorem db_glanced (s : TxState) : s.glanced.db = s.db := rfl
@[simp] theorem db_drawn (s : TxState) : s.drawn.db = s.db := rfl
@[simp] theorem touched_ticked (s : TxState) : s.ticked.touched = s.touched := rfl
@[simp] theorem touched_glanced (s : TxState) : s.glanced.touched = s.touched := rfl
@[simp] theorem touched_drawn (s : TxState) : s.drawn.touched = s.touched := rfl

theorem run_clockTimestamp_bind {f : Timestamp → Tx α} :
    run (clockTimestamp >>= f) s = run (f s.ticked.now) s.ticked := by
  rw [run_bind]
  rfl

theorem run_utcNow_bind {f : Timestamp → Tx α} :
    run (utcNow >>= f) s = run (f (s.wall 0)) s.glanced := by
  rw [run_bind]
  rfl

theorem run_uuid4_bind {f : UUID → Tx α} :
    run (uuid4 >>= f) s = run (f (s.uuids 0)) s.drawn := by
  rw [run_bind]
  rfl

end Readings

/-! ## Flushes -/

section Flushes

variable {β : Type} {s s' : TxState} {b : β} {f : Unit → Tx β}

section Shape

variable {ρ κ : Type} [Keyed ρ κ] [DecidableEq κ] [DecidableEq ρ]
  {table : Database → Relation ρ} {update : ρ → Write} {row : ρ}

private theorem run_flush_bind_ok (h : run (flush table update row >>= f) s = .ok (b, s')) :
    ((table s.db).get? (key row) = some row ∧ run (f ()) s = .ok (b, s')) ∨
      ∃ s₁, execWrite (update row) s = .ok s₁ ∧ run (f ()) s₁ = .ok (b, s') := by
  rw [run_bind_ok] at h
  obtain ⟨u, s₁, hf, h⟩ := h
  simp only [flush, run_inspect] at hf
  split at hf
  · rename_i hrow
    obtain ⟨_, rfl⟩ := run_pure_ok.mp hf
    exact Or.inl ⟨hrow, h⟩
  · exact Or.inr ⟨s₁, run_perform_ok.mp hf, h⟩

end Shape

theorem run_flush_error {ρ κ : Type} [Keyed ρ κ] [DecidableEq κ] [DecidableEq ρ]
    {table : Database → Relation ρ} {update : ρ → Write} {row : ρ} {e : Failure}
    (h : run (flush table update row) s = .error e) : ∃ d, e = .database d := by
  simp only [flush, run_inspect] at h
  split at h
  · cases h
  · exact exec_error (run_perform_error.mp h)

/-- After a flush the row is stored, and possibly watched. -/
theorem run_flushVersion_bind_ok {row : DatasetVersionModel}
    (h : run (flushVersion row >>= f) s = .ok (b, s')) :
    ∃ ts, run (f ()) { s with
      db := { s.db with versions := s.db.versions.replace row }
      touched := s.touched ++ ts } = .ok (b, s') := by
  rcases run_flush_bind_ok h with ⟨hrow, h⟩ | ⟨s₁, hw, h⟩
  · refine ⟨[], ?_⟩
    rw [Relation.replace_of_get? hrow, List.append_nil]
    exact h
  · obtain ⟨_, _, _, rfl⟩ := exec_updateVersion_ok.mp hw
    exact ⟨_, h⟩

theorem run_flushBlob_bind_ok {row : BlobModel}
    (h : run (flushBlob row >>= f) s = .ok (b, s')) :
    ∃ ts, run (f ()) { s with
      db := { s.db with blobs := s.db.blobs.replace row }
      touched := s.touched ++ ts } = .ok (b, s') := by
  rcases run_flush_bind_ok h with ⟨hrow, h⟩ | ⟨s₁, hw, h⟩
  · refine ⟨[], ?_⟩
    rw [Relation.replace_of_get? hrow, List.append_nil]
    exact h
  · obtain ⟨_, _, _, rfl⟩ := exec_updateBlob_ok.mp hw
    exact ⟨_, h⟩

theorem run_flushSession_bind_ok {row : UploadSessionModel}
    (h : run (flushSession row >>= f) s = .ok (b, s')) :
    ∃ ts, run (f ()) { s with
      db := { s.db with sessions := s.db.sessions.replace row }
      touched := s.touched ++ ts } = .ok (b, s') := by
  rcases run_flush_bind_ok h with ⟨hrow, h⟩ | ⟨s₁, hw, h⟩
  · refine ⟨[], ?_⟩
    rw [Relation.replace_of_get? hrow, List.append_nil]
    exact h
  · obtain ⟨_, _, _, rfl⟩ := exec_updateSession_ok.mp hw
    exact ⟨_, h⟩

theorem run_flushPart_bind_ok {row : UploadPartModel}
    (h : run (flushPart row >>= f) s = .ok (b, s')) :
    run (f ()) { s with db := { s.db with parts := s.db.parts.replace row } } = .ok (b, s') := by
  rcases run_flush_bind_ok h with ⟨hrow, h⟩ | ⟨s₁, hw, h⟩
  · rw [Relation.replace_of_get? hrow]
    exact h
  · obtain ⟨_, _, _, rfl⟩ := exec_updatePart_ok.mp hw
    exact h

theorem run_flushParts_bind_ok {base : Relation UploadPartModel}
    {g h : UploadPartModel → UploadPartModel} {parts : List UploadPartModel}
    (hg : ∀ p, key (g p) = key p) (hparts : ∀ p ∈ parts, p ∈ base.rows)
    (hmap : Relation.Mapped h base s.db.parts)
    (hrun : run ((forEach parts fun p => flushPart (g p)) >>= f) s = .ok (b, s')) :
    ∃ t, Relation.Mapped (fun p => if p ∈ parts then g p else h p) base t ∧
      run (f ()) { s with db := { s.db with parts := t } } = .ok (b, s') := by
  induction parts generalizing s h with
  | nil =>
      rw [forEach_nil, run_pure_bind] at hrun
      exact ⟨s.db.parts, by simpa using hmap, hrun⟩
  | cons p parts ih =>
      rw [forEach_cons, Work.bind_assoc] at hrun
      have hrest := run_flushPart_bind_ok hrun
      obtain ⟨hp, hparts⟩ := List.forall_mem_cons.mp hparts
      obtain ⟨t, ht, hrun⟩ := ih hparts (hmap.replace hp (hg p)) hrest
      refine ⟨t, ht.congr fun x _ => ?_, hrun⟩
      by_cases hx : x ∈ parts
      · simp [hx]
      · by_cases hxp : x = p
        · simp [hxp]
        · simp [hx, hxp]

/-- A lease trigger reads the clock, an unchanged row does not. -/
theorem run_flushAdmissionLease_bind_ok {row : MultipartAdmissionLeaseModel}
    (h : run (flushAdmissionLease row >>= f) s = .ok (b, s')) :
    ∃ now ticks, run (f ()) { s with
      db := { s.db with admissionLeases := s.db.admissionLeases.replace row }
      now := now
      ticks := ticks } = .ok (b, s') := by
  rcases run_flush_bind_ok h with ⟨hrow, h⟩ | ⟨s₁, hw, h⟩
  · refine ⟨s.now, s.ticks, ?_⟩
    rw [Relation.replace_of_get? hrow]
    exact h
  · obtain ⟨_, _, _, rfl⟩ := exec_updateAdmissionLease_ok.mp hw
    exact ⟨_, _, h⟩

theorem run_flushCompletionLease_bind_ok {row : MultipartCompletionLeaseModel}
    (h : run (flushCompletionLease row >>= f) s = .ok (b, s')) :
    ∃ now ticks, run (f ()) { s with
      db := { s.db with completionLeases := s.db.completionLeases.replace row }
      now := now
      ticks := ticks } = .ok (b, s') := by
  rcases run_flush_bind_ok h with ⟨hrow, h⟩ | ⟨s₁, hw, h⟩
  · refine ⟨s.now, s.ticks, ?_⟩
    rw [Relation.replace_of_get? hrow]
    exact h
  · obtain ⟨_, _, _, rfl⟩ := exec_updateCompletionLease_ok.mp hw
    exact ⟨_, _, h⟩

end Flushes

/-! ## Time -/

/-- The clock went from one state to the other within one call. -/
structure Elapses (s s' : TxState) : Prop where
  now_le : s.now ≤ s'.now
  later_eq : s'.now + s'.ticks.sum = s.now + s.ticks.sum

theorem Elapses.trans {s₁ s₂ s₃ : TxState} (h : Elapses s₁ s₂) (h' : Elapses s₂ s₃) :
    Elapses s₁ s₃ :=
  ⟨h.now_le.trans h'.now_le, h'.later_eq.trans h.later_eq⟩

theorem elapses_ticked (s : TxState) : Elapses s s.ticked := by
  refine ⟨Nat.le_add_right _ _, ?_⟩
  cases hticks : s.ticks with
  | nil => simp [TxState.ticked, hticks]
  | cons n ns => simp [TxState.ticked, hticks, Nat.add_assoc]

theorem Elapses.now_le_later {s s' : TxState} (h : Elapses s s') :
    s'.now ≤ s.now + s.ticks.sum := by
  rw [← h.later_eq]
  exact Nat.le_add_right _ _

/-! ## Commit -/

/-- The rules a pending trigger enforces. -/
def Touched.rules (db : Database) (clock : Timestamp) : Touched → List Rule
  | .version id => Migrations.requireSealedVersion db id
  | .blob id | .session id => Migrations.validateM2Publication db clock id

theorem run_enforceNow_ok {rules : TxState → List Rule} {s s' : TxState} {u : Unit} :
    run (enforceNow rules) s = .ok (u, s') ↔ Satisfied (rules s) ∧ s' = s := by
  rw [enforceNow, run_inspect, run_ofExcept_ok, enforce_ok, Satisfied]

theorem run_runDeferred_ok {t : Touched} {s s' : TxState} {u : Unit}
    (h : run (runDeferred t) s = .ok (u, s')) :
    s'.db = s.db ∧ ∃ clock, Satisfied (t.rules s.db clock) := by
  cases t with
  | version id =>
      obtain ⟨hr, rfl⟩ := run_enforceNow_ok.mp h
      exact ⟨rfl, 0, hr⟩
  | blob id =>
      rw [runDeferred, run_clockTimestamp_bind] at h
      obtain ⟨hr, rfl⟩ := run_enforceNow_ok.mp h
      exact ⟨rfl, s.ticked.now, hr⟩
  | session id =>
      rw [runDeferred, run_clockTimestamp_bind] at h
      obtain ⟨hr, rfl⟩ := run_enforceNow_ok.mp h
      exact ⟨rfl, s.ticked.now, hr⟩

/-- A commit leaves the tables as they are, and every pending trigger has passed. -/
theorem run_commit_ok {s s' : TxState} {u : Unit} (h : run commit s = .ok (u, s')) :
    s'.db = s.db ∧ ∀ t ∈ s.touched, ∃ clock, Satisfied (t.rules s.db clock) := by
  rw [commit, run_inspect] at h
  have hloop := run_forEach
    (J := fun ts s₁ => s₁.db = s.db ∧
      ∀ t ∈ s.touched, t ∉ ts → ∃ clock, Satisfied (t.rules s.db clock))
    (by
      rintro t ts s₁ s₂ ⟨hdb, hdone⟩ hr
      obtain ⟨hdb', clock, hclock⟩ := run_runDeferred_ok hr
      refine ⟨hdb'.trans hdb, fun t' ht' hts => ?_⟩
      by_cases heq : t' = t
      · rw [heq, ← hdb]
        exact ⟨clock, hclock⟩
      · exact hdone t' ht' (by simp [heq, hts]))
    ⟨rfl, fun t ht hn => absurd ht hn⟩ h
  exact ⟨hloop.1, fun t ht => hloop.2 t ht (by simp)⟩

/-- A commit succeeds when every pending trigger passes at any later clock. -/
theorem run_commit_succeeds {s : TxState}
    (h : ∀ t ∈ s.touched, ∀ clock, s.now ≤ clock → Satisfied (t.rules s.db clock)) :
    ∃ s', run commit s = .ok ((), s') ∧ s'.db = s.db := by
  let J (ts : List Touched) (s₁ : TxState) : Prop :=
    s₁.db = s.db ∧ s.now ≤ s₁.now ∧ ∀ x ∈ ts, x ∈ s.touched
  have hstep : ∀ t ts s₁, J (t :: ts) s₁ →
      ∃ s₂, run (runDeferred t) s₁ = .ok ((), s₂) ∧ J ts s₂ := by
    rintro t ts s₁ ⟨hdb, hnow, hts⟩
    have ht := h t (hts t (by simp))
    have hrest : ∀ x ∈ ts, x ∈ s.touched := fun x hx => hts x (by simp [hx])
    have hticked : s.now ≤ s₁.ticked.now := hnow.trans (elapses_ticked s₁).now_le
    cases t with
    | version id =>
        refine ⟨s₁, run_enforceNow_ok.mpr ⟨?_, rfl⟩, hdb, hnow, hrest⟩
        rw [hdb]
        exact ht s.now (le_refl _)
    | blob id =>
        refine ⟨s₁.ticked, ?_, hdb, hticked, hrest⟩
        rw [runDeferred, run_clockTimestamp_bind, run_enforceNow_ok, db_ticked, hdb]
        exact ⟨ht s₁.ticked.now hticked, rfl⟩
    | session id =>
        refine ⟨s₁.ticked, ?_, hdb, hticked, hrest⟩
        rw [runDeferred, run_clockTimestamp_bind, run_enforceNow_ok, db_ticked, hdb]
        exact ⟨ht s₁.ticked.now hticked, rfl⟩
  have hstart : J s.touched s := ⟨rfl, le_refl _, fun _ hx => hx⟩
  obtain ⟨s', hs', hdb, _⟩ := run_forEach_succeeds hstep hstart
  exact ⟨s', hs', hdb⟩

theorem run_commit_error {s : TxState} {e : Failure} (h : run commit s = .error e) :
    ∃ d, e = .database d := by
  have henforce : ∀ {rules : TxState → List Rule} {s : TxState} {e : Failure},
      run (enforceNow rules) s = .error e → ∃ d, e = .database d := by
    intro rules s e h
    rw [enforceNow, run_inspect, run_ofExcept_error] at h
    exact enforce_error h
  rw [commit, run_inspect] at h
  refine run_forEach_error (E := fun e => ∃ d, e = .database d) (fun t s₁ e h => ?_) h
  cases t with
  | version id => exact henforce h
  | blob id =>
      rw [runDeferred, run_clockTimestamp_bind] at h
      exact henforce h
  | session id =>
      rw [runDeferred, run_clockTimestamp_bind] at h
      exact henforce h

/-! ## Calls -/

section Calls

variable {α : Type} {tx : Tx α} {env : Env} {r r' : Registry}

@[simp] theorem db_beginTx : (beginTx env r).db = r.db := rfl
@[simp] theorem now_beginTx : (beginTx env r).now = r.now := rfl
@[simp] theorem touched_beginTx : (beginTx env r).touched = [] := rfl

/-- A call that returns has run its program and committed. -/
theorem transact_ok {a : α} :
    transact tx env r = (.ok a, r') ↔ ∃ s s', run tx (beginTx env r) = .ok (a, s) ∧
      run commit s = .ok ((), s') ∧ r' = ⟨s.db, r.later env⟩ := by
  have hrun : ∀ {x s'}, run (do let a ← tx; commit; pure a) (beginTx env r) = .ok (x, s') ↔
      ∃ s, run tx (beginTx env r) = .ok (x, s) ∧ run commit s = .ok ((), s') := by
    intro x s'
    rw [run_bind_ok]
    constructor
    · rintro ⟨b, s, h, hc⟩
      rw [run_bind_ok] at hc
      obtain ⟨_, s₁, hc, hp⟩ := hc
      obtain ⟨rfl, rfl⟩ := run_pure_ok.mp hp
      exact ⟨s, h, hc⟩
    · rintro ⟨s, h, hc⟩
      refine ⟨x, s, h, ?_⟩
      rw [run_bind_ok]
      exact ⟨(), s', hc, rfl⟩
  unfold transact
  cases hr : run (do let a ← tx; commit; pure a) (beginTx env r) with
  | error e =>
      simp only [Prod.mk.injEq, reduceCtorEq, false_and, false_iff]
      rintro ⟨s, s', h, hc, _⟩
      rw [hrun.mpr ⟨s, h, hc⟩] at hr
      cases hr
  | ok x =>
      obtain ⟨x, s₁⟩ := x
      obtain ⟨s, h, hc⟩ := hrun.mp hr
      have hdb : s₁.db = s.db := (run_commit_ok hc).1
      simp only [Prod.mk.injEq, Except.ok.injEq]
      constructor
      · rintro ⟨rfl, rfl⟩
        exact ⟨s, s₁, h, hc, by rw [hdb]⟩
      · rintro ⟨s', _, h', _, rfl⟩
        rw [h] at h'
        cases h'
        exact ⟨rfl, by rw [hdb]⟩

theorem returned_of_transact {a : α} (h : (transact tx env r).1 = .ok a) :
    ∃ s, run tx (beginTx env r) = .ok (a, s) ∧
      (transact tx env r).2 = ⟨s.db, r.later env⟩ := by
  have hcall : transact tx env r = (.ok a, (transact tx env r).2) := Prod.ext h rfl
  obtain ⟨s, _, hrun, _, hr'⟩ := transact_ok.mp hcall
  exact ⟨s, hrun, hr'⟩

/-- A call that raises leaves the tables as they were. -/
theorem transact_error {e : Failure} (h : transact tx env r = (.error e, r')) :
    r' = ⟨r.db, r.later env⟩ := by
  unfold transact at h
  cases hr : run (do let a ← tx; commit; pure a) (beginTx env r) with
  | error e' =>
      rw [hr] at h
      cases h
      rfl
  | ok x =>
      rw [hr] at h
      cases h

theorem raised_of_transact {e : Failure} (h : (transact tx env r).1 = .error e) :
    run tx (beginTx env r) = .error e ∨ ∃ d, e = .database d := by
  unfold transact at h
  cases hr : run (do let a ← tx; commit; pure a) (beginTx env r) with
  | ok x =>
      rw [hr] at h
      cases h
  | error e' =>
      rw [hr] at h
      cases h
      rw [run_bind_error] at hr
      rcases hr with hr | ⟨a, s, _, hr⟩
      · exact Or.inl hr
      · rw [run_bind_error] at hr
        rcases hr with hr | ⟨_, _, _, hr⟩
        · exact Or.inr (run_commit_error hr)
        · cases hr

theorem transact_now : (transact tx env r).2.now = r.later env := by
  unfold transact
  cases run (do let a ← tx; commit; pure a) (beginTx env r) with
  | error e => rfl
  | ok x => rfl

/-- Every call either raises and changes no table, or has committed its program. -/
theorem transact_cases (tx : Tx α) (env : Env) (r : Registry) :
    ((∃ e, (transact tx env r).1 = .error e) ∧ (transact tx env r).2.db = r.db) ∨
      ∃ a s s', (transact tx env r).1 = .ok a ∧ run tx (beginTx env r) = .ok (a, s) ∧
        run commit s = .ok ((), s') ∧ (transact tx env r).2.db = s.db := by
  cases h : transact tx env r with
  | mk x r' =>
      cases x with
      | error e => exact Or.inl ⟨⟨e, rfl⟩, by rw [transact_error h]⟩
      | ok a =>
          obtain ⟨s, s', hrun, hcommit, rfl⟩ := transact_ok.mp h
          exact Or.inr ⟨a, s, s', rfl, hrun, hcommit, rfl⟩

end Calls

end RoboLake
