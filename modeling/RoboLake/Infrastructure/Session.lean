import RoboLake.Infrastructure.Migrations
import RoboLake.Foundation.UnitOfWork
import Mathlib

/-! # Transactions

The engine executes one SQL statement at a time under the triggers and
constraints; a transaction is a unit of work over it that is committed by the
deferred triggers or leaves the tables as they were. What a call reads from its
surroundings (database clock, application clock, random UUIDs, the choice among
rows an ordering leaves tied) is an `Env`. The database clock never goes back:
each reading advances it by the next tick, and the registry keeps its value.
-/

namespace RoboLake

open Foundation Work

variable [Platform]

/-- What one call reads from its surroundings. -/
structure Env where
  ticks : List Nat
  wall : Nat → Timestamp
  uuids : Nat → UUID
  pick : Nat

/-- The rows whose deferred triggers are pending. -/
inductive Touched
  | version (id : UUID)
  | blob (id : UUID)
  | session (blobId : UUID)
  deriving DecidableEq

structure TxState where
  db : Database
  now : Timestamp
  ticks : List Nat
  wall : Nat → Timestamp
  uuids : Nat → UUID
  pick : Nat
  touched : List Touched

/-- One statement, or one reading of a clock or of the random source. -/
inductive Write
  | tick
  | glance
  | draw
  | insertDataset (row : DatasetModel)
  | insertVersion (row : DatasetVersionModel)
  | updateVersion (row : DatasetVersionModel)
  | insertBlob (row : BlobModel)
  | updateBlob (row : BlobModel)
  | insertEntry (row : DatasetEntryModel)
  | insertSession (row : UploadSessionModel)
  | updateSession (row : UploadSessionModel)
  | insertPart (row : UploadPartModel)
  | updatePart (row : UploadPartModel)
  | insertAdmissionLease (row : MultipartAdmissionLeaseModel)
  | updateAdmissionLease (row : MultipartAdmissionLeaseModel)
  | insertCompletionLease (row : MultipartCompletionLeaseModel)
  | updateCompletionLease (row : MultipartCompletionLeaseModel)
  | insertIdempotency (row : IdempotencyRecordModel)

/-! ## Statements -/

section Statements

variable {ρ κ : Type} [Keyed ρ κ] [DecidableEq κ]

/-- Insert a row that violates no rule and whose key is free. -/
def insertIn (t : Relation ρ) (row : ρ) (rules : List Rule) (pkey : String) :
    Except Failure (Relation ρ) := do
  enforce (rules ++ [.unique ((t.get? (key row)).isSome = true) pkey])
  pure (t.insert row)

def updateIn (t : Relation ρ) (row : ρ) (rules : ρ → List Rule) (table : String) :
    Except Failure (Relation ρ) :=
  match t.get? (key row) with
  | none => .error (.database (.noRow table))
  | some old => do
      enforce (rules old)
      pure (t.replace row)

omit [Platform] in
theorem insertIn_ok {t t' : Relation ρ} {row : ρ} {rules : List Rule} {pkey : String} :
    insertIn t row rules pkey = .ok t' ↔
      (∀ r ∈ rules, r.violated = false) ∧ t.get? (key row) = none ∧ t' = t.insert row := by
  unfold insertIn
  cases he : enforce (rules ++ [Rule.unique ((t.get? (key row)).isSome = true) pkey]) with
  | error e =>
      simp only [bind, Except.bind, reduceCtorEq, false_iff]
      rintro ⟨hrules, hfree, _⟩
      have hok : enforce (rules ++ [Rule.unique ((t.get? (key row)).isSome = true) pkey]) =
          .ok () := by
        rw [enforce_ok, List.forall_mem_append]
        exact ⟨hrules, by simp [hfree]⟩
      rw [hok] at he
      cases he
  | ok u =>
      rw [enforce_ok] at he
      simp only [List.mem_append, List.mem_singleton, or_imp, forall_and, forall_eq,
        Rule.violated_unique, Bool.not_eq_true, Option.isSome_eq_false_iff,
        Option.isNone_iff_eq_none] at he
      simp only [bind, Except.bind, pure, Except.pure, Except.ok.injEq]
      constructor
      · rintro rfl
        exact ⟨he.1, he.2, rfl⟩
      · rintro ⟨_, _, rfl⟩
        rfl

omit [Platform] in
theorem updateIn_ok {t t' : Relation ρ} {row : ρ} {rules : ρ → List Rule} {table : String} :
    updateIn t row rules table = .ok t' ↔
      ∃ old, t.get? (key row) = some old ∧ (∀ r ∈ rules old, r.violated = false) ∧
        t' = t.replace row := by
  unfold updateIn
  cases t.get? (key row) with
  | none => simp
  | some old =>
      simp only [Option.some.injEq, exists_eq_left']
      cases he : enforce (rules old) with
      | error e =>
          simp only [bind, Except.bind, reduceCtorEq, false_iff]
          rintro ⟨hrules, _⟩
          have hok : enforce (rules old) = .ok () := enforce_ok.mpr hrules
          rw [hok] at he
          cases he
      | ok u =>
          simp only [bind, Except.bind, pure, Except.pure, Except.ok.injEq]
          constructor
          · rintro rfl
            exact ⟨enforce_ok.mp he, rfl⟩
          · rintro ⟨_, rfl⟩
            rfl

end Statements

def TxState.ticked (s : TxState) : TxState :=
  { s with now := s.now + s.ticks.headD 0, ticks := s.ticks.tail }

open Migrations in
/-- Execute one statement under its triggers and constraints. -/
def execWrite : Write → TxState → Except Failure TxState
  | .tick, s => .ok s.ticked
  | .glance, s => .ok { s with wall := fun n => s.wall (n + 1) }
  | .draw, s => .ok { s with uuids := fun n => s.uuids (n + 1) }
  | .insertDataset row, s => do
      let t ← insertIn s.db.datasets row (datasetRules s.db row) "datasets_pkey"
      pure { s with db := { s.db with datasets := t } }
  | .insertVersion row, s => do
      let t ← insertIn s.db.versions row (versionConstraints s.db row) "dataset_versions_pkey"
      pure { s with db := { s.db with versions := t }, touched := s.touched ++ [.version row.id] }
  | .updateVersion row, s => do
      let t ← updateIn s.db.versions row
        (fun old => guardDatasetVersion s.db old row ++ versionConstraints s.db row)
        "dataset_versions"
      pure { s with db := { s.db with versions := t }, touched := s.touched ++ [.version row.id] }
  | .insertBlob row, s => do
      let t ← insertIn s.db.blobs row (blobConstraints s.db row) "blobs_pkey"
      pure { s with db := { s.db with blobs := t } }
  | .updateBlob row, s => do
      let t ← updateIn s.db.blobs row
        (fun old => guardBlob old row ++ blobConstraints s.db row) "blobs"
      pure { s with db := { s.db with blobs := t }, touched := s.touched ++ [.blob row.id] }
  | .insertEntry row, s => do
      let t ← insertIn s.db.entries row (entryRules s.db row) "dataset_entries_pkey"
      pure { s with db := { s.db with entries := t } }
  | .insertSession row, s => do
      let t ← insertIn s.db.sessions row
        (.raiseIf (.of (row.state ≠ .created)) "new upload session must begin in CREATED" ::
          sessionConstraints s.db row) "upload_sessions_pkey"
      pure { s with
        db := { s.db with sessions := t }, touched := s.touched ++ [.session row.blobId] }
  | .updateSession row, s => do
      let t ← updateIn s.db.sessions row
        (fun old => guardUploadSession s.db old row ++ sessionConstraints s.db row)
        "upload_sessions"
      pure { s with
        db := { s.db with sessions := t }, touched := s.touched ++ [.session row.blobId] }
  | .insertPart row, s => do
      let t ← insertIn s.db.parts row (guardInsertPart s.db row ++ partConstraints s.db row)
        "upload_parts_pkey"
      pure { s with db := { s.db with parts := t } }
  | .updatePart row, s => do
      let t ← updateIn s.db.parts row
        (fun old => guardUpdatePart s.db old row ++ partConstraints s.db row) "upload_parts"
      pure { s with db := { s.db with parts := t } }
  | .insertAdmissionLease row, s => do
      let t ← insertIn s.db.admissionLeases row
        (.raiseIf (.of (row.epoch ≠ 1)) "first admission lease epoch must be one" ::
          admissionLeaseConstraints s.db row) "multipart_admission_leases_pkey"
      pure { s with db := { s.db with admissionLeases := t } }
  | .updateAdmissionLease row, s => do
      let t ← updateIn s.db.admissionLeases row
        (fun old => guardAdmissionLease s.ticked.now old row ++ admissionLeaseConstraints s.db row)
        "multipart_admission_leases"
      pure { s.ticked with db := { s.db with admissionLeases := t } }
  | .insertCompletionLease row, s => do
      let t ← insertIn s.db.completionLeases row
        (.raiseIf (.of (row.epoch ≠ 1)) "first completion lease epoch must be one" ::
          completionLeaseConstraints s.db row) "multipart_completion_leases_pkey"
      pure { s with db := { s.db with completionLeases := t } }
  | .updateCompletionLease row, s => do
      let t ← updateIn s.db.completionLeases row
        (fun old =>
          guardCompletionLease s.ticked.now old row ++ completionLeaseConstraints s.db row)
        "multipart_completion_leases"
      pure { s.ticked with db := { s.db with completionLeases := t } }
  | .insertIdempotency row, s => do
      let t ← insertIn s.db.idempotency row (idempotencyRules s.db row) "idempotency_records_pkey"
      pure { s with db := { s.db with idempotency := t } }

instance : Engine TxState Write Failure := ⟨execWrite⟩

abbrev Tx (α : Type) := Work TxState Write Failure α

/-! ## Readings and flushes -/

def clockTimestamp : Tx Timestamp := do
  perform .tick
  select TxState.now

def utcNow : Tx Timestamp := inspect fun s => write .glance (done (s.wall 0))

def uuid4 : Tx UUID := inspect fun s => write .draw (done (s.uuids 0))

/-- Flush one mapped row: an `UPDATE` is issued only for a net change. -/
def flush {ρ κ : Type} [Keyed ρ κ] [DecidableEq κ] [DecidableEq ρ]
    (table : Database → Relation ρ) (update : ρ → Write) (row : ρ) : Tx Unit :=
  inspect fun s =>
    if (table s.db).get? (key row) = some row then done () else perform (update row)

def flushVersion : DatasetVersionModel → Tx Unit := flush Database.versions .updateVersion
def flushBlob : BlobModel → Tx Unit := flush Database.blobs .updateBlob
def flushSession : UploadSessionModel → Tx Unit := flush Database.sessions .updateSession
def flushPart : UploadPartModel → Tx Unit := flush Database.parts .updatePart
def flushAdmissionLease : MultipartAdmissionLeaseModel → Tx Unit :=
  flush Database.admissionLeases .updateAdmissionLease
def flushCompletionLease : MultipartCompletionLeaseModel → Tx Unit :=
  flush Database.completionLeases .updateCompletionLease

def enforceNow (rules : TxState → List Rule) : Tx Unit :=
  inspect fun s => ofExcept (enforce (rules s))

/-! ## Commit -/

def runDeferred : Touched → Tx Unit
  | .version id => enforceNow fun s => Migrations.requireSealedVersion s.db id
  | .blob id | .session id => do
      let clock ← clockTimestamp
      enforceNow fun s => Migrations.validateM2Publication s.db clock id

/-- Run every deferred trigger in the order its row was touched. -/
def commit : Tx Unit := inspect fun s => forEach s.touched runDeferred

/-- The committed tables and the database clock. -/
structure Registry where
  db : Database
  now : Timestamp
  deriving DecidableEq

def Registry.initial : Registry := ⟨Database.empty, 0⟩

def beginTx (env : Env) (r : Registry) : TxState :=
  ⟨r.db, r.now, env.ticks, env.wall, env.uuids, env.pick, []⟩

/-- The clock once every reading of a call has been made. -/
def Registry.later (r : Registry) (env : Env) : Timestamp := r.now + env.ticks.sum

/-- One atomic call: commit its program, or leave the tables as they were. -/
def transact {α : Type} (tx : Tx α) (env : Env) (r : Registry) : Except Failure α × Registry :=
  match run (do let a ← tx; commit; pure a) (beginTx env r) with
  | .ok (a, s) => (.ok a, ⟨s.db, r.later env⟩)
  | .error e => (.error e, ⟨r.db, r.later env⟩)

end RoboLake
