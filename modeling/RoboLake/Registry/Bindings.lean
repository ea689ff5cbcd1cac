import RoboLake.Domain.Payloads
import RoboLake.Registry.Contexts

/-! # Bound requests

The first committed call of a multipart request stores its digest and its answer
under the request id. The stored record is never changed, so every later call of the
same id finds it: it answers as the first did, or conflicts with it.
-/

namespace RoboLake

open Foundation Work Store Migrations

variable [Platform]

/-! ## Idempotent families -/

/-- A family of calls under one request id: what a call means, the text that is hashed for it,
the arguments the store admits, and when an answer repeats another. -/
structure RequestFamily (σ τ α : Type) where
  call : σ → Tx α
  meaning : σ → τ
  payload : τ → Bytes
  Admits : σ → Prop
  Repeats : α → α → Prop

/-- After a call of the family has committed, and after any run, a call with the same meaning
repeats its answer and one with another meaning conflicts, both on unchanged tables. The digests
of the two payloads are told apart. -/
def RequestFamily.Idempotent {σ τ α : Type} (F : RequestFamily σ τ α) : Prop :=
  ∀ r, store.Reachable r → ∀ x env a r', transact (F.call x) env r = (.ok a, r') →
    ∀ calls y env', F.Admits y →
      (F.meaning y = F.meaning x →
        ∃ a', transact (F.call y) env' (store.runFrom r' calls) =
          (.ok a', ⟨(store.runFrom r' calls).db, (store.runFrom r' calls).later env'⟩) ∧
            F.Repeats a a') ∧
      (F.meaning y ≠ F.meaning x →
        (sha256 (F.payload (F.meaning y)) = sha256 (F.payload (F.meaning x)) →
          F.payload (F.meaning y) = F.payload (F.meaning x)) →
        ∃ message, transact (F.call y) env' (store.runFrom r' calls) =
          (.error (idempotencyConflict message),
            ⟨(store.runFrom r' calls).db, (store.runFrom r' calls).later env'⟩))

/-- How a family binds its request id: what its record answers, and what a call does with it. -/
structure Binds {σ τ α : Type} (F : RequestFamily σ τ α) (k : IdempotencyScope × String)
    (Answers : Database → IdempotencyRecordModel → α → Prop) : Prop where
  injective : ∀ m m', F.payload m = F.payload m' → m = m'
  binds : ∀ {r env x a s}, run (F.call x) (beginTx env r) = .ok (a, s) →
    ∃ record, s.db.idempotency.get? k = some record ∧
      record.requestSha256 = sha256 (F.payload (F.meaning x)) ∧ Answers s.db record a
  later : ∀ {db db' record a}, Extends db db' → Answers db record a → Answers db' record a
  replays : ∀ {r env y record a}, store.Reachable r → F.Admits y →
    r.db.idempotency.get? k = some record →
    record.requestSha256 = sha256 (F.payload (F.meaning y)) → Answers r.db record a →
    ∃ a', run (F.call y) (beginTx env r) = .ok (a', beginTx env r) ∧ F.Repeats a a'
  refuses : ∀ {r env y record}, F.Admits y → r.db.idempotency.get? k = some record →
    record.requestSha256 ≠ sha256 (F.payload (F.meaning y)) →
    ∃ message, run (F.call y) (beginTx env r) = .error (idempotencyConflict message)

/-- A family that binds its request id is idempotent. -/
theorem Binds.idempotent {σ τ α : Type} {F : RequestFamily σ τ α} {k : IdempotencyScope × String}
    {Answers : Database → IdempotencyRecordModel → α → Prop} (h : Binds F k Answers)
    (hstep : ∀ r, store.Reachable r → ∀ x env, store.Reachable (transact (F.call x) env r).2) :
    F.Idempotent := by
  intro r hr x env a r' hcall calls y env' hadmits
  obtain ⟨s, _, hrun, _, hr'⟩ := transact_ok.mp hcall
  obtain ⟨record, hrecord, hsha, hanswers⟩ := h.binds hrun
  have hreachable : store.Reachable r' := by
    have hnext := hstep r hr x env
    rwa [hcall] at hnext
  rw [hr'] at hreachable ⊢
  generalize hlast : store.runFrom ⟨s.db, r.later env⟩ calls = r₂
  have hr₂ : store.Reachable r₂ := hlast ▸ hreachable.runFrom calls
  have hextends : Extends s.db r₂.db := hlast ▸ extends_of_run_store hreachable calls
  obtain ⟨record', hkept, hsame⟩ := hextends.idempotency k record hrecord
  rw [← hsame] at hkept
  constructor
  · intro hmeaning
    have hsha' : record.requestSha256 = sha256 (F.payload (F.meaning y)) := by
      rw [hsha, hmeaning]
    obtain ⟨a', hagain, hrepeats⟩ :=
      @Binds.replays _ _ _ _ F k Answers h r₂ env' y record a hr₂ hadmits hkept hsha'
        (h.later hextends hanswers)
    exact ⟨a', transact_of_read hagain, hrepeats⟩
  · intro hmeaning hcollision
    have hne : record.requestSha256 ≠ sha256 (F.payload (F.meaning y)) := by
      intro heq
      rw [hsha] at heq
      exact hmeaning (h.injective _ _ (hcollision heq.symm))
    obtain ⟨message, hraised⟩ :=
      @Binds.refuses _ _ _ _ F k Answers h r₂ env' y record hadmits hkept hne
    exact ⟨message, transact_of_raised hraised⟩

end RoboLake
