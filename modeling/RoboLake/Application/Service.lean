import RoboLake.Registry.Accepted
import RoboLake.Registry.Reachable

/-! # Services over the store

An application service composes several transactions and looks at the object store
between them. Other clients act in between: before each of its steps a service
finds the registry moved by whatever calls they have completed.
-/

namespace RoboLake

open Foundation Work

variable [Platform]

structure ObjectInfo where
  sizeBytes : Nat
  checksumSha256 : Option Sha256Digest
  etag : Option String

/-- The stored objects as one step of a service finds them, or what reading one raises. -/
structure ObjectStore where
  head : List Char → Except StorageError (Option ObjectInfo)
  iterBytes : List Char → Except StorageError (List Bytes)

def ObjectStore.vacant : ObjectStore where
  head _ := .ok none
  iterBytes _ := .error (.clientError "NoSuchKey")

/-- What surrounds one step of a service: the calls other clients complete before it, what its
own transaction reads, and the stored objects. -/
structure Turn where
  others : List Call
  env : Env
  objects : ObjectStore

/-- The registry between two steps of a service, with what surrounds the steps to come. -/
structure Scene where
  registry : Registry
  turns : Nat → Turn

def Scene.next (s : Scene) : Scene :=
  ⟨store.runFrom s.registry (s.turns 0).others, fun n => s.turns (n + 1)⟩

/-- A service program; an error ends it and keeps what its transactions committed. -/
abbrev Served (α : Type) := ExceptT Failure (StateM Scene) α

namespace Served

variable {α β : Type}

def call (tx : Tx α) : Served α := fun s =>
  ((transact tx (s.turns 0).env s.next.registry).1,
    { s.next with registry := (transact tx (s.turns 0).env s.next.registry).2 })

def look (q : ObjectStore → Except StorageError α) : Served α := fun s =>
  ((q (s.turns 0).objects).mapError .storage, s.next)

/-! ## Runs -/

theorem bind_ok {p : Served α} {f : α → Served β} {s s' : Scene} {b : β} :
    (p >>= f) s = (.ok b, s') ↔ ∃ a s₁, p s = (.ok a, s₁) ∧ f a s₁ = (.ok b, s') := by
  change (match p s with | (x, s₁) => ExceptT.bindCont f x s₁) = (.ok b, s') ↔ _
  cases hp : p s with
  | mk x s₁ =>
      cases x with
      | error e =>
          constructor
          · intro h
            cases h
          · intro h
            obtain ⟨a, _, ha, _⟩ := h
            cases ha
      | ok a =>
          constructor
          · intro h
            exact ⟨a, s₁, rfl, h⟩
          · intro h
            obtain ⟨_, _, ha, hf⟩ := h
            cases ha
            exact hf

theorem bind_error {p : Served α} {f : α → Served β} {s s' : Scene} {e : Failure} :
    (p >>= f) s = (.error e, s') ↔
      p s = (.error e, s') ∨ ∃ a s₁, p s = (.ok a, s₁) ∧ f a s₁ = (.error e, s') := by
  change (match p s with | (x, s₁) => ExceptT.bindCont f x s₁) = (.error e, s') ↔ _
  cases hp : p s with
  | mk x s₁ =>
      cases x with
      | error e' =>
          change ((Except.error e', s₁) : Except Failure β × Scene) = (.error e, s') ↔ _
          constructor
          · intro h
            cases h
            exact .inl rfl
          · intro h
            rcases h with h | ⟨_, _, h, _⟩
            · cases h
              rfl
            · cases h
      | ok a =>
          constructor
          · intro h
            exact .inr ⟨a, s₁, rfl, h⟩
          · intro h
            rcases h with h | ⟨_, _, h, hf⟩
            · cases h
            · cases h
              exact hf

theorem pure_ok {a b : α} {s s' : Scene} :
    (pure a : Served α) s = (.ok b, s') ↔ b = a ∧ s' = s := by
  constructor
  · intro h
    cases h
    exact ⟨rfl, rfl⟩
  · intro h
    rw [h.1, h.2]
    rfl

theorem call_ok {tx : Tx α} {s s' : Scene} {a : α} :
    call tx s = (.ok a, s') ↔ (transact tx (s.turns 0).env s.next.registry).1 = .ok a ∧
      s' = { s.next with registry := (transact tx (s.turns 0).env s.next.registry).2 } := by
  constructor
  · intro h
    obtain ⟨hvalue, hscene⟩ := Prod.mk.inj h
    exact ⟨hvalue, hscene.symm⟩
  · intro h
    rw [h.2]
    exact Prod.ext h.1 rfl

theorem bind_of_ok {p : Served α} {f : α → Served β} {s s₁ : Scene} {a : α}
    (h : p s = (.ok a, s₁)) : (p >>= f) s = f a s₁ := by
  change (match p s with | (x, s₁) => ExceptT.bindCont f x s₁) = f a s₁
  rw [h]
  rfl

theorem bind_of_error {p : Served α} {f : α → Served β} {s s₁ : Scene} {e : Failure}
    (h : p s = (.error e, s₁)) : (p >>= f) s = (.error e, s₁) :=
  bind_error.mpr (.inl h)

theorem tryCatch_error {p : Served α} {handle : Failure → Served α} {s s₁ : Scene} {e : Failure}
    (h : p s = (.error e, s₁)) : tryCatch p handle s = handle e s₁ := by
  change ExceptT.tryCatch p handle s = handle e s₁
  unfold ExceptT.tryCatch ExceptT.mk
  simp only [bind, StateT.bind, h]

theorem tryCatch_ok {p : Served α} {handle : Failure → Served α} {s s₁ : Scene}
    {a : α} (h : p s = (.ok a, s₁)) : tryCatch p handle s = (.ok a, s₁) := by
  change ExceptT.tryCatch p handle s = (.ok a, s₁)
  unfold ExceptT.tryCatch ExceptT.mk
  simp only [bind, StateT.bind, h]
  rfl

theorem look_of_ok {q : ObjectStore → Except StorageError α} {s : Scene} {a : α}
    (h : q (s.turns 0).objects = .ok a) : look q s = (.ok a, s.next) := by
  unfold look
  rw [h]
  rfl

theorem look_of_error {q : ObjectStore → Except StorageError α} {s : Scene} {e : StorageError}
    (h : q (s.turns 0).objects = .error e) : look q s = (.error (.storage e), s.next) := by
  unfold look
  rw [h]
  rfl

/-- A call is its transaction on the registry that the others have moved. -/
theorem call_of_transact {tx : Tx α} {s : Scene} {x : Except Failure α} {r : Registry}
    (h : transact tx (s.turns 0).env s.next.registry = (x, r)) :
    call tx s = (x, { s.next with registry := r }) := by
  unfold call
  rw [h]

/-- A transaction that writes nothing leaves the tables as it finds them. -/
theorem call_of_read {tx : Tx α} {s : Scene} {a : α}
    (h : run tx (beginTx (s.turns 0).env s.next.registry) =
      .ok (a, beginTx (s.turns 0).env s.next.registry)) :
    call tx s = (.ok a, { s.next with
      registry := ⟨s.next.registry.db, s.next.registry.later (s.turns 0).env⟩ }) := by
  unfold call
  rw [transact_of_read h]

end Served

/-! ## Reachable scenes -/

theorem Scene.next_reachable {s : Scene} (h : store.Reachable s.registry) :
    store.Reachable s.next.registry :=
  h.runFrom _

theorem Served.call_reachable {α : Type} {tx : Tx α} {s : Scene} (op : Operation)
    (hop : operationTx op = effect tx) (h : store.Reachable s.registry) :
    store.Reachable (Served.call tx s).2.registry :=
  reachable_of_transact hop (Scene.next_reachable h)

end RoboLake
