import Mathlib

/-! # Units of work

A unit of work is a program over an opaque engine: it inspects the engine's
state, issues write commands that the engine may refuse, and ends with a value
or an error. The program tree is data, so a fact that every accepted write has
is a fact of every program (`run_keeps`), whatever the program does; the
inversion lemmas (`run_bind_ok` and its companions) describe one successful run
of a given program.
-/

namespace Foundation

/-- A program over states `σ`, write commands `ω` and errors `ε`. -/
inductive Work (σ ω ε α : Type) : Type
  | done (a : α)
  | raise (e : ε)
  | inspect (k : σ → Work σ ω ε α)
  | write (w : ω) (k : Work σ ω ε α)

/-- What executes one write command, or refuses it. -/
class Engine (σ ω ε : Type) where
  exec : ω → σ → Except ε σ

export Engine (exec)

theorem Except.bind_ok {ε α β : Type} {x : Except ε α} {f : α → Except ε β} {b : β} :
    (x >>= f) = .ok b ↔ ∃ a, x = .ok a ∧ f a = .ok b := by
  cases x <;> simp [bind, Except.bind]

theorem Except.mapM_cons_ok {ε α β : Type} {f : α → Except ε β} {x : α} {xs : List α}
    {ys : List β} :
    (x :: xs).mapM f = .ok ys ↔
      ∃ y rest, f x = .ok y ∧ xs.mapM f = .ok rest ∧ ys = y :: rest := by
  rw [List.mapM_cons, Except.bind_ok]
  constructor
  · intro h
    obtain ⟨y, hy, h⟩ := h
    obtain ⟨rest, hrest, h⟩ := Except.bind_ok.mp h
    cases h
    exact ⟨y, rest, hy, hrest, rfl⟩
  · intro h
    obtain ⟨y, rest, hy, hrest, heq⟩ := h
    exact ⟨y, hy, Except.bind_ok.mpr ⟨rest, hrest, congrArg Except.ok heq.symm⟩⟩

theorem Except.mapM_ok_of_forall {ε α β γ : Type} {f : α → Except ε β} {g : β → γ} {h : α → γ}
    {xs : List α} (hall : ∀ x ∈ xs, ∃ y, f x = .ok y ∧ g y = h x) :
    ∃ ys, xs.mapM f = .ok ys ∧ ys.map g = xs.map h := by
  induction xs with
  | nil => exact ⟨[], rfl, rfl⟩
  | cons x xs ih =>
      obtain ⟨y, hy, hsame⟩ := hall x List.mem_cons_self
      obtain ⟨ys, hys, hrest⟩ := ih fun z hz => hall z (List.mem_cons_of_mem x hz)
      refine ⟨y :: ys, Except.mapM_cons_ok.mpr ⟨y, ys, hy, hys, rfl⟩, ?_⟩
      rw [List.map_cons, List.map_cons, hsame, hrest]

namespace Work

variable {σ ω ε α β : Type}

protected def bind : Work σ ω ε α → (α → Work σ ω ε β) → Work σ ω ε β
  | done a, f => f a
  | raise e, _ => raise e
  | inspect k, f => inspect fun s => (k s).bind f
  | write w k, f => write w (k.bind f)

instance : Monad (Work σ ω ε) where
  pure := done
  bind := Work.bind

theorem bind_assoc (p : Work σ ω ε α) (f : α → Work σ ω ε β) {γ : Type}
    (g : β → Work σ ω ε γ) : p >>= f >>= g = p >>= fun a => f a >>= g := by
  change (p.bind f).bind g = p.bind fun a => (f a).bind g
  induction p with
  | done a => rfl
  | raise e => rfl
  | inspect k ih => exact congrArg inspect (funext ih)
  | write w k ih => exact congrArg (write w) ih

def select (q : σ → α) : Work σ ω ε α := inspect fun s => done (q s)

def fetch (q : σ → Option α) (e : ε) : Work σ ω ε α :=
  inspect fun s => (q s).elim (raise e) done

def require (p : Prop) [Decidable p] (e : ε) : Work σ ω ε Unit :=
  if p then done () else raise e

def ofExcept (x : Except ε α) : Work σ ω ε α :=
  match x with
  | .ok a => done a
  | .error e => raise e

def perform (w : ω) : Work σ ω ε Unit := write w (done ())

def forEach (xs : List β) (f : β → Work σ ω ε Unit) : Work σ ω ε Unit :=
  match xs with
  | [] => done ()
  | x :: xs => (f x).bind fun _ => forEach xs f

@[simp] theorem forEach_nil (f : β → Work σ ω ε Unit) : forEach [] f = pure () := rfl

@[simp] theorem forEach_cons (x : β) (xs : List β) (f : β → Work σ ω ε Unit) :
    forEach (x :: xs) f = f x >>= fun _ => forEach xs f := rfl

variable [Engine σ ω ε]

/-- Execute a program from a state; an error leaves no state behind. -/
def run : Work σ ω ε α → σ → Except ε (α × σ)
  | done a, s => .ok (a, s)
  | raise e, _ => .error e
  | inspect k, s => (k s).run s
  | write w k, s =>
      match exec w s with
      | .ok s' => k.run s'
      | .error e => .error e

/-! ## Equations of `run` -/

@[simp] theorem run_done (a : α) (s : σ) : run (done a : Work σ ω ε α) s = .ok (a, s) := rfl

@[simp] theorem run_raise (e : ε) (s : σ) : run (raise e : Work σ ω ε α) s = .error e := rfl

@[simp] theorem run_inspect (k : σ → Work σ ω ε α) (s : σ) :
    run (inspect k) s = run (k s) s := rfl

theorem run_write (w : ω) (k : Work σ ω ε α) (s : σ) :
    run (write w k) s = match (exec w s : Except ε σ) with
      | .ok s' => run k s'
      | .error e => .error e := rfl

@[simp] theorem run_pure (a : α) (s : σ) :
    run (pure a : Work σ ω ε α) s = .ok (a, s) := rfl

theorem run_bind (p : Work σ ω ε α) (f : α → Work σ ω ε β) (s : σ) :
    run (p >>= f) s = match run p s with
      | .ok (a, s') => run (f a) s'
      | .error e => .error e := by
  change run (p.bind f) s = _
  induction p generalizing s with
  | done a => rfl
  | raise e => rfl
  | inspect k ih => exact ih s s
  | write w k ih =>
      simp only [Work.bind, run_write]
      cases (exec w s : Except ε σ) with
      | error e => rfl
      | ok s' => exact ih s'

/-! ## One successful run -/

theorem run_bind_ok {p : Work σ ω ε α} {f : α → Work σ ω ε β} {s s' : σ} {b : β} :
    run (p >>= f) s = .ok (b, s') ↔
      ∃ a s₁, run p s = .ok (a, s₁) ∧ run (f a) s₁ = .ok (b, s') := by
  rw [run_bind]
  cases run p s with
  | error e => simp
  | ok r =>
      obtain ⟨a, s₁⟩ := r
      simp [and_assoc, eq_comm]

theorem run_pure_ok {a b : α} {s s' : σ} :
    run (pure a : Work σ ω ε α) s = .ok (b, s') ↔ b = a ∧ s' = s := by
  simp [eq_comm]

theorem run_select_ok {q : σ → α} {a : α} {s s' : σ} :
    run (select q : Work σ ω ε α) s = .ok (a, s') ↔ a = q s ∧ s' = s := by
  simp [select, eq_comm]

theorem run_fetch_ok {q : σ → Option α} {e : ε} {a : α} {s s' : σ} :
    run (fetch q e : Work σ ω ε α) s = .ok (a, s') ↔ q s = some a ∧ s' = s := by
  simp only [fetch, run_inspect]
  cases q s with
  | none => simp
  | some b => simp [eq_comm]

theorem run_require_ok {p : Prop} [Decidable p] {e : ε} {u : Unit} {s s' : σ} :
    run (require p e : Work σ ω ε Unit) s = .ok (u, s') ↔ p ∧ s' = s := by
  unfold require
  by_cases hp : p
  · simp [hp, eq_comm]
  · simp [hp]

theorem run_ofExcept_ok {x : Except ε α} {a : α} {s s' : σ} :
    run (ofExcept x : Work σ ω ε α) s = .ok (a, s') ↔ x = .ok a ∧ s' = s := by
  cases x with
  | error e => simp [ofExcept]
  | ok b => simp [ofExcept, eq_comm]

theorem run_perform_ok {w : ω} {u : Unit} {s s' : σ} :
    run (perform w : Work σ ω ε Unit) s = .ok (u, s') ↔ (exec w s : Except ε σ) = .ok s' := by
  simp only [perform, run_write]
  cases (exec w s : Except ε σ) with
  | error e => simp
  | ok s₁ => simp

/-! ## Peeling the first command off a composition -/

theorem run_select_bind {q : σ → α} {f : α → Work σ ω ε β} {s : σ} :
    run (select q >>= f) s = run (f (q s)) s := by
  rw [run_bind]
  rfl

theorem run_fetch_bind_ok {q : σ → Option α} {e : ε} {f : α → Work σ ω ε β} {s s' : σ} {b : β} :
    run (fetch q e >>= f) s = .ok (b, s') ↔ ∃ a, q s = some a ∧ run (f a) s = .ok (b, s') := by
  rw [run_bind_ok]
  constructor
  · rintro ⟨a, s₁, ha, hf⟩
    obtain ⟨ha', rfl⟩ := run_fetch_ok.mp ha
    exact ⟨a, ha', hf⟩
  · rintro ⟨a, ha, hf⟩
    exact ⟨a, s, run_fetch_ok.mpr ⟨ha, rfl⟩, hf⟩

theorem run_require_bind_ok {p : Prop} [Decidable p] {e : ε} {f : Unit → Work σ ω ε β}
    {s s' : σ} {b : β} :
    run (require p e >>= f) s = .ok (b, s') ↔ p ∧ run (f ()) s = .ok (b, s') := by
  rw [run_bind_ok]
  constructor
  · rintro ⟨u, s₁, hp, hf⟩
    obtain ⟨hp', rfl⟩ := run_require_ok.mp hp
    exact ⟨hp', hf⟩
  · rintro ⟨hp, hf⟩
    exact ⟨(), s, run_require_ok.mpr ⟨hp, rfl⟩, hf⟩

theorem run_ofExcept_bind_ok {x : Except ε α} {f : α → Work σ ω ε β} {s s' : σ} {b : β} :
    run (ofExcept x >>= f) s = .ok (b, s') ↔ ∃ a, x = .ok a ∧ run (f a) s = .ok (b, s') := by
  rw [run_bind_ok]
  constructor
  · rintro ⟨a, s₁, ha, hf⟩
    obtain ⟨ha', rfl⟩ := run_ofExcept_ok.mp ha
    exact ⟨a, ha', hf⟩
  · rintro ⟨a, ha, hf⟩
    exact ⟨a, s, run_ofExcept_ok.mpr ⟨ha, rfl⟩, hf⟩

theorem run_perform_bind_ok {w : ω} {f : Unit → Work σ ω ε β} {s s' : σ} {b : β} :
    run (perform w >>= f) s = .ok (b, s') ↔
      ∃ s₁, (exec w s : Except ε σ) = .ok s₁ ∧ run (f ()) s₁ = .ok (b, s') := by
  rw [run_bind_ok]
  constructor
  · rintro ⟨u, s₁, hw, hf⟩
    exact ⟨s₁, run_perform_ok.mp hw, hf⟩
  · rintro ⟨s₁, hw, hf⟩
    exact ⟨(), s₁, run_perform_ok.mpr hw, hf⟩

theorem run_pure_bind {a : α} {f : α → Work σ ω ε β} {s : σ} :
    run (pure a >>= f) s = run (f a) s := by
  rw [run_bind]
  rfl

/-! ## One failed run -/

theorem run_bind_error {p : Work σ ω ε α} {f : α → Work σ ω ε β} {s : σ} {e : ε} :
    run (p >>= f) s = .error e ↔
      run p s = .error e ∨ ∃ a s₁, run p s = .ok (a, s₁) ∧ run (f a) s₁ = .error e := by
  rw [run_bind]
  cases run p s with
  | error e' => simp
  | ok r =>
      obtain ⟨a, s₁⟩ := r
      simp

theorem run_fetch_error {q : σ → Option α} {e e' : ε} {s : σ} :
    run (fetch q e : Work σ ω ε α) s = .error e' ↔ q s = none ∧ e' = e := by
  rw [fetch, run_inspect]
  cases q s with
  | none => simp [eq_comm]
  | some a => simp

theorem run_fetch_bind_error {q : σ → Option α} {e e' : ε} {f : α → Work σ ω ε β} {s : σ} :
    run (fetch q e >>= f) s = .error e' ↔
      (q s = none ∧ e' = e) ∨ ∃ a, q s = some a ∧ run (f a) s = .error e' := by
  rw [run_bind, fetch, run_inspect]
  cases q s with
  | none => simp [eq_comm]
  | some a => simp

theorem run_require_bind_error {p : Prop} [Decidable p] {e e' : ε} {f : Unit → Work σ ω ε β}
    {s : σ} :
    run (require p e >>= f) s = .error e' ↔ (¬p ∧ e' = e) ∨ (p ∧ run (f ()) s = .error e') := by
  rw [run_bind, require]
  by_cases hp : p
  · simp [hp]
  · simp [hp, eq_comm]

theorem run_ofExcept_error {x : Except ε α} {s : σ} {e : ε} :
    run (ofExcept x : Work σ ω ε α) s = .error e ↔ x = .error e := by
  cases x with
  | error e' => simp [ofExcept]
  | ok a => simp [ofExcept]

theorem run_ofExcept_bind_error {x : Except ε α} {f : α → Work σ ω ε β} {s : σ} {e : ε} :
    run (ofExcept x >>= f) s = .error e ↔
      x = .error e ∨ ∃ a, x = .ok a ∧ run (f a) s = .error e := by
  rw [run_bind_error, run_ofExcept_error]
  simp only [run_ofExcept_ok]
  constructor
  · rintro (h | ⟨a, s₁, ⟨ha, rfl⟩, h⟩)
    · exact Or.inl h
    · exact Or.inr ⟨a, ha, h⟩
  · rintro (h | ⟨a, ha, h⟩)
    · exact Or.inl h
    · exact Or.inr ⟨a, s, ⟨ha, rfl⟩, h⟩

theorem run_perform_error {w : ω} {s : σ} {e : ε} :
    run (perform w : Work σ ω ε Unit) s = .error e ↔ (exec w s : Except ε σ) = .error e := by
  simp only [perform, run_write]
  cases (exec w s : Except ε σ) with
  | error e' => simp
  | ok s₁ => simp

theorem run_perform_bind_error {w : ω} {f : Unit → Work σ ω ε β} {s : σ} {e : ε} :
    run (perform w >>= f) s = .error e ↔
      (exec w s : Except ε σ) = .error e ∨
        ∃ s₁, (exec w s : Except ε σ) = .ok s₁ ∧ run (f ()) s₁ = .error e := by
  rw [run_bind_error, run_perform_error]
  simp only [run_perform_ok]
  constructor
  · rintro (h | ⟨_, s₁, hw, h⟩)
    · exact Or.inl h
    · exact Or.inr ⟨s₁, hw, h⟩
  · rintro (h | ⟨s₁, hw, h⟩)
    · exact Or.inl h
    · exact Or.inr ⟨(), s₁, hw, h⟩

theorem run_forEach_error {f : β → Work σ ω ε Unit} {E : ε → Prop}
    (hbody : ∀ x s e, run (f x) s = .error e → E e) :
    ∀ {xs : List β} {s : σ} {e : ε}, run (forEach xs f) s = .error e → E e := by
  intro xs
  induction xs with
  | nil =>
      intro s e h
      cases h
  | cons x xs ih =>
      intro s e h
      rw [forEach_cons, run_bind_error] at h
      rcases h with h | ⟨_, s₁, _, h⟩
      · exact hbody x s e h
      · exact ih h

/-! ## Loops -/

/-- A loop whose body relates the states around each round relates its ends. -/
theorem run_forEach {f : β → Work σ ω ε Unit} {J : List β → σ → Prop}
    (hstep : ∀ x xs s s', J (x :: xs) s → run (f x) s = .ok ((), s') → J xs s') :
    ∀ {xs : List β} {s s' : σ} {u : Unit}, J xs s →
      run (forEach xs f) s = .ok (u, s') → J [] s' := by
  intro xs
  induction xs with
  | nil =>
      intro s s' u hs hr
      obtain ⟨_, rfl⟩ := run_pure_ok.mp hr
      exact hs
  | cons x xs ih =>
      intro s s' u hs hr
      rw [forEach_cons, run_bind_ok] at hr
      obtain ⟨_, s₁, h₁, h₂⟩ := hr
      exact ih (hstep x xs s s₁ hs h₁) h₂

theorem run_forEach_succeeds {f : β → Work σ ω ε Unit} {J : List β → σ → Prop}
    (hstep : ∀ x xs s, J (x :: xs) s → ∃ s', run (f x) s = .ok ((), s') ∧ J xs s') :
    ∀ {xs : List β} {s : σ}, J xs s →
      ∃ s', run (forEach xs f) s = .ok ((), s') ∧ J [] s' := by
  intro xs
  induction xs with
  | nil => exact fun {s} hs => ⟨s, rfl, hs⟩
  | cons x xs ih =>
      intro s hs
      obtain ⟨s₁, h₁, hs₁⟩ := hstep x xs s hs
      obtain ⟨s', h', hs'⟩ := ih hs₁
      refine ⟨s', ?_, hs'⟩
      rw [forEach_cons, run_bind_ok]
      exact ⟨(), s₁, h₁, h'⟩

/-! ## Facts of every program -/

/-- What every accepted write preserves, every program preserves. -/
theorem run_keeps {I : σ → Prop}
    (hexec : ∀ (w : ω) s s', (exec w s : Except ε σ) = .ok s' → I s → I s')
    (p : Work σ ω ε α) {s s' : σ} {a : α} (h : run p s = .ok (a, s')) (hs : I s) : I s' := by
  induction p generalizing s with
  | done b =>
      cases h
      exact hs
  | raise e => cases h
  | inspect k ih => exact ih s h hs
  | write w k ih =>
      rw [run_write] at h
      cases hw : (exec w s : Except ε σ) with
      | error e => simp [hw] at h
      | ok s₁ =>
          rw [hw] at h
          exact ih h (hexec w s s₁ hw hs)

end Work

end Foundation
