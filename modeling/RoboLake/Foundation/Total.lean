import RoboLake.Foundation.UnitOfWork

/-! # Total correctness of units of work

`Ends p s Q` says that a program returns from a state, with a value and a state
that meet a postcondition. Programs are deterministic, so each rule below is an
equivalence: it computes the weakest precondition of one command and can be read
in both directions.
-/

namespace Foundation

namespace Work

variable {σ ω ε α β : Type} [Engine σ ω ε]

/-- The program returns, and its value and last state meet the postcondition. -/
def Ends (p : Work σ ω ε α) (s : σ) (Q : α → σ → Prop) : Prop :=
  ∃ a s', run p s = .ok (a, s') ∧ Q a s'

theorem Ends.mono {p : Work σ ω ε α} {s : σ} {Q Q' : α → σ → Prop} (h : Ends p s Q)
    (hQ : ∀ a s', Q a s' → Q' a s') : Ends p s Q' := by
  obtain ⟨a, s', hrun, hq⟩ := h
  exact ⟨a, s', hrun, hQ a s' hq⟩

/-! ## One rule for each command -/

theorem ends_pure {a : α} {s : σ} {Q : α → σ → Prop} :
    Ends (pure a : Work σ ω ε α) s Q ↔ Q a s := by
  constructor
  · intro h
    obtain ⟨b, s', hrun, hq⟩ := h
    obtain ⟨rfl, rfl⟩ := run_pure_ok.mp hrun
    exact hq
  · intro hq
    exact ⟨a, s, rfl, hq⟩

theorem ends_bind {p : Work σ ω ε α} {f : α → Work σ ω ε β} {s : σ} {Q : β → σ → Prop} :
    Ends (p >>= f) s Q ↔ Ends p s fun a s' => Ends (f a) s' Q := by
  constructor
  · intro h
    obtain ⟨b, s', hrun, hq⟩ := h
    obtain ⟨a, s₁, hp, hf⟩ := run_bind_ok.mp hrun
    exact ⟨a, s₁, hp, b, s', hf, hq⟩
  · intro h
    obtain ⟨a, s₁, hp, b, s', hf, hq⟩ := h
    exact ⟨b, s', run_bind_ok.mpr ⟨a, s₁, hp, hf⟩, hq⟩

theorem ends_select {q : σ → α} {s : σ} {Q : α → σ → Prop} :
    Ends (select q : Work σ ω ε α) s Q ↔ Q (q s) s := by
  constructor
  · intro h
    obtain ⟨b, s', hrun, hq⟩ := h
    obtain ⟨rfl, rfl⟩ := run_select_ok.mp hrun
    exact hq
  · intro hq
    exact ⟨q s, s, rfl, hq⟩

theorem ends_fetch {q : σ → Option α} {e : ε} {s : σ} {Q : α → σ → Prop} :
    Ends (fetch q e : Work σ ω ε α) s Q ↔ ∃ a, q s = some a ∧ Q a s := by
  constructor
  · intro h
    obtain ⟨b, s', hrun, hq⟩ := h
    obtain ⟨hb, rfl⟩ := run_fetch_ok.mp hrun
    exact ⟨b, hb, hq⟩
  · intro h
    obtain ⟨a, ha, hq⟩ := h
    exact ⟨a, s, run_fetch_ok.mpr ⟨ha, rfl⟩, hq⟩

theorem ends_require {p : Prop} [Decidable p] {e : ε} {s : σ} {Q : Unit → σ → Prop} :
    Ends (require p e : Work σ ω ε Unit) s Q ↔ p ∧ Q () s := by
  constructor
  · intro h
    obtain ⟨u, s', hrun, hq⟩ := h
    obtain ⟨hp, rfl⟩ := run_require_ok.mp hrun
    exact ⟨hp, hq⟩
  · intro h
    exact ⟨(), s, run_require_ok.mpr ⟨h.1, rfl⟩, h.2⟩

theorem ends_ofExcept {x : Except ε α} {s : σ} {Q : α → σ → Prop} :
    Ends (ofExcept x : Work σ ω ε α) s Q ↔ ∃ a, x = .ok a ∧ Q a s := by
  constructor
  · intro h
    obtain ⟨a, s', hrun, hq⟩ := h
    obtain ⟨ha, rfl⟩ := run_ofExcept_ok.mp hrun
    exact ⟨a, ha, hq⟩
  · intro h
    obtain ⟨a, ha, hq⟩ := h
    exact ⟨a, s, run_ofExcept_ok.mpr ⟨ha, rfl⟩, hq⟩

theorem ends_perform {w : ω} {s : σ} {Q : Unit → σ → Prop} :
    Ends (perform w : Work σ ω ε Unit) s Q ↔
      ∃ s', (exec w s : Except ε σ) = .ok s' ∧ Q () s' := by
  constructor
  · intro h
    obtain ⟨u, s', hrun, hq⟩ := h
    exact ⟨s', run_perform_ok.mp hrun, hq⟩
  · intro h
    obtain ⟨s', hw, hq⟩ := h
    exact ⟨(), s', run_perform_ok.mpr hw, hq⟩

theorem ends_forEach {f : β → Work σ ω ε Unit} {J : List β → σ → Prop} {xs : List β} {s : σ}
    (hstep : ∀ x xs s, J (x :: xs) s → Ends (f x) s fun _ s' => J xs s') (hs : J xs s) :
    Ends (forEach xs f) s fun _ s' => J [] s' := by
  have hround : ∀ x xs s, J (x :: xs) s → ∃ s', run (f x) s = .ok ((), s') ∧ J xs s' := by
    intro x xs s hx
    obtain ⟨_, s', hrun, hJ⟩ := hstep x xs s hx
    exact ⟨s', hrun, hJ⟩
  obtain ⟨s', hrun, hJ⟩ := run_forEach_succeeds hround hs
  exact ⟨(), s', hrun, hJ⟩

/-! ## Programs that may raise -/

/-- The program returns with the postcondition, or raises an error that is allowed. -/
def Answers (p : Work σ ω ε α) (s : σ) (Q : α → σ → Prop) (E : ε → Prop) : Prop :=
  match run p s with
  | .ok (a, s') => Q a s'
  | .error e => E e

variable {Q : β → σ → Prop} {E : ε → Prop}

theorem answers_of_ends {p : Work σ ω ε β} {s : σ} (h : Ends p s Q) : Answers p s Q E := by
  obtain ⟨a, s', hrun, hq⟩ := h
  unfold Answers
  rw [hrun]
  exact hq

theorem answers_of_error {p : Work σ ω ε β} {s : σ} {e : ε} (h : run p s = .error e)
    (he : E e) : Answers p s Q E := by
  unfold Answers
  rw [h]
  exact he

theorem Answers.mono {p : Work σ ω ε β} {s : σ} {Q' : β → σ → Prop} (h : Answers p s Q E)
    (hQ : ∀ a s', run p s = .ok (a, s') → Q a s' → Q' a s') : Answers p s Q' E := by
  unfold Answers at h ⊢
  cases hrun : run p s with
  | error e =>
      rw [hrun] at h
      exact h
  | ok x =>
      rw [hrun] at h
      exact hQ x.1 x.2 hrun h

theorem answers_bind {p : Work σ ω ε α} {f : α → Work σ ω ε β} {s : σ} :
    Answers (p >>= f) s Q E ↔ Answers p s (fun a s' => Answers (f a) s' Q E) E := by
  unfold Answers
  rw [run_bind]
  cases run p s with
  | error e => exact Iff.rfl
  | ok x => exact Iff.rfl

theorem answers_require {p : Prop} [Decidable p] {e : ε} {s : σ} {Q : Unit → σ → Prop}
    (hE : ¬p → E e) (hQ : p → Q () s) : Answers (require p e : Work σ ω ε Unit) s Q E := by
  by_cases hp : p
  · exact answers_of_ends (ends_require.mpr ⟨hp, hQ hp⟩)
  · unfold Answers
    rw [require, if_neg hp]
    exact hE hp

theorem answers_fetch {q : σ → Option β} {e : ε} {s : σ} (hE : q s = none → E e)
    (hQ : ∀ a, q s = some a → Q a s) : Answers (fetch q e : Work σ ω ε β) s Q E := by
  cases ha : q s with
  | none =>
      unfold Answers
      rw [fetch, run_inspect, ha]
      exact hE ha
  | some a => exact answers_of_ends (ends_fetch.mpr ⟨a, ha, hQ a ha⟩)

theorem answers_forEach {f : β → Work σ ω ε Unit} {J : List β → σ → Prop} {xs : List β} {s : σ}
    (hstep : ∀ x xs s, J (x :: xs) s → Answers (f x) s (fun _ s' => J xs s') E) (hs : J xs s) :
    Answers (forEach xs f) s (fun _ s' => J [] s') E := by
  induction xs generalizing s with
  | nil => exact answers_of_ends (ends_pure.mpr hs)
  | cons x xs ih =>
      rw [forEach_cons, answers_bind]
      exact (hstep x xs s hs).mono fun _ _ _ hJ => ih hJ

end Work

end Foundation
