import RoboLake.Foundation.UnitOfWork

/-! # The journal of a run

The writes that a run executes, each with the state it is executed in. The journal
replays to the state the run ends in, so what holds of its entries holds of every
intermediate change. The rules below follow a program command by command.
-/

namespace Foundation

namespace Work

variable {σ ω ε α β : Type} [Engine σ ω ε]

/-- The writes that a run executes, each with the state before it. -/
def journal : Work σ ω ε α → σ → List (σ × ω)
  | done _, _ => []
  | raise _, _ => []
  | inspect k, s => (k s).journal s
  | write w k, s =>
      match (exec w s : Except ε σ) with
      | .ok s' => (s, w) :: k.journal s'
      | .error _ => []

/-- Every entry is executed in the state that the entries before it lead to. -/
def Replays (ε : Type) [Engine σ ω ε] : σ → List (σ × ω) → σ → Prop
  | s, [], s' => s' = s
  | s, e :: es, s' => e.1 = s ∧ ∃ s₁, (exec e.2 s : Except ε σ) = .ok s₁ ∧ Replays ε s₁ es s'

/-- The journal of a run replays to the state that the run ends in. -/
theorem replays_journal {p : Work σ ω ε α} {s s' : σ} {a : α} (h : run p s = .ok (a, s')) :
    Replays ε s (journal p s) s' := by
  induction p generalizing s with
  | done b =>
      cases h
      rfl
  | raise e => cases h
  | inspect k ih => exact ih s h
  | write w k ih =>
      rw [run_write] at h
      cases hw : (exec w s : Except ε σ) with
      | error e => simp [hw] at h
      | ok s₁ =>
          rw [hw] at h
          simp only [journal, hw]
          exact ⟨rfl, s₁, hw, ih h⟩

/-- Every write of the run satisfies `P` in the state it is executed in. -/
def Issues (P : σ → ω → Prop) (p : Work σ ω ε α) (s : σ) : Prop := ∀ e ∈ journal p s, P e.1 e.2

section Rules

variable {P : σ → ω → Prop} {s : σ}

@[simp] theorem issues_done {a : α} : Issues P (done a : Work σ ω ε α) s := nofun

@[simp] theorem issues_pure {a : α} : Issues P (pure a : Work σ ω ε α) s := nofun

@[simp] theorem issues_raise {e : ε} : Issues P (raise e : Work σ ω ε α) s := nofun

@[simp] theorem issues_inspect {k : σ → Work σ ω ε α} :
    Issues P (inspect k) s ↔ Issues P (k s) s := Iff.rfl

@[simp] theorem issues_write {w : ω} {k : Work σ ω ε α} :
    Issues P (write w k) s ↔
      ∀ s', (exec w s : Except ε σ) = .ok s' → P s w ∧ Issues P k s' := by
  unfold Issues
  simp only [journal]
  cases (exec w s : Except ε σ) with
  | error e => simp
  | ok s₁ => simp

theorem issues_bind {p : Work σ ω ε α} {f : α → Work σ ω ε β} :
    Issues P (p >>= f) s ↔
      Issues P p s ∧ ∀ a s', run p s = .ok (a, s') → Issues P (f a) s' := by
  change Issues P (p.bind f) s ↔ _
  induction p generalizing s with
  | done a =>
      simp only [Work.bind, run_done, Except.ok.injEq, Prod.mk.injEq, and_imp]
      constructor
      · rintro h
        refine ⟨issues_done, ?_⟩
        rintro _ _ rfl rfl
        exact h
      · rintro ⟨_, h⟩
        exact h a s rfl rfl
  | raise e =>
      simp only [Work.bind, run_raise, reduceCtorEq, false_implies, implies_true, and_true]
      exact ⟨fun _ => issues_raise, fun _ => issues_raise⟩
  | inspect k ih => exact ih s
  | write w k ih =>
      simp only [Work.bind, issues_write, ih, run_write]
      constructor
      · intro h
        refine ⟨fun s₁ hw => ⟨(h s₁ hw).1, (h s₁ hw).2.1⟩, ?_⟩
        intro a s' hrun
        cases hw : (exec w s : Except ε σ) with
        | error e => simp [hw] at hrun
        | ok s₁ =>
            rw [hw] at hrun
            exact (h s₁ hw).2.2 a s' hrun
      · rintro ⟨hfirst, hrest⟩ s₁ hw
        refine ⟨(hfirst s₁ hw).1, (hfirst s₁ hw).2, ?_⟩
        intro a s' hrun
        rw [hw] at hrest
        exact hrest a s' hrun

/-! ## One rule for each command -/

@[simp] theorem issues_select {q : σ → α} : Issues P (select q : Work σ ω ε α) s := nofun

@[simp] theorem issues_fetch {q : σ → Option α} {e : ε} :
    Issues P (fetch q e : Work σ ω ε α) s := by
  rw [fetch, issues_inspect]
  cases q s with
  | none => exact issues_raise
  | some a => exact issues_done

@[simp] theorem issues_require {p : Prop} [Decidable p] {e : ε} :
    Issues P (require p e : Work σ ω ε Unit) s := by
  unfold require
  split
  · exact issues_done
  · exact issues_raise

@[simp] theorem issues_ofExcept {x : Except ε α} : Issues P (ofExcept x : Work σ ω ε α) s := by
  cases x with
  | error e => exact issues_raise
  | ok a => exact issues_done

@[simp] theorem issues_perform {w : ω} :
    Issues P (perform w : Work σ ω ε Unit) s ↔ ∀ s', (exec w s : Except ε σ) = .ok s' → P s w := by
  rw [perform, issues_write]
  exact forall₂_congr fun _ _ => and_iff_left issues_done

@[simp] theorem issues_select_bind {q : σ → α} {f : α → Work σ ω ε β} :
    Issues P (select q >>= f) s ↔ Issues P (f (q s)) s := Iff.rfl

@[simp] theorem issues_fetch_bind {q : σ → Option α} {e : ε} {f : α → Work σ ω ε β} :
    Issues P (fetch q e >>= f) s ↔ ∀ a, q s = some a → Issues P (f a) s := by
  rw [issues_bind, and_iff_right issues_fetch]
  simp only [run_fetch_ok]
  constructor
  · intro h a ha
    exact h a s ⟨ha, rfl⟩
  · rintro h a _ ⟨ha, rfl⟩
    exact h a ha

@[simp] theorem issues_require_bind {p : Prop} [Decidable p] {e : ε} {f : Unit → Work σ ω ε β} :
    Issues P (require p e >>= f) s ↔ (p → Issues P (f ()) s) := by
  rw [issues_bind, and_iff_right issues_require]
  simp only [run_require_ok]
  constructor
  · intro h hp
    exact h () s ⟨hp, rfl⟩
  · rintro h _ _ ⟨hp, rfl⟩
    exact h hp

@[simp] theorem issues_ofExcept_bind {x : Except ε α} {f : α → Work σ ω ε β} :
    Issues P (ofExcept x >>= f) s ↔ ∀ a, x = .ok a → Issues P (f a) s := by
  rw [issues_bind, and_iff_right issues_ofExcept]
  simp only [run_ofExcept_ok]
  constructor
  · intro h a ha
    exact h a s ⟨ha, rfl⟩
  · rintro h a _ ⟨ha, rfl⟩
    exact h a ha

@[simp] theorem issues_perform_bind {w : ω} {f : Unit → Work σ ω ε β} :
    Issues P (perform w >>= f) s ↔
      ∀ s', (exec w s : Except ε σ) = .ok s' → P s w ∧ Issues P (f ()) s' := by
  change Issues P (write w (done () >>= f)) s ↔ _
  exact issues_write

@[simp] theorem issues_pure_bind {a : α} {f : α → Work σ ω ε β} :
    Issues P (pure a >>= f) s ↔ Issues P (f a) s := Iff.rfl

theorem issues_forEach {f : β → Work σ ω ε Unit} {xs : List β} (h : ∀ x s, Issues P (f x) s) :
    Issues P (forEach xs f) s := by
  induction xs generalizing s with
  | nil => exact issues_done
  | cons x xs ih =>
      rw [forEach_cons, issues_bind]
      exact ⟨h x s, fun _ _ _ => ih⟩

theorem Issues.mono {Q : σ → ω → Prop} {p : Work σ ω ε α} (h : Issues P p s)
    (hPQ : ∀ s w, P s w → Q s w) : Issues Q p s := fun e he => hPQ e.1 e.2 (h e he)

/-- What every accepted write satisfies in states of an invariant, every write of a run from such a
state satisfies. -/
theorem issues_of_exec {I : σ → Prop}
    (hexec : ∀ (w : ω) s s', (exec w s : Except ε σ) = .ok s' → I s → P s w ∧ I s')
    (p : Work σ ω ε α) (hs : I s) : Issues P p s := by
  induction p generalizing s with
  | done a => exact issues_done
  | raise e => exact issues_raise
  | inspect k ih => exact ih s hs
  | write w k ih =>
      rw [issues_write]
      intro s' hw
      obtain ⟨hP, hI⟩ := hexec w s s' hw hs
      exact ⟨hP, ih hI⟩

end Rules

end Work

end Foundation
