import Mathlib.Logic.Basic

/-! # Programs over a world

A program acts on a world and returns or raises. `Ensures p s Q E` says what holds in
either case. Programs are deterministic, so the rule of each command is an equivalence.
-/

namespace Foundation

/-- A program over a world; an error ends it. -/
abbrev Acting (ε σ : Type) := ExceptT ε (StateM σ)

namespace Acting

variable {ε σ τ α β γ : Type}

/-! ## Worlds with a part of one's own -/

/-- Act on the first part of a world. -/
def outside (p : Acting ε σ α) : Acting ε (σ × τ) α := fun s =>
  ((p s.1).1, (p s.1).2, s.2)

/-- Act on the second part of a world. -/
def inside (p : Acting ε τ α) : Acting ε (σ × τ) α := fun s =>
  ((p s.2).1, s.1, (p s.2).2)

def own : Acting ε (σ × τ) τ := fun s => (.ok s.2, s)

def setOwn (t : τ) : Acting ε (σ × τ) Unit := fun s => (.ok (), (s.1, t))

/-- Run a program and return its outcome, an error included. -/
def attempt {δ : Type} (p : Acting δ σ α) : Acting ε σ (Except δ α) := fun s =>
  (.ok (p s).1, (p s).2)

/-! ## Outcomes -/

/-- The program returns with one postcondition or raises with the other. -/
def Ensures (p : Acting ε σ α) (s : σ) (Q : α → σ → Prop) (E : ε → σ → Prop) : Prop :=
  match p s with
  | (.ok a, s') => Q a s'
  | (.error e, s') => E e s'

variable {s : σ} {Q : α → σ → Prop} {E : ε → σ → Prop}

theorem ensures_pure {a : α} : Ensures (pure a : Acting ε σ α) s Q E ↔ Q a s := Iff.rfl

theorem ensures_ofExcept {x : Except ε α} :
    Ensures (MonadExcept.ofExcept x : Acting ε σ α) s Q E ↔
      match x with
      | .ok a => Q a s
      | .error e => E e s := by
  cases x with
  | ok a => exact Iff.rfl
  | error e => exact Iff.rfl

theorem ensures_bind {p : Acting ε σ α} {f : α → Acting ε σ β} {Q : β → σ → Prop} :
    Ensures (p >>= f) s Q E ↔ Ensures p s (fun a s' => Ensures (f a) s' Q E) E := by
  unfold Ensures
  change (match (match p s with | (x, s₁) => ExceptT.bindCont f x s₁) with
    | (.ok a, s') => Q a s'
    | (.error e, s') => E e s') ↔ _
  rcases p s with ⟨x, s'⟩
  cases x with
  | ok a => exact Iff.rfl
  | error e => exact Iff.rfl

theorem ensures_tryCatch {p : Acting ε σ α} {handler : ε → Acting ε σ α} :
    Ensures (tryCatch p handler) s Q E ↔
      Ensures p s Q fun e s' => Ensures (handler e) s' Q E := by
  have hcatch : tryCatch p handler s = (match p s with
      | (x, s₁) => (match x with
        | .ok a => (pure (.ok a) : StateM σ (Except ε α))
        | .error e => handler e) s₁) := rfl
  unfold Ensures
  rw [hcatch]
  rcases p s with ⟨x, s'⟩
  cases x with
  | ok a => exact Iff.rfl
  | error e => exact Iff.rfl

theorem ensures_self {p : Acting ε σ α} :
    Ensures p s (fun a s' => p s = (.ok a, s')) fun e s' => p s = (.error e, s') := by
  unfold Ensures
  rcases p s with ⟨x, s'⟩
  cases x with
  | ok a => rfl
  | error e => rfl

theorem Ensures.mono {p : Acting ε σ α} {Q' : α → σ → Prop} {E' : ε → σ → Prop}
    (h : Ensures p s Q E) (hQ : ∀ a s', Q a s' → Q' a s') (hE : ∀ e s', E e s' → E' e s') :
    Ensures p s Q' E' := by
  unfold Ensures at h ⊢
  rcases hrun : p s with ⟨x, s'⟩
  rw [hrun] at h
  cases x with
  | ok a => exact hQ a s' h
  | error e => exact hE e s' h

theorem Ensures.and {p : Acting ε σ α} {Q' : α → σ → Prop} {E' : ε → σ → Prop}
    (h : Ensures p s Q E) (h' : Ensures p s Q' E') :
    Ensures p s (fun a s' => Q a s' ∧ Q' a s') fun e s' => E e s' ∧ E' e s' := by
  unfold Ensures at h h' ⊢
  rcases hrun : p s with ⟨x, s'⟩
  rw [hrun] at h h'
  cases x with
  | ok a => exact ⟨h, h'⟩
  | error e => exact ⟨h, h'⟩

theorem Ensures.of_ok {p : Acting ε σ α} (h : Ensures p s Q E) {a : α} {s' : σ}
    (hrun : p s = (.ok a, s')) : Q a s' := by
  unfold Ensures at h
  rwa [hrun] at h

theorem Ensures.of_error {p : Acting ε σ α} (h : Ensures p s Q E) {e : ε} {s' : σ}
    (hrun : p s = (.error e, s')) : E e s' := by
  unfold Ensures at h
  rwa [hrun] at h

theorem Ensures.of_run {p : Acting ε σ α} {a : α} {s' : σ} (hrun : p s = (.ok a, s'))
    (h : Q a s') : Ensures p s Q E := by
  unfold Ensures
  rw [hrun]
  exact h

/-- A loop keeps an invariant over the items that are left. -/
theorem ensures_foldlM {f : β → γ → Acting ε σ β} {J : List γ → β → σ → Prop}
    (hstep : ∀ c cs b s, J (c :: cs) b s → Ensures (f b c) s (J cs) E) {cs : List γ} {b : β}
    (h : J cs b s) : Ensures (cs.foldlM f b) s (J []) E := by
  induction cs generalizing b s with
  | nil => exact h
  | cons c cs ih =>
      rw [List.foldlM_cons, ensures_bind]
      exact (hstep c cs b s h).mono (fun b' s' hJ => ih hJ) fun _ _ he => he

/-! ## The parts of a world -/

section Parts

variable {s : σ × τ} {Q : α → σ × τ → Prop} {E : ε → σ × τ → Prop}

theorem ensures_outside {p : Acting ε σ α} :
    Ensures (outside p) s Q E ↔
      Ensures p s.1 (fun a w => Q a (w, s.2)) fun e w => E e (w, s.2) := by
  unfold Ensures outside
  rcases p s.1 with ⟨x, w⟩
  cases x with
  | ok a => exact Iff.rfl
  | error e => exact Iff.rfl

theorem ensures_inside {p : Acting ε τ α} :
    Ensures (inside p) s Q E ↔
      Ensures p s.2 (fun a t => Q a (s.1, t)) fun e t => E e (s.1, t) := by
  unfold Ensures inside
  rcases p s.2 with ⟨x, t⟩
  cases x with
  | ok a => exact Iff.rfl
  | error e => exact Iff.rfl

theorem ensures_own {Q : τ → σ × τ → Prop} : Ensures own s Q E ↔ Q s.2 s := Iff.rfl

theorem ensures_setOwn {t : τ} {Q : Unit → σ × τ → Prop} :
    Ensures (setOwn t) s Q E ↔ Q () (s.1, t) := Iff.rfl

end Parts

theorem ensures_attempt {δ : Type} {p : Acting δ σ α} {Q : Except δ α → σ → Prop} :
    Ensures (attempt p : Acting ε σ _) s Q E ↔
      Ensures p s (fun a s' => Q (.ok a) s') fun e s' => Q (.error e) s' := by
  unfold Ensures attempt
  rcases p s with ⟨x, s'⟩
  cases x with
  | ok a => exact Iff.rfl
  | error e => exact Iff.rfl

/-! ## Refinement -/

/-- A program that returns does so with a fact of its value, and keeps a fact of the world. -/
def Keeps (I : σ → Prop) (P : α → Prop) (p : Acting ε σ α) : Prop :=
  ∀ s, I s → Ensures p s (fun a s' => P a ∧ I s') fun _ _ => True

section Keeping

variable {I : σ → Prop} {P : α → Prop} {p : Acting ε σ α}

theorem keeps_pure {a : α} (h : P a) : Keeps I P (pure a : Acting ε σ α) := fun _ hI => ⟨h, hI⟩

theorem keeps_trivial (hP : ∀ a, P a) : Keeps (fun _ => True) P p := fun _ _ =>
  ensures_self.mono (fun a _ _ => ⟨hP a, trivial⟩) fun _ _ _ => trivial

theorem keeps_inside {J : τ → Prop} {q : Acting ε τ α} (h : Keeps J P q) :
    Keeps (fun s : σ × τ => J s.2) P (inside q) := by
  intro s hJ
  rw [ensures_inside]
  exact h s.2 hJ

/-- A program on the first part of a world keeps every fact of the second part. -/
theorem keeps_outside {J : τ → Prop} (h : Keeps (fun _ => True) P p) :
    Keeps (fun s : σ × τ => J s.2) P (outside p) := by
  intro s hJ
  rw [ensures_outside]
  exact (h s.1 trivial).mono (fun _ _ ha => ⟨ha.1, hJ⟩) fun _ _ he => he

end Keeping

/-- How the runs of programs on one world are compared with runs on another: by the image of
the world, from where a fact holds of the image, and with their errors when the comparison is
complete. -/
structure Simulation (ε δ σ τ : Type) where
  image : σ → τ
  Holds : τ → Prop
  complete : Prop
  Raises : ε → δ → Prop

section Refinement

variable {δ : Type} {S : Simulation ε δ σ τ} {R : α → β → Prop} {p : Acting ε σ α}
  {q : Acting δ τ β}

/-- Whenever the first program returns, so does the second one from the image of the world, with a
related value; when the comparison is complete, both raise together as well. -/
def Simulation.Refines (S : Simulation ε δ σ τ) (R : α → β → Prop) (p : Acting ε σ α)
    (q : Acting δ τ β) : Prop :=
  ∀ s, S.Holds (S.image s) → Ensures p s
    (fun a s' => ∃ b, q (S.image s) = (.ok b, S.image s') ∧ R a b ∧ S.Holds (S.image s'))
    fun e s' => S.complete → ∃ f, q (S.image s) = (.error f, S.image s') ∧ S.Raises e f

theorem refines_pure {a : α} {b : β} (h : R a b) :
    S.Refines R (pure a : Acting ε σ α) (pure b : Acting δ τ β) := fun _ hS => ⟨b, rfl, h, hS⟩

theorem refines_throw {e : ε} {f : δ} (h : S.Raises e f) :
    S.Refines R (throw e : Acting ε σ α) (throw f : Acting δ τ β) := fun _ _ _ => ⟨f, rfl, h⟩

theorem refines_of_incomplete {e : ε} (h : ¬S.complete) :
    S.Refines R (throw e : Acting ε σ α) q := fun _ _ hcomplete => absurd hcomplete h

theorem refines_ofExcept {x : Except ε α} {y : Except δ β}
    (hok : ∀ a, x = .ok a → ∃ b, y = .ok b ∧ R a b)
    (herror : ∀ e, x = .error e → S.complete → ∃ f, y = .error f ∧ S.Raises e f) :
    S.Refines R (MonadExcept.ofExcept x : Acting ε σ α)
      (MonadExcept.ofExcept y : Acting δ τ β) := by
  intro s hS
  rw [ensures_ofExcept]
  cases x with
  | error e =>
      intro hcomplete
      obtain ⟨f, rfl, hraises⟩ := herror e rfl hcomplete
      exact ⟨f, rfl, hraises⟩
  | ok a =>
      obtain ⟨b, rfl, hR⟩ := hok a rfl
      exact ⟨b, rfl, hR, hS⟩

theorem refines_ite {c : Prop} [Decidable c] {p' : Acting ε σ α} {q' : Acting δ τ β}
    (h : c → S.Refines R p q) (h' : ¬c → S.Refines R p' q') :
    S.Refines R (if c then p else p') (if c then q else q') := by
  by_cases hc : c
  · rw [if_pos hc, if_pos hc]
    exact h hc
  · rw [if_neg hc, if_neg hc]
    exact h' hc

theorem refines_bind {α' β' : Type} {R' : α' → β' → Prop} {f : α → Acting ε σ α'}
    {g : β → Acting δ τ β'} (h : S.Refines R p q)
    (hf : ∀ a b, R a b → S.Refines R' (f a) (g b)) : S.Refines R' (p >>= f) (q >>= g) := by
  have hbind : ∀ t, (q >>= g) t = (match q t with | (x, t') => ExceptT.bindCont g x t') :=
    fun _ => rfl
  intro s hS
  rw [ensures_bind, hbind]
  refine (h s hS).mono ?_ ?_
  · intro a s' ha
    obtain ⟨b, hrun, hR, hS'⟩ := ha
    rw [hrun]
    exact hf a b hR s' hS'
  · intro e s' he hcomplete
    obtain ⟨f, hrun, hraises⟩ := he hcomplete
    rw [hrun]
    exact ⟨f, rfl, hraises⟩

theorem refines_foldlM {f : α → γ → Acting ε σ α} {g : β → γ → Acting δ τ β}
    (h : ∀ a b c, R a b → S.Refines R (f a c) (g b c)) (cs : List γ) {a : α} {b : β}
    (hR : R a b) : S.Refines R (cs.foldlM f a) (cs.foldlM g b) := by
  induction cs generalizing a b with
  | nil => exact refines_pure hR
  | cons c cs ih =>
      rw [List.foldlM_cons, List.foldlM_cons]
      exact refines_bind (h a b c hR) fun _ _ hR' => ih hR'

/-- What a program ensures, its refinements ensure too when they return. -/
theorem Simulation.Refines.ensures {s : σ} {Q : β → τ → Prop} {E : δ → τ → Prop}
    (h : S.Refines R p q) (hS : S.Holds (S.image s)) (hq : Ensures q (S.image s) Q E) :
    Ensures p s (fun a s' => ∃ b, Q b (S.image s') ∧ R a b) fun _ _ => True := by
  refine (h s hS).mono ?_ fun _ _ _ => trivial
  intro a s' ha
  obtain ⟨b, hrun, hR, _⟩ := ha
  exact ⟨b, hq.of_ok hrun, hR⟩

theorem refines_inside {I : τ → Prop} {P : α → Prop} {c : Prop} {F : ε → ε → Prop}
    {q : Acting ε τ α} (hq : Keeps I P q) (hF : ∀ e, F e e) :
    Simulation.Refines ⟨Prod.snd, I, c, F⟩ (fun a b => a = b ∧ P b)
      (inside q : Acting ε (σ × τ) α) q := by
  intro s hI
  rw [ensures_inside]
  refine (ensures_self.and (hq s.2 hI)).mono ?_ ?_
  · intro a t ha
    obtain ⟨hrun, hP, hI'⟩ := ha
    exact ⟨a, hrun, ⟨rfl, hP⟩, hI'⟩
  · intro e t he _
    exact ⟨e, he.1, hF e⟩

end Refinement

end Acting

end Foundation
