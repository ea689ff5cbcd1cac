import Mathlib.Data.List.Basic
import RoboLake.Foundation.Acting

/-! # Recorded programs

A program acts on a world that nothing is known of. Its calls are recorded with their
answers, and what it does is said of the record alone: provided that the answers keep
an agreement, the outcome and the record meet a postcondition.
-/

namespace Foundation

/-- A program over a world that leaves a record of its calls. -/
def Recorded (ε σ κ α : Type) := σ → Except ε α × σ × List κ

namespace Recorded

variable {ε σ κ α β γ : Type}

instance : Monad (Recorded ε σ κ) where
  pure a := fun s => (.ok a, s, [])
  bind p f := fun s =>
    match p s with
    | (.ok a, s', log) => ((f a s').1, (f a s').2.1, log ++ (f a s').2.2)
    | (.error e, s', log) => (.error e, s', log)

instance : MonadExceptOf ε (Recorded ε σ κ) where
  throw e := fun s => (.error e, s, [])
  tryCatch p handler := fun s =>
    match p s with
    | (.ok a, s', log) => (.ok a, s', log)
    | (.error e, s', log) => ((handler e s').1, (handler e s').2.1, log ++ (handler e s').2.2)

def record (call : Except ε α → κ) (p : Acting ε σ α) : Recorded ε σ κ α := fun s =>
  ((p s).1, (p s).2, [call (p s).1])

/-! ## Runs -/

theorem run_bind_of_ok {p : Recorded ε σ κ α} {f : α → Recorded ε σ κ β} {s s' : σ} {a : α}
    {log : List κ} (h : p s = (.ok a, s', log)) :
    (p >>= f) s = ((f a s').1, (f a s').2.1, log ++ (f a s').2.2) := by
  change (match p s with
    | (.ok a, s', log) => ((f a s').1, (f a s').2.1, log ++ (f a s').2.2)
    | (.error e, s', log) => (.error e, s', log)) = _
  rw [h]

theorem run_bind_of_error {p : Recorded ε σ κ α} {f : α → Recorded ε σ κ β} {s s' : σ} {e : ε}
    {log : List κ} (h : p s = (.error e, s', log)) : (p >>= f) s = (.error e, s', log) := by
  change (match p s with
    | (.ok a, s', log) => ((f a s').1, (f a s').2.1, log ++ (f a s').2.2)
    | (.error e, s', log) => (.error e, s', log)) = _
  rw [h]

/-! ## Programs whose answers keep an agreement -/

/-- If all recorded answers keep the agreement, the outcome and the record meet the
postcondition. -/
def Provided (H : κ → Prop) (p : Recorded ε σ κ α) (s : σ) (Q : Except ε α → List κ → Prop) :
    Prop :=
  (∀ c ∈ (p s).2.2, H c) → Q (p s).1 (p s).2.2

def Returns (Q : α → List κ → Prop) (x : Except ε α) (log : List κ) : Prop :=
  ∃ a, x = .ok a ∧ Q a log

variable {H : κ → Prop} {s : σ}

theorem Provided.mono {p : Recorded ε σ κ α} {Q Q' : Except ε α → List κ → Prop}
    (h : Provided H p s Q) (hQ : ∀ x log, Q x log → Q' x log) : Provided H p s Q' :=
  fun hall => hQ _ _ (h hall)

theorem provided_pure {a : α} {Q : Except ε α → List κ → Prop} (h : Q (.ok a) []) :
    Provided H (pure a : Recorded ε σ κ α) s Q :=
  fun _ => h

theorem provided_ofExcept {x : Except ε α} {Q : Except ε α → List κ → Prop} (h : Q x []) :
    Provided H (MonadExcept.ofExcept x : Recorded ε σ κ α) s Q := by
  intro _
  cases x with
  | error e => exact h
  | ok a => exact h

theorem provided_record {call : Except ε α → κ} {p : Acting ε σ α}
    {Q : Except ε α → List κ → Prop} (h : ∀ x, H (call x) → Q x [call x]) :
    Provided H (record call p) s Q :=
  fun hall => h (p s).1 (hall _ List.mem_cons_self)

theorem provided_bind {p : Recorded ε σ κ α} {f : α → Recorded ε σ κ β}
    {Q : Except ε β → List κ → Prop}
    (h : Provided H p s (Returns fun a log =>
      ∀ w, Provided H (f a) w fun x log' => Q x (log ++ log'))) :
    Provided H (p >>= f) s Q := by
  unfold Provided at h ⊢
  rcases hrun : p s with ⟨x, s', log⟩
  rw [hrun] at h
  cases x with
  | error e =>
      rw [run_bind_of_error hrun]
      intro hall
      obtain ⟨a, ha, _⟩ := h hall
      cases ha
  | ok a =>
      rw [run_bind_of_ok hrun]
      intro hall
      obtain ⟨b, hb, hnext⟩ := h fun c hc => hall c (List.mem_append_left _ hc)
      cases hb
      exact hnext s' fun c hc => hall c (List.mem_append_right _ hc)

/-- A loop keeps its invariant over the items that are left and the record so far. -/
theorem provided_foldlM {f : β → γ → Recorded ε σ κ β} {J : List γ → β → List κ → Prop}
    (hstep : ∀ c cs b log w, J (c :: cs) b log →
      Provided H (f b c) w (Returns fun b' calls => J cs b' (log ++ calls)))
    {cs : List γ} {b : β} {log : List κ} (h : J cs b log) :
    Provided H (cs.foldlM f b) s (Returns fun b' calls => J [] b' (log ++ calls)) := by
  induction cs generalizing b s log with
  | nil =>
      rw [← List.append_nil log] at h
      exact provided_pure ⟨b, rfl, h⟩
  | cons c cs ih =>
      rw [List.foldlM_cons]
      refine provided_bind ((hstep c cs b log s h).mono fun x calls hreturns => ?_)
      obtain ⟨b', hb', hJ⟩ := hreturns
      refine ⟨b', hb', fun w => (ih hJ).mono fun x calls' hrest => ?_⟩
      obtain ⟨b'', hb'', hJ'⟩ := hrest
      rw [List.append_assoc] at hJ'
      exact ⟨b'', hb'', hJ'⟩

end Recorded

end Foundation
