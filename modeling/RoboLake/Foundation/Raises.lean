import Mathlib

/-! # The errors of a computation

A computation only raises errors of a kind when each of its steps does. The rules below
follow the way a program is put together, so that a bound on its errors is read off its
text.
-/

namespace Foundation

variable {ε α β : Type} {P : ε → Prop}

/-- Every error of the computation is of the kind. -/
def OnlyRaises (P : ε → Prop) (x : Except ε α) : Prop := ∀ e, x = .error e → P e

namespace OnlyRaises

theorem ok (a : α) : OnlyRaises P (.ok a : Except ε α) := by
  intro e h
  cases h

theorem error {e : ε} (h : P e) : OnlyRaises P (.error e : Except ε α) := by
  intro e' h'
  cases h'
  exact h

theorem error_iff {e : ε} : OnlyRaises P (.error e : Except ε α) ↔ P e :=
  ⟨fun h => h e rfl, error⟩

theorem bind {x : Except ε α} {f : α → Except ε β} (hx : OnlyRaises P x)
    (hf : ∀ a, x = .ok a → OnlyRaises P (f a)) : OnlyRaises P (x >>= f) := by
  cases x with
  | error e => exact error (hx e rfl)
  | ok a => exact hf a rfl

theorem ite {c : Prop} [Decidable c] {x y : Except ε α} (hx : c → OnlyRaises P x)
    (hy : ¬c → OnlyRaises P y) : OnlyRaises P (if c then x else y) := by
  by_cases h : c
  · rw [if_pos h]
    exact hx h
  · rw [if_neg h]
    exact hy h

theorem mapM {f : α → Except ε β} (xs : List α) (hf : ∀ x ∈ xs, OnlyRaises P (f x)) :
    OnlyRaises P (xs.mapM f) := by
  induction xs with
  | nil => exact ok []
  | cons x xs ih =>
      rw [List.mapM_cons]
      refine bind (hf x List.mem_cons_self) fun y _ => ?_
      refine bind (ih fun x' hx' => hf x' (List.mem_cons_of_mem x hx')) fun ys _ => ?_
      exact ok (y :: ys)

end OnlyRaises

end Foundation
