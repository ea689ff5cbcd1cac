import RoboLake.Foundation.Machine
import Mathlib

/-! # Fences

A fence is a counter that never goes back, together with labels that carry the
count they were issued under and that move the observed part of the state only
under the current count. Once the counter has passed a count, no label that
carries it ever moves the state again.
-/

namespace Foundation

/-- A counter of a machine that guards what some of its labels change. -/
structure Fence {S L : Type} (M : Machine S L) (V : Type) where
  epoch : S → Nat
  token : L → Option Nat
  view : S → V
  mono : ∀ s l, M.Reachable s → epoch s ≤ epoch (M.step l s)
  guarded : ∀ s l e, M.Reachable s → token l = some e → view (M.step l s) ≠ view s → e = epoch s

namespace Fence

variable {S L V : Type} {M : Machine S L} (F : Fence M V)

/-- A count that was passed moves nothing in the rest of the run. -/
theorem stale_moves_nothing {s : S} (h : M.Reachable s) {e : Nat} (he : e < F.epoch s)
    (ls : List L) : ∀ x ∈ M.steps s ls, F.token x.2 = some e →
      F.view (M.step x.2 x.1) = F.view x.1 := by
  induction ls generalizing s with
  | nil => exact fun x hx => by cases hx
  | cons l ls ih =>
      intro x hx htoken
      rcases List.mem_cons.mp hx with rfl | hx
      · by_contra hmoved
        exact absurd (F.guarded s l e h htoken hmoved) he.ne
      · exact ih (h.step l) (lt_of_lt_of_le he (F.mono s l h)) x hx htoken

end Fence

end Foundation
