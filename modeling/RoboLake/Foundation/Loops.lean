import Mathlib

/-! # Loops that a peer drives

A loop without a bound of its own: each turn answers or hands a state to the next
turn, and what a turn sees may depend on its number. A run has fuel for a number of
turns, so that a loop ends exactly when some fuel suffices.
-/

namespace Foundation

inductive Turned (ρ σ : Type)
  | answer (r : ρ)
  | again (s : σ)

namespace Loop

variable {ρ σ : Type}

/-- Run a loop from a numbered turn on, for as many turns as the fuel allows. -/
def run (turn : Nat → σ → Turned ρ σ) : Nat → Nat → σ → Option ρ
  | 0, _, _ => none
  | fuel + 1, i, s =>
      match turn i s with
      | .answer r => some r
      | .again s' => run turn fuel (i + 1) s'

/-- The loop goes on for a number of turns and then stands in a state. -/
inductive Goes (turn : Nat → σ → Turned ρ σ) (i : Nat) (s : σ) : Nat → σ → Prop
  | refl : Goes turn i s 0 s
  | step {n : Nat} {t t' : σ} (h : Goes turn i s n t) (hturn : turn (i + n) t = .again t') :
      Goes turn i s (n + 1) t'

variable {turn : Nat → σ → Turned ρ σ} {i n : Nat} {s t : σ}

/-! ## Runs and their turns -/

theorem run_of_answer {r : ρ} (fuel : Nat) (h : turn i s = .answer r) :
    run turn (fuel + 1) i s = some r := by
  simp [run, h]

theorem run_of_again (fuel : Nat) (h : turn i s = .again t) :
    run turn (fuel + 1) i s = run turn fuel (i + 1) t := by
  simp [run, h]

theorem run_add_of_goes (h : Goes turn i s n t) (fuel : Nat) :
    run turn (n + fuel) i s = run turn fuel (i + n) t := by
  induction h generalizing fuel with
  | refl => rw [Nat.zero_add, Nat.add_zero]
  | @step n t t' _ hturn ih =>
      have hsplit : n + 1 + fuel = n + (fuel + 1) := by omega
      rw [hsplit, ih, run_of_again fuel hturn]
      rfl

theorem goes_or_answers (turn : Nat → σ → Turned ρ σ) (i : Nat) (s : σ) (n : Nat) :
    (∃ t, Goes turn i s n t) ∨
      ∃ m < n, ∃ t r, Goes turn i s m t ∧ turn (i + m) t = .answer r := by
  induction n with
  | zero => exact .inl ⟨s, .refl⟩
  | succ n ih =>
      rcases ih with ⟨t, ht⟩ | ⟨m, hm, hanswer⟩
      · cases hturn : turn (i + n) t with
        | answer r => exact .inr ⟨n, n.lt_succ_self, t, r, ht, hturn⟩
        | again t' => exact .inl ⟨t', ht.step hturn⟩
      · exact .inr ⟨m, hm.trans n.lt_succ_self, hanswer⟩

theorem run_of_goes (h : Goes turn i s n t) : run turn n i s = none :=
  run_add_of_goes h 0

theorem run_of_goes_answer {m : Nat} {r : ρ} (h : Goes turn i s m t)
    (hturn : turn (i + m) t = .answer r) (hm : m < n) : run turn n i s = some r := by
  obtain ⟨fuel, rfl⟩ := Nat.exists_eq_add_of_lt hm
  rw [Nat.add_assoc, run_add_of_goes h, run_of_answer fuel hturn]

/-- The fuel runs out exactly when the loop goes on through all its turns. -/
theorem run_eq_none_iff : run turn n i s = none ↔ ∃ t, Goes turn i s n t := by
  constructor
  · intro h
    rcases goes_or_answers turn i s n with hgoes | ⟨m, hm, t, r, ht, hturn⟩
    · exact hgoes
    · rw [run_of_goes_answer ht hturn hm] at h
      cases h
  · intro h
    obtain ⟨t, ht⟩ := h
    exact run_of_goes ht

/-- The loop ends with the answer of one of its turns. -/
theorem run_eq_some_iff {r : ρ} :
    run turn n i s = some r ↔ ∃ m < n, ∃ t, Goes turn i s m t ∧ turn (i + m) t = .answer r := by
  constructor
  · intro h
    rcases goes_or_answers turn i s n with ⟨t, ht⟩ | ⟨m, hm, t, r', ht, hturn⟩
    · rw [run_of_goes ht] at h
      cases h
    · rw [run_of_goes_answer ht hturn hm] at h
      cases h
      exact ⟨m, hm, t, ht, hturn⟩
  · intro h
    obtain ⟨m, hm, t, ht, hturn⟩ := h
    exact run_of_goes_answer ht hturn hm

end Loop

/-! ## Pages of an ordered list -/

section Paging

variable {α κ : Type} [LinearOrder κ]

theorem filter_above_prefix {key : α → κ} {front rest : List α} {last : α}
    (h : ((front ++ [last]) ++ rest).Pairwise fun x y => key x < key y) :
    ((front ++ [last]) ++ rest).filter (fun x => key last < key x) = rest := by
  rw [List.pairwise_append] at h
  obtain ⟨hfront, _, hrest⟩ := h
  rw [List.pairwise_append] at hfront
  have hbelow : (front ++ [last]).filter (fun x => key last < key x) = [] := by
    rw [List.filter_eq_nil_iff]
    intro x hx
    rw [decide_eq_true_eq, not_lt]
    rcases List.mem_append.mp hx with hx | hx
    · exact (hfront.2.2 x hx last (List.mem_singleton_self last)).le
    · rw [List.mem_singleton.mp hx]
  have habove : rest.filter (fun x => key last < key x) = rest := by
    rw [List.filter_eq_self]
    intro x hx
    rw [decide_eq_true_eq]
    exact hrest last (by simp) x hx
  rw [List.filter_append, hbelow, habove, List.nil_append]

end Paging

end Foundation
