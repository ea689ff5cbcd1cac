import Mathlib

/-! # Runs of a labelled machine

A machine moves by one total function of a label and a state. A run is the list
of its labels; its visited states and its steps are lists too, so a property of
a whole run is a statement about every element. The rules below turn facts about
one step into facts about runs.
-/

namespace Foundation

structure Machine (S L : Type) where
  start : S
  step : L → S → S

namespace Machine

variable {S L : Type} (M : Machine S L)

def runFrom (s : S) (ls : List L) : S := ls.foldl (fun s l => M.step l s) s

/-- Every state of a run from `s`, the first and the last included. -/
def visited : S → List L → List S
  | s, [] => [s]
  | s, l :: ls => s :: visited (M.step l s) ls

def steps : S → List L → List (S × L)
  | _, [] => []
  | s, l :: ls => (s, l) :: steps (M.step l s) ls

/-- The states of some run from the start state. -/
def Reachable (s : S) : Prop := ∃ ls, M.runFrom M.start ls = s

@[simp] theorem runFrom_cons (s : S) (l : L) (ls : List L) :
    M.runFrom s (l :: ls) = M.runFrom (M.step l s) ls := rfl

theorem runFrom_append (s : S) (ls ls' : List L) :
    M.runFrom s (ls ++ ls') = M.runFrom (M.runFrom s ls) ls' := by
  simp [runFrom]

theorem reachable_start : M.Reachable M.start := ⟨[], rfl⟩

variable {M}

theorem Reachable.runFrom {s : S} (h : M.Reachable s) (ls : List L) :
    M.Reachable (M.runFrom s ls) := by
  obtain ⟨ls₀, rfl⟩ := h
  exact ⟨ls₀ ++ ls, M.runFrom_append M.start ls₀ ls⟩

theorem Reachable.step {s : S} (h : M.Reachable s) (l : L) : M.Reachable (M.step l s) :=
  h.runFrom [l]

/-! ## From one step to runs -/

/-- What the start state has and every step preserves, every reachable state has. -/
theorem Reachable.induction {I : S → Prop} (h₀ : I M.start)
    (hstep : ∀ s l, M.Reachable s → I s → I (M.step l s)) {s : S} (h : M.Reachable s) : I s := by
  obtain ⟨ls, rfl⟩ := h
  suffices hrun : ∀ ls s, M.Reachable s → I s → I (M.runFrom s ls) from
    hrun ls M.start M.reachable_start h₀
  intro ls
  induction ls with
  | nil => exact fun _ _ hs => hs
  | cons l ls ih => exact fun s hr hs => ih _ (hr.step l) (hstep s l hr hs)

/-- A preorder that contains every step from a reachable state contains every run from one. -/
theorem runFrom_relates {R : S → S → Prop} (hrefl : ∀ s, R s s)
    (htrans : ∀ s₁ s₂ s₃, R s₁ s₂ → R s₂ s₃ → R s₁ s₃)
    (hstep : ∀ s l, M.Reachable s → R s (M.step l s)) {s : S} (h : M.Reachable s) (ls : List L) :
    R s (M.runFrom s ls) := by
  induction ls generalizing s with
  | nil => exact hrefl s
  | cons l ls ih => exact htrans s _ _ (hstep s l h) (ih (h.step l))

theorem reachable_of_mem_visited {s x : S} (h : M.Reachable s) {ls : List L}
    (hx : x ∈ M.visited s ls) : M.Reachable x := by
  induction ls generalizing s with
  | nil =>
      simp only [visited, List.mem_singleton] at hx
      exact hx ▸ h
  | cons l ls ih =>
      rcases List.mem_cons.mp hx with rfl | hx
      · exact h
      · exact ih (h.step l) hx

theorem runFrom_mem_visited (s : S) (ls : List L) : M.runFrom s ls ∈ M.visited s ls := by
  induction ls generalizing s with
  | nil => exact List.mem_singleton.mpr rfl
  | cons l ls ih => exact List.mem_cons_of_mem s (ih (M.step l s))

theorem mem_of_mem_steps {s : S} {ls : List L} {e : S × L} (he : e ∈ M.steps s ls) :
    e.1 ∈ M.visited s ls ∧ e.2 ∈ ls := by
  induction ls generalizing s with
  | nil => cases he
  | cons l ls ih =>
      rcases List.mem_cons.mp he with rfl | he
      · exact ⟨List.mem_cons_self, List.mem_cons_self⟩
      · have hrest := ih he
        exact ⟨List.mem_cons_of_mem _ hrest.1, List.mem_cons_of_mem _ hrest.2⟩

theorem split_of_mem_steps {s : S} {ls : List L} {e : S × L} (he : e ∈ M.steps s ls) :
    ∃ before after, ls = before ++ e.2 :: after ∧ e.1 = M.runFrom s before := by
  induction ls generalizing s with
  | nil => cases he
  | cons l ls ih =>
      rcases List.mem_cons.mp he with rfl | he
      · exact ⟨[], ls, rfl, rfl⟩
      · obtain ⟨before, after, hls, hs⟩ := ih he
        exact ⟨l :: before, after, by rw [hls, List.cons_append], hs⟩

/-- What a run ends with it started with, or one of its steps brought it about. -/
theorem exists_step_of_runFrom {P : S → Prop} {s : S} {ls : List L} (h : P (M.runFrom s ls)) :
    P s ∨ ∃ e ∈ M.steps s ls, ¬P e.1 ∧ P (M.step e.2 e.1) := by
  induction ls generalizing s with
  | nil => exact Or.inl h
  | cons l ls ih =>
      by_cases hs : P s
      · exact Or.inl hs
      · right
        rcases ih h with hnext | ⟨e, he, hbefore, hafter⟩
        · exact ⟨(s, l), List.mem_cons_self, hs, hnext⟩
        · exact ⟨e, List.mem_cons_of_mem _ he, hbefore, hafter⟩

/-- A property that every guarded step keeps is a property of every state of a guarded run. -/
theorem forall_visited {P : S → Prop} {G : S → L → Prop}
    (hstep : ∀ s l, M.Reachable s → P s → G s l → P (M.step l s)) {s : S}
    (h : M.Reachable s) (hs : P s) {ls : List L} (hok : ∀ e ∈ M.steps s ls, G e.1 e.2) :
    ∀ x ∈ M.visited s ls, P x := by
  induction ls generalizing s with
  | nil =>
      intro x hx
      rw [visited, List.mem_singleton] at hx
      rw [hx]
      exact hs
  | cons l ls ih =>
      rw [steps, List.forall_mem_cons] at hok
      rw [visited, List.forall_mem_cons]
      exact ⟨hs, ih (h.step l) (hstep s l h hs hok.1) hok.2⟩

end Machine

end Foundation
