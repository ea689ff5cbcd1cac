import Mathlib

/-! # Distinct values of a list

Counting and summing over the distinct values of a list: both grow with the list,
and two projections that identify the same members count alike. Members with distinct
keys are found by them.
-/

namespace Foundation.Distinct

variable {α β γ : Type} [DecidableEq β] [DecidableEq γ]

/-- Projections that identify the same members of a list have the same representatives. -/
theorem exists_dedup_map {f : α → β} {g : α → γ} {xs : List α}
    (h : ∀ a ∈ xs, ∀ b ∈ xs, f a = f b ↔ g a = g b) :
    ∃ ys, ys ⊆ xs ∧ (xs.map f).dedup = ys.map f ∧ (xs.map g).dedup = ys.map g := by
  induction xs with
  | nil => exact ⟨[], fun _ hy => hy, rfl, rfl⟩
  | cons x xs ih =>
      obtain ⟨ys, hsub, hf, hg⟩ := ih fun a ha b hb =>
        h a (List.mem_cons_of_mem x ha) b (List.mem_cons_of_mem x hb)
      have hseen : f x ∈ xs.map f ↔ g x ∈ xs.map g := by
        simp only [List.mem_map]
        constructor
        · intro hx
          obtain ⟨a, ha, hax⟩ := hx
          exact ⟨a, ha, (h a (List.mem_cons_of_mem x ha) x List.mem_cons_self).mp hax⟩
        · intro hx
          obtain ⟨a, ha, hax⟩ := hx
          exact ⟨a, ha, (h a (List.mem_cons_of_mem x ha) x List.mem_cons_self).mpr hax⟩
      by_cases hx : f x ∈ xs.map f
      · refine ⟨ys, fun y hy => List.mem_cons_of_mem x (hsub hy), ?_, ?_⟩
        · rw [List.map_cons, List.dedup_cons_of_mem hx, hf]
        · rw [List.map_cons, List.dedup_cons_of_mem (hseen.mp hx), hg]
      · refine ⟨x :: ys, List.cons_subset_cons x hsub, ?_, ?_⟩
        · rw [List.map_cons, List.dedup_cons_of_notMem hx, hf, List.map_cons]
        · rw [List.map_cons, List.dedup_cons_of_notMem (fun hy => hx (hseen.mpr hy)), hg,
            List.map_cons]

variable {l l' : List β}

private theorem subperm_dedup (h : l ⊆ l') : l.dedup.Subperm l'.dedup :=
  (List.nodup_dedup l).subperm fun _ hx => List.mem_dedup.mpr (h (List.mem_dedup.mp hx))

theorem length_dedup_le (h : l ⊆ l') : l.dedup.length ≤ l'.dedup.length :=
  (subperm_dedup h).length_le

theorem sum_dedup_le (h : l ⊆ l') (size : β → Nat) :
    (l.dedup.map size).sum ≤ (l'.dedup.map size).sum := by
  obtain ⟨k, hperm, hsub⟩ := subperm_dedup h
  calc (l.dedup.map size).sum
      = (k.map size).sum := ((hperm.map size).sum_eq).symm
    _ ≤ (l'.dedup.map size).sum := (hsub.map size).sum_le_sum fun _ _ => Nat.zero_le _

theorem subset_of_length_dedup (h : l ⊆ l') (hlength : l'.dedup.length ≤ l.dedup.length) :
    l' ⊆ l := by
  intro x hx
  have hperm := (subperm_dedup h).perm_of_length_le hlength
  exact List.mem_dedup.mp (hperm.mem_iff.mpr (List.mem_dedup.mpr hx))

/-! ## Looking up by key -/

section Lookup

variable {α β γ : Type} [DecidableEq β] {value : α → γ} {key : γ → β} {xs ys : List α} {cs : List γ}

private theorem find?_of_mem (hnodup : (xs.map fun x => key (value x)).Nodup) {x : α}
    (hx : x ∈ xs) : (xs.reverse.find? fun y => key (value y) = key (value x)) = some x := by
  have hsome : (xs.reverse.find? fun y => key (value y) = key (value x)).isSome := by
    rw [List.find?_isSome]
    exact ⟨x, List.mem_reverse.mpr hx, decide_eq_true rfl⟩
  obtain ⟨y, hy⟩ := Option.isSome_iff_exists.mp hsome
  have hmem : y ∈ xs := List.mem_reverse.mp (List.mem_of_find?_eq_some hy)
  have hkey : key (value y) = key (value x) := by simpa using List.find?_some hy
  rw [hy, List.inj_on_of_nodup_map hnodup hmem hx hkey]

/-- Looking up values with distinct keys puts the members that have them in the order of the
values. -/
theorem eq_lookup_iff (hnodup : (cs.map key).Nodup) (hperm : cs.Perm (xs.map value)) :
    ys = (cs.filterMap fun c => xs.reverse.find? fun x => key (value x) = key c) ↔
      ys.Perm xs ∧ ys.map value = cs := by
  have hkeys : (xs.map fun x => key (value x)).Nodup := by
    have hmapped := (hperm.map key).nodup_iff.mp hnodup
    rwa [List.map_map] at hmapped
  have hself : ∀ zs : List α, zs ⊆ xs → (zs.map value).filterMap
      (fun c => xs.reverse.find? fun x => key (value x) = key c) = zs := by
    intro zs hzs
    rw [List.filterMap_map]
    calc zs.filterMap _ = zs.filterMap some :=
          List.filterMap_congr fun x hx => find?_of_mem hkeys (hzs hx)
      _ = zs := List.filterMap_some
  constructor
  · intro hys
    subst hys
    constructor
    · have hmapped := hperm.filterMap fun c => xs.reverse.find? fun x => key (value x) = key c
      rwa [hself xs fun _ hx => hx] at hmapped
    · rw [List.map_filterMap]
      calc cs.filterMap _ = cs.filterMap some := by
            apply List.filterMap_congr
            intro c hc
            obtain ⟨x, hx, rfl⟩ := List.mem_map.mp (hperm.mem_iff.mp hc)
            rw [find?_of_mem hkeys hx]
            rfl
        _ = cs := List.filterMap_some
  · intro h
    obtain ⟨hys, hvalues⟩ := h
    rw [← hvalues, hself ys fun _ hx => hys.mem_iff.mp hx]

end Lookup

end Foundation.Distinct
