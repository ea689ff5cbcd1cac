import Mathlib

/-! # Finite relations with a primary key

A relation is a list of rows whose keys are pairwise distinct, so a key selects
at most one row. Rows are only ever appended under a fresh key or replaced under
their own key; both operations keep the key invariant, and every lookup fact
below is stated through `get?`, never through list positions.
-/

namespace Foundation

class Keyed (ρ : Type) (κ : outParam Type) where
  key : ρ → κ

export Keyed (key)

/-- A table: its rows, no two of which share a key. -/
@[ext]
structure Relation (ρ : Type) {κ : Type} [Keyed ρ κ] where
  rows : List ρ
  keys_nodup : (rows.map key).Nodup

namespace Relation

variable {ρ κ : Type} [Keyed ρ κ]

def empty : Relation ρ := ⟨[], List.nodup_nil⟩

instance [DecidableEq ρ] : DecidableEq (Relation ρ) := fun t t' =>
  decidable_of_iff (t.rows = t'.rows) ⟨Relation.ext, fun h => by rw [h]⟩

theorem eq_of_key_eq {t : Relation ρ} {r r' : ρ} (h : r ∈ t.rows) (h' : r' ∈ t.rows)
    (hk : key r = key r') : r = r' :=
  List.inj_on_of_nodup_map t.keys_nodup h h' hk

variable [DecidableEq κ]

def get? (t : Relation ρ) (k : κ) : Option ρ := t.rows.find? (fun r => key r = k)

theorem map_key_replace (rows : List ρ) (r : ρ) :
    (rows.map (fun x => if key x = key r then r else x)).map key = rows.map key := by
  rw [List.map_map]
  apply List.map_congr_left
  intro x _
  by_cases h : key x = key r <;> simp [h]

/-- Overwrite the row that has the key of `r`; a table without that key is unchanged. -/
def replace (t : Relation ρ) (r : ρ) : Relation ρ where
  rows := t.rows.map (fun x => if key x = key r then r else x)
  keys_nodup := by rw [map_key_replace]; exact t.keys_nodup

/-- Append a row under a fresh key; a table that has the key is unchanged. -/
def insert (t : Relation ρ) (r : ρ) : Relation ρ :=
  if h : key r ∈ t.rows.map key then t
  else
    { rows := t.rows ++ [r]
      keys_nodup := by
        rw [List.map_append, List.nodup_append]
        refine ⟨t.keys_nodup, by simp, ?_⟩
        intro k hk k' hk' heq
        simp only [List.map_cons, List.map_nil, List.mem_singleton] at hk'
        exact h (hk' ▸ heq ▸ hk) }

/-! ## Lookups and membership -/

theorem key_of_get? {t : Relation ρ} {k : κ} {r : ρ} (h : t.get? k = some r) : key r = k := by
  have hp := List.find?_some h
  simpa using hp

theorem mem_of_get? {t : Relation ρ} {k : κ} {r : ρ} (h : t.get? k = some r) : r ∈ t.rows :=
  List.mem_of_find?_eq_some h

theorem get?_of_mem {t : Relation ρ} {r : ρ} (h : r ∈ t.rows) : t.get? (key r) = some r := by
  obtain ⟨x, hx⟩ : ∃ x, t.get? (key r) = some x := by
    apply Option.isSome_iff_exists.mp
    rw [get?, List.find?_isSome]
    exact ⟨r, h, by simp⟩
  rw [hx, eq_of_key_eq (mem_of_get? hx) h (key_of_get? hx)]

theorem get?_key {t : Relation ρ} {k : κ} {r : ρ} (h : t.get? k = some r) :
    t.get? (key r) = some r := get?_of_mem (mem_of_get? h)

theorem mem_iff_get? {t : Relation ρ} {r : ρ} : r ∈ t.rows ↔ t.get? (key r) = some r :=
  ⟨get?_of_mem, mem_of_get?⟩

theorem get?_eq_none_iff {t : Relation ρ} {k : κ} : t.get? k = none ↔ k ∉ t.rows.map key := by
  simp [get?, List.find?_eq_none]

/-! ## Replacement -/

theorem get?_replace (t : Relation ρ) (r : ρ) (k : κ) :
    (t.replace r).get? k = if k = key r then (t.get? k).map (fun _ => r) else t.get? k := by
  simp only [get?, replace, List.find?_map]
  by_cases hk : k = key r
  · subst hk
    have hf : ((fun x => decide (key x = key r)) ∘ fun x => if key x = key r then r else x) =
        fun x => decide (key x = key r) := by
      funext x
      by_cases hx : key x = key r <;> simp [hx]
    rw [hf, if_pos rfl]
    cases hr : t.rows.find? (fun x => decide (key x = key r)) with
    | none => rfl
    | some x =>
        have hx := List.find?_some hr
        simp only [decide_eq_true_eq] at hx
        simp [hx]
  · have hf : ((fun x => decide (key x = k)) ∘ fun x => if key x = key r then r else x) =
        fun x => decide (key x = k) := by
      funext x
      by_cases hx : key x = key r
      · simp [hx]
      · simp [hx]
    rw [hf, if_neg hk]
    cases hr : t.rows.find? (fun x => decide (key x = k)) with
    | none => rfl
    | some x =>
        have hx := List.find?_some hr
        simp only [decide_eq_true_eq] at hx
        have hne : key x ≠ key r := fun h => hk (hx.symm.trans h)
        simp [hne]

theorem get?_replace_self {t : Relation ρ} {r old : ρ} (h : t.get? (key r) = some old) :
    (t.replace r).get? (key r) = some r := by
  rw [get?_replace, if_pos rfl, h, Option.map_some]

theorem get?_replace_ne {t : Relation ρ} {r : ρ} {k : κ} (h : k ≠ key r) :
    (t.replace r).get? k = t.get? k := by
  rw [get?_replace, if_neg h]

theorem replace_of_get? {t : Relation ρ} {r : ρ} (h : t.get? (key r) = some r) :
    t.replace r = t := by
  apply Relation.ext
  have hid : t.rows.map (fun x => if key x = key r then r else x) = t.rows.map id := by
    apply List.map_congr_left
    intro x hx
    by_cases hk : key x = key r
    · simp [eq_of_key_eq hx (mem_of_get? h) hk]
    · simp [hk]
  exact hid.trans (List.map_id _)

theorem replace_replace (t : Relation ρ) {r r' : ρ} (h : key r = key r') :
    (t.replace r).replace r' = t.replace r' := by
  apply Relation.ext
  simp only [replace, List.map_map]
  apply List.map_congr_left
  intro x _
  by_cases hx : key x = key r'
  · simp [h, hx]
  · simp [h, hx]

theorem mem_replace {t : Relation ρ} {r x : ρ} (h : x ∈ (t.replace r).rows) :
    x = r ∨ (x ∈ t.rows ∧ key x ≠ key r) := by
  simp only [replace, List.mem_map] at h
  obtain ⟨y, hy, rfl⟩ := h
  by_cases hk : key y = key r
  · left; simp [hk]
  · right; simp [hk, hy]

theorem mem_replace_self {t : Relation ρ} {r old : ρ} (h : t.get? (key r) = some old) :
    r ∈ (t.replace r).rows := mem_of_get? (get?_replace_self h)

theorem mem_replace_of_ne {t : Relation ρ} {r x : ρ} (hx : x ∈ t.rows) (h : key x ≠ key r) :
    x ∈ (t.replace r).rows := by
  rw [mem_iff_get?, get?_replace_ne h]
  exact get?_of_mem hx

/-! ## Insertion -/

theorem rows_insert {t : Relation ρ} {r : ρ} (h : t.get? (key r) = none) :
    (t.insert r).rows = t.rows ++ [r] := by
  rw [insert, dif_neg (get?_eq_none_iff.mp h)]

theorem mem_insert {t : Relation ρ} {r x : ρ} (h : t.get? (key r) = none) :
    x ∈ (t.insert r).rows ↔ x ∈ t.rows ∨ x = r := by
  rw [rows_insert h]
  simp

theorem mem_of_mem_insert {t : Relation ρ} {r x : ρ} (h : x ∈ (t.insert r).rows) :
    x ∈ t.rows ∨ x = r := by
  unfold insert at h
  split at h
  · exact Or.inl h
  · simpa using h

theorem mem_insert_self {t : Relation ρ} {r : ρ} (h : t.get? (key r) = none) :
    r ∈ (t.insert r).rows := (mem_insert h).mpr (Or.inr rfl)

theorem mem_insert_of_mem {t : Relation ρ} {r x : ρ} (h : t.get? (key r) = none)
    (hx : x ∈ t.rows) : x ∈ (t.insert r).rows := (mem_insert h).mpr (Or.inl hx)

theorem key_ne_of_free {t : Relation ρ} {r y : ρ} (h : t.get? (key r) = none) (hy : y ∈ t.rows) :
    key y ≠ key r := by
  intro he
  rw [← he, get?_of_mem hy] at h
  cases h

theorem get?_insert {t : Relation ρ} {r : ρ} (h : t.get? (key r) = none) (k : κ) :
    (t.insert r).get? k = if k = key r then some r else t.get? k := by
  by_cases hk : k = key r
  · subst hk
    rw [if_pos rfl]
    exact get?_of_mem ((mem_insert h).mpr (Or.inr rfl))
  · rw [if_neg hk]
    simp only [get?, rows_insert h, List.find?_append]
    simp [Ne.symm hk]

theorem get?_insert_self {t : Relation ρ} {r : ρ} (h : t.get? (key r) = none) :
    (t.insert r).get? (key r) = some r := by
  rw [get?_insert h, if_pos rfl]

theorem get?_insert_ne {t : Relation ρ} {r : ρ} {k : κ} (h : t.get? (key r) = none)
    (hk : k ≠ key r) : (t.insert r).get? k = t.get? k := by
  rw [get?_insert h, if_neg hk]

theorem replace_insert {t : Relation ρ} {r r' : ρ} (h : t.get? (key r) = none)
    (hk : key r = key r') : (t.insert r).replace r' = t.insert r' := by
  have h' : t.get? (key r') = none := hk ▸ h
  apply Relation.ext
  simp only [replace]
  rw [rows_insert h', rows_insert h, List.map_append]
  congr 1
  · have hid : t.rows.map (fun x => if key x = key r' then r' else x) = t.rows.map id := by
      apply List.map_congr_left
      intro x hx
      rw [if_neg (key_ne_of_free h' hx), id]
    exact hid.trans (List.map_id _)
  · simp [hk]

theorem get?_insert_of_some {t : Relation ρ} {r x : ρ} {k : κ} (h : t.get? (key r) = none)
    (hx : t.get? k = some x) : (t.insert r).get? k = some x := by
  rw [get?_insert h, if_neg, hx]
  rintro rfl
  rw [h] at hx
  cases hx

/-! ## Alternate keys -/

/-- A partial column set is an alternate key: no two rows share a present value. -/
def Unique {γ : Type} (t : Relation ρ) (f : ρ → Option γ) : Prop :=
  ∀ x ∈ t.rows, ∀ y ∈ t.rows, ∀ c, f x = some c → f y = some c → x = y

omit [DecidableEq κ] in
theorem unique_empty {γ : Type} {f : ρ → Option γ} : (empty : Relation ρ).Unique f :=
  fun _ hx => by cases hx

theorem Unique.insert {γ : Type} {t : Relation ρ} {f : ρ → Option γ} {r : ρ} (h : t.Unique f)
    (hfree : t.get? (key r) = none) (hr : ∀ y ∈ t.rows, ∀ c, f r = some c → f y ≠ some c) :
    (t.insert r).Unique f := by
  intro x hx y hy c hxc hyc
  rcases (mem_insert hfree).mp hx with hxt | rfl
  · rcases (mem_insert hfree).mp hy with hyt | rfl
    · exact h x hxt y hyt c hxc hyc
    · exact absurd hxc (hr x hxt c hyc)
  · rcases (mem_insert hfree).mp hy with hyt | rfl
    · exact absurd hyc (hr y hyt c hxc)
    · rfl

theorem Unique.replace {γ : Type} {t : Relation ρ} {f : ρ → Option γ} {r : ρ} (h : t.Unique f)
    (hr : ∀ y ∈ t.rows, key y ≠ key r → ∀ c, f r = some c → f y ≠ some c) :
    (t.replace r).Unique f := by
  intro x hx y hy c hxc hyc
  rcases mem_replace hx with rfl | ⟨hxt, hxr⟩
  · rcases mem_replace hy with rfl | ⟨hyt, hyr⟩
    · rfl
    · exact absurd hyc (hr y hyt hyr c hxc)
  · rcases mem_replace hy with rfl | ⟨hyt, hyr⟩
    · exact absurd hxc (hr x hxt hxr c hyc)
    · exact h x hxt y hyt c hxc hyc

/-! ## References -/

/-- A column refers to stored rows of another table. -/
def Refers {τ ν : Type} [Keyed τ ν] [DecidableEq ν] (t : Relation ρ) (f : ρ → ν)
    (target : Relation τ) : Prop :=
  ∀ x ∈ t.rows, (target.get? (f x)).isSome = true

section References

variable {τ ν : Type} [Keyed τ ν] [DecidableEq ν] {t : Relation ρ} {f : ρ → ν}
  {target target' : Relation τ} {r : ρ}

omit [DecidableEq κ] in
theorem refers_empty : (empty : Relation ρ).Refers f target := fun _ hx => by cases hx

theorem Refers.insert (h : t.Refers f target) (hfree : t.get? (key r) = none)
    (hr : (target.get? (f r)).isSome = true) : (t.insert r).Refers f target := by
  intro x hx
  rcases (mem_insert hfree).mp hx with hold | rfl
  · exact h x hold
  · exact hr

theorem Refers.replace (h : t.Refers f target) (hr : (target.get? (f r)).isSome = true) :
    (t.replace r).Refers f target := by
  intro x hx
  rcases mem_replace hx with rfl | ⟨hold, _⟩
  · exact hr
  · exact h x hold

omit [DecidableEq κ] in
theorem Refers.insertTarget {y : τ} (h : t.Refers f target) (hfree : target.get? (key y) = none) :
    t.Refers f (target.insert y) := by
  intro x hx
  obtain ⟨z, hz⟩ := Option.isSome_iff_exists.mp (h x hx)
  rw [get?_insert_of_some hfree hz]
  rfl

omit [DecidableEq κ] in
theorem Refers.replaceTarget {y : τ} (h : t.Refers f target) : t.Refers f (target.replace y) := by
  intro x hx
  obtain ⟨z, hz⟩ := Option.isSome_iff_exists.mp (h x hx)
  rw [get?_replace]
  split
  · rw [hz]
    rfl
  · rw [hz]
    rfl

omit [DecidableEq κ] in
theorem Refers.get (h : t.Refers f target) {x : ρ} (hx : x ∈ t.rows) :
    ∃ y, target.get? (f x) = some y :=
  Option.isSome_iff_exists.mp (h x hx)

end References

/-! ## Later tables -/

/-- Every stored row is still stored, moved along a relation. -/
def Later (R : ρ → ρ → Prop) (t t' : Relation ρ) : Prop :=
  ∀ k x, t.get? k = some x → ∃ x', t'.get? k = some x' ∧ R x x'

theorem Later.refl {R : ρ → ρ → Prop} (hR : ∀ x, R x x) (t : Relation ρ) : Later R t t :=
  fun _ x hx => ⟨x, hx, hR x⟩

theorem Later.trans {R : ρ → ρ → Prop} (hR : ∀ x y z, R x y → R y z → R x z)
    {t₁ t₂ t₃ : Relation ρ} (h : Later R t₁ t₂) (h' : Later R t₂ t₃) : Later R t₁ t₃ := by
  intro k x hx
  obtain ⟨y, hy, hxy⟩ := h k x hx
  obtain ⟨z, hz, hyz⟩ := h' k y hy
  exact ⟨z, hz, hR x y z hxy hyz⟩

theorem Later.insert {R : ρ → ρ → Prop} (hR : ∀ x, R x x) {t : Relation ρ} {r : ρ}
    (hfree : t.get? (key r) = none) : Later R t (t.insert r) :=
  fun _ x hx => ⟨x, get?_insert_of_some hfree hx, hR x⟩

theorem Later.replace {R : ρ → ρ → Prop} (hR : ∀ x, R x x) {t : Relation ρ} {r old : ρ}
    (hold : t.get? (key r) = some old) (hr : R old r) : Later R t (t.replace r) := by
  intro k x hx
  by_cases hk : k = key r
  · subst hk
    cases hold.symm.trans hx
    exact ⟨r, get?_replace_self hold, hr⟩
  · exact ⟨x, by rw [get?_replace_ne hk, hx], hR x⟩

/-- Rows that kept their keys keep every column that the relation preserves. -/
theorem Later.map_eq {γ : Type} {R : ρ → ρ → Prop} {t t' : Relation ρ} {f : ρ → γ}
    (h : Later R t t') (hkeys : t'.rows.map key = t.rows.map key)
    (hf : ∀ x x', R x x' → f x' = f x) : t'.rows.map f = t.rows.map f := by
  have hlength : t'.rows.length = t.rows.length := by
    simpa using congrArg List.length hkeys
  refine List.ext_getElem (by simpa using hlength) fun i hi' hi => ?_
  simp only [List.length_map] at hi hi'
  obtain ⟨x', hx', hR⟩ := h _ _ (get?_of_mem (List.getElem_mem hi))
  have hkey : key t'.rows[i] = key t.rows[i] := by
    have := congrArg (fun ks => ks[i]?) hkeys
    simpa [hi, hi'] using this
  have hsame : t'.rows[i] = x' :=
    eq_of_key_eq (List.getElem_mem hi') (mem_of_get? hx') (hkey.trans (key_of_get? hx').symm)
  rw [List.getElem_map, List.getElem_map, hsame, hf _ _ hR]

/-! ## Mapped tables -/

/-- Every row went through a function that keeps its key. -/
def Mapped (h : ρ → ρ) (t t' : Relation ρ) : Prop := ∀ k, t'.get? k = (t.get? k).map h

theorem Mapped.refl (t : Relation ρ) : Mapped id t t := by
  intro k
  rw [Option.map_id, id]

theorem Mapped.replace [DecidableEq ρ] {h : ρ → ρ} {t t' : Relation ρ} {p q : ρ}
    (hmap : Mapped h t t') (hp : p ∈ t.rows) (hq : key q = key p) :
    Mapped (Function.update h p q) t (t'.replace q) := by
  intro k
  rw [get?_replace, hmap k]
  cases hx : t.get? k with
  | none => simp
  | some x =>
      by_cases hk : k = key q
      · have hxp : x = p := eq_of_key_eq (mem_of_get? hx) hp
          ((key_of_get? hx).trans (hk.trans hq))
        simp [hk, hxp]
      · have hxp : x ≠ p := fun h => hk (by rw [← key_of_get? hx, h, hq])
        simp [hk, Function.update_of_ne hxp]

theorem Mapped.get {h : ρ → ρ} {t t' : Relation ρ} (hmap : Mapped h t t') {k : κ} {x : ρ}
    (hx : t.get? k = some x) : t'.get? k = some (h x) := by
  rw [hmap k, hx, Option.map_some]

theorem Mapped.mem {h : ρ → ρ} {t t' : Relation ρ} (hmap : Mapped h t t') {x' : ρ}
    (hx : x' ∈ t'.rows) : ∃ x ∈ t.rows, h x = x' ∧ key x = key x' := by
  have hget := hmap (key x')
  rw [get?_of_mem hx] at hget
  obtain ⟨x, hx, hh⟩ := Option.map_eq_some_iff.mp hget.symm
  exact ⟨x, mem_of_get? hx, hh, key_of_get? hx⟩

theorem Mapped.congr {h h' : ρ → ρ} {t t' : Relation ρ} (hmap : Mapped h t t')
    (heq : ∀ x ∈ t.rows, h x = h' x) : Mapped h' t t' := by
  intro k
  rw [hmap k]
  cases hx : t.get? k with
  | none => rfl
  | some x => simp [heq x (mem_of_get? hx)]

/-! ## Row conditions -/

theorem forall_insert {t : Relation ρ} {r : ρ} {p : ρ → Prop} (h : ∀ x ∈ t.rows, p x)
    (hfree : t.get? (key r) = none) (hr : p r) : ∀ x ∈ (t.insert r).rows, p x := by
  intro x hx
  rcases (mem_insert hfree).mp hx with hold | rfl
  · exact h x hold
  · exact hr

theorem forall_replace {t : Relation ρ} {r : ρ} {p : ρ → Prop} (h : ∀ x ∈ t.rows, p x)
    (hr : p r) : ∀ x ∈ (t.replace r).rows, p x := by
  intro x hx
  rcases mem_replace hx with rfl | ⟨hold, _⟩
  · exact hr
  · exact h x hold

end Relation

end Foundation
