import RoboLake.Foundation.Relation

/-! # Rows that expire

A row lives until a time written in it. The number of live rows only falls while
the clock runs; a new row raises it by one, and a row written over a live one does
not raise it at all.
-/

namespace Foundation

namespace Relation

variable {ρ κ : Type} [Keyed ρ κ] (e : ρ → Nat)

/-- The number of rows that expire after a time. -/
def live (t : Relation ρ) (now : Nat) : Nat := t.rows.countP fun r => e r > now

theorem live_mono {t : Relation ρ} {now now' : Nat} (h : now ≤ now') :
    t.live e now' ≤ t.live e now := by
  apply List.countP_mono_left
  intro r _ hr
  have hlive : now' < e r := of_decide_eq_true hr
  exact decide_eq_true (by omega)

variable [DecidableEq κ]

theorem live_insert_le {t : Relation ρ} {r : ρ} (h : t.get? (key r) = none) (now : Nat) :
    (t.insert r).live e now ≤ t.live e now + 1 := by
  have hone : [r].countP (fun x => e x > now) ≤ 1 := List.countP_le_length
  rw [live, live, rows_insert h, List.countP_append]
  omega

theorem countP_key_le (t : Relation ρ) (k : κ) : t.rows.countP (fun x => key x = k) ≤ 1 := by
  have hcount : (t.rows.map key).count k ≤ 1 := List.nodup_iff_count_le_one.mp t.keys_nodup k
  rw [List.count, List.countP_map] at hcount
  have hsame : ((fun x => x == k) ∘ key : ρ → Bool) = fun x => decide (key x = k) := by
    funext x
    exact beq_eq_decide (key x) k
  rwa [hsame] at hcount

theorem live_replace_le {t : Relation ρ} {r : ρ} (now : Nat) :
    (t.replace r).live e now ≤ t.live e now + 1 := by
  have hrows : (t.replace r).live e now ≤
      t.rows.countP (fun x => decide (key x = key r) || decide (e x > now)) := by
    rw [live, replace, List.countP_map]
    apply List.countP_mono_left
    intro x _ hx
    by_cases hk : key x = key r
    · simp [hk]
    · simpa [hk] using hx
  have hsplit : t.rows.countP (fun x => decide (key x = key r) || decide (e x > now)) ≤
      t.rows.countP (fun x => decide (key x = key r)) + t.live e now := by
    rw [live]
    generalize t.rows = rows
    induction rows with
    | nil => simp
    | cons x rows ih =>
        simp only [List.countP_cons, Bool.or_eq_true, decide_eq_true_eq]
        by_cases hk : key x = key r
        · rw [if_pos (Or.inl hk), if_pos hk]
          omega
        · by_cases hx : e x > now
          · rw [if_pos (Or.inr hx), if_neg hk, if_pos hx]
            omega
          · rw [if_neg (not_or.mpr ⟨hk, hx⟩), if_neg hk, if_neg hx]
            omega
  have hkey := countP_key_le t (key r)
  omega

/-- A write that leaves its row live only if the stored row was live counts no new row. -/
theorem live_replace_of_live {t : Relation ρ} {r old : ρ} {now now' : Nat}
    (hold : t.get? (key r) = some old) (hle : now ≤ now') (h : now' < e r → now < e old) :
    (t.replace r).live e now' ≤ t.live e now := by
  rw [live, live, replace, List.countP_map]
  apply List.countP_mono_left
  intro x hx hlive
  by_cases hk : key x = key r
  · have hxold : x = old := eq_of_key_eq hx (mem_of_get? hold) (hk.trans (key_of_get? hold).symm)
    have hr : now' < e r := by simpa [hk] using hlive
    rw [hxold]
    exact decide_eq_true (h hr)
  · have hr : now' < e x := by simpa [hk] using hlive
    exact decide_eq_true (by omega)

end Relation

end Foundation
