import Mathlib

/-! # Ancestors among sorted keys

Keys are words over a linearly ordered alphabet, and a key is an ancestor of the
keys that continue it with a separator. In a sorted list an ancestor need not stand
beside its descendants: what continues it with a symbol below the separator stands
between. Comparing neighbours therefore finds some ancestor exactly when one of the
ancestors is continued by nothing below the separator.
-/

namespace Foundation.Ancestors

variable {α : Type} [LinearOrder α] {sep : α} {p q r : List α} {keys : List (List α)}

/-! ## Words and their prefixes -/

theorem cons_le_cons {a b : α} {s t : List α} : a :: s ≤ b :: t ↔ a < b ∨ a = b ∧ s ≤ t := by
  rw [← not_lt, List.cons_lt_cons_iff, ← not_lt (b := s)]
  constructor
  · intro h
    rcases lt_trichotomy a b with hlt | rfl | hgt
    · exact .inl hlt
    · exact .inr ⟨rfl, fun hts => h (.inr ⟨rfl, hts⟩)⟩
    · exact absurd (.inl hgt) h
  · intro h hlt
    rcases h with hab | ⟨rfl, hst⟩
    · rcases hlt with hba | ⟨rfl, _⟩
      · exact lt_asymm hab hba
      · exact lt_irrefl _ hab
    · rcases hlt with hba | ⟨_, hts⟩
      · exact lt_irrefl _ hba
      · exact hst hts

/-- The second key continues the first with the separator. -/
def IsAncestor (sep : α) (p q : List α) : Prop := p ++ [sep] <+: q

instance : Decidable (IsAncestor sep p q) := inferInstanceAs (Decidable (_ <+: _))

/-- Some key continues the word with a symbol below the separator. -/
def HasBelow (sep : α) (keys : List (List α)) (p : List α) : Prop :=
  ∃ r ∈ keys, ∃ c < sep, p ++ [c] <+: r

/-- The keys are equal or the first is an ancestor of the second. -/
def Collide (sep : α) (p q : List α) : Prop := p = q ∨ IsAncestor sep p q

theorem lt_of_continues {c : α} (h : p ++ [c] <+: q) : p < q := by
  obtain ⟨t, rfl⟩ := h
  induction p with
  | nil => exact List.nil_lt_cons c t
  | cons a p ih => exact List.cons_lt_cons_iff.mpr (.inr ⟨rfl, ih⟩)

theorem IsAncestor.lt (h : IsAncestor sep p q) : p < q := lt_of_continues h

theorem lt_of_continues_lt {c d : α} (hcd : c < d) (hq : p ++ [c] <+: q) (hr : p ++ [d] <+: r) :
    q < r := by
  obtain ⟨s, rfl⟩ := hq
  obtain ⟨t, rfl⟩ := hr
  induction p with
  | nil => exact List.cons_lt_cons_iff.mpr (.inl hcd)
  | cons a p ih => exact List.cons_lt_cons_iff.mpr (.inr ⟨rfl, ih⟩)

theorem continues_of_between {d : α} (hp : p < r) (hr : r ≤ q) (hq : p ++ [d] <+: q) :
    ∃ c ≤ d, p ++ [c] <+: r := by
  obtain ⟨t, rfl⟩ := hq
  induction p generalizing r with
  | nil =>
      cases r with
      | nil => exact absurd hp (lt_irrefl _)
      | cons c r =>
          refine ⟨c, ?_, r, rfl⟩
          rcases cons_le_cons.mp hr with hlt | ⟨rfl, _⟩
          · exact hlt.le
          · exact le_refl c
  | cons a p ih =>
      cases r with
      | nil => exact absurd hp (List.not_lt_nil _)
      | cons b r =>
          have hab : a = b := by
            rcases List.cons_lt_cons_iff.mp hp with hlt | ⟨hab, _⟩
            · rcases cons_le_cons.mp hr with hgt | ⟨hba, _⟩
              · exact absurd hlt (lt_asymm hgt)
              · exact hba.symm
            · exact hab
          subst hab
          have hp' : p < r := by simpa [List.cons_lt_cons_iff] using hp
          have hr' : r ≤ p ++ [d] ++ t := by simpa [cons_le_cons] using hr
          obtain ⟨c, hc, s, rfl⟩ := ih hp' hr'
          exact ⟨c, hc, s, rfl⟩

theorem HasBelow.of_subset {keys' : List (List α)} (h : HasBelow sep keys p)
    (hsub : ∀ r ∈ keys, p < r → r ∈ keys') : HasBelow sep keys' p := by
  obtain ⟨r, hr, c, hc, hprefix⟩ := h
  exact ⟨r, hsub r hr (lt_of_continues hprefix), c, hc, hprefix⟩

/-! ## Neighbours -/

theorem below_of_isChain (hsorted : keys.Pairwise (· ≤ ·))
    (hchain : keys.IsChain fun p q => ¬Collide sep p q) :
    keys.Nodup ∧ ∀ p ∈ keys, ∀ q ∈ keys, IsAncestor sep p q → HasBelow sep keys p := by
  induction keys with
  | nil => exact ⟨List.nodup_nil, fun p hp => by cases hp⟩
  | cons a rest ih =>
      obtain ⟨ha, hrest⟩ := List.pairwise_cons.mp hsorted
      obtain ⟨hnodup, hbelow⟩ := ih hrest hchain.tail
      -- The first key is below every other one, so only its neighbour could equal it.
      have hlt : ∀ x ∈ rest, a < x := by
        intro x hx
        cases rest with
        | nil => cases hx
        | cons b rest =>
            have hab : ¬Collide sep a b := (List.isChain_cons_cons.mp hchain).1
            have hne : a < b := lt_of_le_of_ne (ha b List.mem_cons_self) fun he => hab (.inl he)
            rcases List.mem_cons.mp hx with rfl | hx
            · exact hne
            · exact lt_of_lt_of_le hne ((List.pairwise_cons.mp hrest).1 x hx)
      refine ⟨List.nodup_cons.mpr ⟨fun hmem => lt_irrefl a (hlt a hmem), hnodup⟩, ?_⟩
      intro p hp q hq hpq
      have hq' : q ∈ rest := by
        rcases List.mem_cons.mp hq with rfl | hq
        · rcases List.mem_cons.mp hp with rfl | hp
          · exact absurd hpq.lt (lt_irrefl _)
          · exact absurd hpq.lt (lt_asymm (hlt p hp))
        · exact hq
      rcases List.mem_cons.mp hp with rfl | hp
      · cases rest with
        | nil => cases hq'
        | cons b rest =>
            have hab : ¬Collide sep p b := (List.isChain_cons_cons.mp hchain).1
            have hbq : b ≤ q := by
              rcases List.mem_cons.mp hq' with rfl | hq'
              · exact le_refl _
              · exact (List.pairwise_cons.mp hrest).1 q hq'
            obtain ⟨c, hc, hprefix⟩ :=
              continues_of_between (hlt b List.mem_cons_self) hbq hpq
            have hne : c ≠ sep := fun he => hab (.inr (he ▸ hprefix))
            exact ⟨b, List.mem_cons_of_mem _ List.mem_cons_self, c, lt_of_le_of_ne hc hne, hprefix⟩
      · exact (hbelow p hp q hq' hpq).of_subset fun r hr _ => List.mem_cons_of_mem _ hr

theorem isChain_of_below (hsorted : keys.Pairwise (· ≤ ·)) (hnodup : keys.Nodup)
    (hbelow : ∀ p ∈ keys, ∀ q ∈ keys, IsAncestor sep p q → HasBelow sep keys p) :
    keys.IsChain fun p q => ¬Collide sep p q := by
  induction keys with
  | nil => exact .nil
  | cons a rest ih =>
      obtain ⟨ha, hrest⟩ := List.pairwise_cons.mp hsorted
      obtain ⟨hnotin, hnodup'⟩ := List.nodup_cons.mp hnodup
      have htail := ih hrest hnodup' fun p hp q hq hpq =>
        (hbelow p (List.mem_cons_of_mem _ hp) q (List.mem_cons_of_mem _ hq) hpq).of_subset
          fun r hr hlt => by
            rcases List.mem_cons.mp hr with rfl | hr
            · exact absurd hlt (not_lt.mpr (ha p hp))
            · exact hr
      cases rest with
      | nil => exact .singleton a
      | cons b rest =>
          refine List.isChain_cons_cons.mpr ⟨fun hcollide => ?_, htail⟩
          rcases hcollide with rfl | hancestor
          · exact hnotin List.mem_cons_self
          · obtain ⟨r, hr, c, hc, hprefix⟩ :=
              hbelow a List.mem_cons_self b (List.mem_cons_of_mem _ List.mem_cons_self) hancestor
            have har : a < r := lt_of_continues hprefix
            have hrb : r < b := lt_of_continues_lt hc hprefix hancestor
            rcases List.mem_cons.mp hr with rfl | hr
            · exact lt_irrefl _ har
            · rcases List.mem_cons.mp hr with rfl | hr
              · exact lt_irrefl _ hrb
              · exact not_lt.mpr ((List.pairwise_cons.mp hrest).1 r hr) hrb

/-- Comparing neighbours finds no collision exactly when keys are distinct and every ancestor is
continued below the separator. -/
theorem isChain_iff (hsorted : keys.Pairwise (· ≤ ·)) :
    keys.IsChain (fun p q => ¬Collide sep p q) ↔
      keys.Nodup ∧ ∀ p ∈ keys, ∀ q ∈ keys, IsAncestor sep p q → HasBelow sep keys p :=
  ⟨below_of_isChain hsorted, fun h => isChain_of_below hsorted h.1 h.2⟩

end Foundation.Ancestors
