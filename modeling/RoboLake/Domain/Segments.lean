import RoboLake.Domain.Canonical

/-! # Keys of path segments

A path is its segments, and a file system compares segments. Folding and normalizing a
path folds and normalizes each of them, so the key of a path is the keys of its names.
-/

namespace RoboLake

open Foundation Foundation.Ancestors

/-! ## Segments of text -/

theorem segments_ne_nil (s : PyStr) : segments s ≠ [] := List.splitOn_ne_nil _ _

theorem segments_injective {s t : PyStr} (h : segments s = segments t) : s = t := by
  have hjoined := congrArg [slash].intercalate h
  rwa [segments, segments, List.intercalate_splitOn, List.intercalate_splitOn] at hjoined

theorem segments_append_slash (s t : PyStr) :
    segments (s ++ slash :: t) = segments s ++ segments t :=
  List.splitOn_append_cons_self s t

theorem slash_notMem_segments {s : PyStr} : ∀ x ∈ segments s, slash ∉ x := by
  unfold segments
  induction s with
  | nil => simp
  | cons c s ih =>
      rw [List.splitOn_cons_eq_if_modifyHead]
      split
      · intro x hx
        rcases List.mem_cons.mp hx with rfl | hx
        · exact List.not_mem_nil
        · exact ih x hx
      · rename_i hc
        have hne : slash ≠ c := by
          intro heq
          rw [heq] at hc
          exact hc (beq_self_eq_true c)
        cases hsplit : List.splitOn slash s with
        | nil => exact absurd hsplit (List.splitOn_ne_nil _ _)
        | cons y ys =>
            rw [hsplit] at ih
            intro x hx
            rcases List.mem_cons.mp hx with rfl | hx
            · intro hmem
              rcases List.mem_cons.mp hmem with heq | hmem
              · exact hne heq
              · exact ih y List.mem_cons_self hmem
            · exact ih x (List.mem_cons_of_mem y hx)

theorem segments_intercalate {s : PyStr} {xs : List PyStr} (hne : xs ≠ [])
    (h : ∀ x ∈ xs, x ∈ segments s) : segments ([slash].intercalate xs) = xs :=
  List.splitOn_intercalate slash (fun x hx => slash_notMem_segments x (h x hx)) hne

/-- The ancestors of a text are the texts whose segments properly begin its segments. -/
theorem isAncestor_iff_segments {p q : PyStr} :
    IsAncestor slash p q ↔ segments p ≠ segments q ∧ segments p <+: segments q := by
  constructor
  · intro h
    obtain ⟨t, rfl⟩ := h
    rw [List.append_assoc, List.singleton_append, segments_append_slash]
    refine ⟨?_, List.prefix_append _ _⟩
    intro heq
    exact segments_ne_nil t (by simpa using heq)
  · intro h
    obtain ⟨hne, rest, hrest⟩ := h
    have hmore : rest ≠ [] := by
      intro hempty
      rw [hempty, List.append_nil] at hrest
      exact hne hrest
    have hjoin : segments ([slash].intercalate rest) = rest := by
      apply segments_intercalate hmore
      intro x hx
      rw [← hrest]
      exact List.mem_append_right _ hx
    have hq : p ++ slash :: [slash].intercalate rest = q := by
      apply segments_injective
      rw [segments_append_slash, hjoin, hrest]
    refine ⟨[slash].intercalate rest, ?_⟩
    rw [← hq, List.append_assoc, List.singleton_append]

/-! ## Keys -/

variable [Platform]

def segmentKey (name : PyStr) : PyStr := nfc (casefold name)

/-- Neither folding nor normalization makes or removes a slash, and both act on each segment. -/
def FoldsSegments : Prop :=
  ∀ s : PyStr, segments (nfc (casefold s)) = (segments s).map segmentKey

theorem key_eq_iff (hfolds : FoldsSegments) {s t : PyStr} :
    nfc (casefold s) = nfc (casefold t) ↔
      (segments s).map segmentKey = (segments t).map segmentKey := by
  rw [← hfolds s, ← hfolds t]
  exact ⟨fun h => by rw [h], segments_injective⟩

namespace Manifest

theorem keys_nodup_of_build {supplied : List ManifestEntry} {m : Manifest}
    (h : build supplied = .ok m) : (keys m.entries).Nodup := by
  have hbuild := build_entries h
  unfold build at hbuild
  dsimp only at hbuild
  split at hbuild
  · cases hbuild
  · split at hbuild
    · cases hbuild
    · split at hbuild
      · cases hbuild
      · rename_i hscan
        exact ((hasCollision_collisionKeys m.entries).mp (Bool.eq_false_iff.mpr hscan)).1

end Manifest

end RoboLake
