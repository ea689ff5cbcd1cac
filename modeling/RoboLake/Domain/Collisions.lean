import RoboLake.Domain.Manifest
import RoboLake.Foundation.Ancestors

/-! # Path collisions of a manifest

What the scan of neighbouring collision keys finds, in terms of the entries that
were supplied.
-/

namespace RoboLake

open Foundation Foundation.Ancestors

variable [Platform]

namespace Manifest

/-! ## The scan -/

omit [Platform] in
theorem collides_iff {previous current : PyStr} :
    collides previous current = true ↔ Collide slash previous current := by
  simp only [collides, Bool.or_eq_true, beq_iff_eq, List.isPrefixOf_iff_prefix]
  constructor
  · intro h
    exact h.imp_left Eq.symm
  · intro h
    exact h.imp_left Eq.symm

omit [Platform] in
theorem hasCollision_eq_false {keys : List PyStr} :
    hasCollision keys = false ↔ keys.IsChain fun p q => ¬Collide slash p q := by
  induction keys with
  | nil => simp [hasCollision]
  | cons p rest ih =>
      cases rest with
      | nil => simp [hasCollision]
      | cons q rest =>
          rw [hasCollision, Bool.or_eq_false_iff, List.isChain_cons_cons, ih, ← collides_iff,
            Bool.not_eq_true]

def keys (supplied : List ManifestEntry) : List PyStr :=
  supplied.map fun e => collisionKey e.relativePath

theorem collisionKeys_perm (supplied : List ManifestEntry) :
    (collisionKeys (supplied.insertionSort pathLe)).Perm (keys supplied) :=
  (List.perm_insertionSort _ _).trans ((List.perm_insertionSort pathLe supplied).map _)

theorem collisionKeys_sorted (ordered : List ManifestEntry) :
    (collisionKeys ordered).Pairwise (· ≤ ·) :=
  List.pairwise_insertionSort (fun p q : PyStr => p ≤ q)
    (ordered.map fun e : ManifestEntry => collisionKey e.relativePath)

/-- The scan passes when keys are distinct and every ancestor is continued below the slash. -/
theorem hasCollision_collisionKeys (supplied : List ManifestEntry) :
    hasCollision (collisionKeys (supplied.insertionSort pathLe)) = false ↔
      (keys supplied).Nodup ∧ ∀ p ∈ keys supplied, ∀ q ∈ keys supplied, IsAncestor slash p q →
        HasBelow slash (keys supplied) p := by
  have hperm := collisionKeys_perm supplied
  have hbelow : ∀ p, HasBelow slash (collisionKeys (supplied.insertionSort pathLe)) p ↔
      HasBelow slash (keys supplied) p := by
    intro p
    constructor
    · intro h
      exact h.of_subset fun r hr _ => hperm.mem_iff.mp hr
    · intro h
      exact h.of_subset fun r hr _ => hperm.mem_iff.mpr hr
  rw [hasCollision_eq_false, isChain_iff (collisionKeys_sorted _), hperm.nodup_iff]
  simp only [hperm.mem_iff, hbelow]

/-! ## Colliding entries -/

/-- Two different entries share a key, or the key of one is an ancestor of the other's. -/
def HasCollidingPair (supplied : List ManifestEntry) : Prop :=
  ∃ i j : Nat, i ≠ j ∧ ∃ p q, (keys supplied)[i]? = some p ∧ (keys supplied)[j]? = some q ∧
    Collide slash p q

/-- The keys are distinct and some is an ancestor of another, but each such ancestor is continued
by an entry below the slash. -/
def IsShadowed (supplied : List ManifestEntry) : Prop :=
  (keys supplied).Nodup ∧
    (∃ p ∈ keys supplied, ∃ q ∈ keys supplied, IsAncestor slash p q) ∧
    ∀ p ∈ keys supplied, ∀ q ∈ keys supplied, IsAncestor slash p q →
      HasBelow slash (keys supplied) p

theorem hasCollidingPair_iff {supplied : List ManifestEntry} :
    HasCollidingPair supplied ↔ ¬(keys supplied).Nodup ∨
      ∃ p ∈ keys supplied, ∃ q ∈ keys supplied, IsAncestor slash p q := by
  constructor
  · intro h
    obtain ⟨i, j, hij, p, q, hp, hq, hcollide⟩ := h
    rcases hcollide with rfl | hancestor
    · refine .inl fun hnodup => hij ?_
      have hi : i < (keys supplied).length := (List.getElem?_eq_some_iff.mp hp).1
      exact (List.getElem?_inj hi hnodup).mp (hp.trans hq.symm)
    · exact .inr ⟨p, List.mem_of_getElem? hp, q, List.mem_of_getElem? hq, hancestor⟩
  · intro h
    rcases h with hdup | ⟨p, hp, q, hq, hancestor⟩
    · obtain ⟨i, j, hij, hi, hj, heq⟩ : ∃ i j, i < j ∧ ∃ (hi : i < (keys supplied).length)
          (hj : j < (keys supplied).length), (keys supplied)[i] = (keys supplied)[j] := by
        by_contra hnone
        refine hdup (List.pairwise_iff_getElem.mpr fun i j hi hj hij heq => hnone ?_)
        exact ⟨i, j, hij, hi, hj, heq⟩
      exact ⟨i, j, Nat.ne_of_lt hij, _, _, List.getElem?_eq_getElem hi,
        List.getElem?_eq_getElem hj, .inl heq⟩
    · obtain ⟨i, hi⟩ := List.mem_iff_getElem?.mp hp
      obtain ⟨j, hj⟩ := List.mem_iff_getElem?.mp hq
      refine ⟨i, j, fun hij => ?_, p, q, hi, hj, .inr hancestor⟩
      have hpq : p < q := hancestor.lt
      rw [hij, hj] at hi
      cases hi
      exact lt_irrefl _ hpq

/-! ## Raising -/

def ConsistentSizes (supplied : List ManifestEntry) : Prop :=
  ∀ e ∈ supplied, ∀ e' ∈ supplied, e.sha256 = e'.sha256 → e.sizeBytes = e'.sizeBytes

theorem hasConflictingSizes_eq_false {ordered : List ManifestEntry} :
    hasConflictingSizes ordered = false ↔ ConsistentSizes ordered := by
  have hfirst : ∀ e ∈ ordered, ∃ first ∈ ordered,
      (ordered.find? fun x => x.sha256 = e.sha256) = some first ∧ first.sha256 = e.sha256 := by
    intro e he
    have hfound : (ordered.find? fun x => x.sha256 = e.sha256).isSome = true :=
      List.find?_isSome.mpr ⟨e, he, by simp⟩
    obtain ⟨first, hfind⟩ := Option.isSome_iff_exists.mp hfound
    exact ⟨first, List.mem_of_find?_eq_some hfind, hfind, by simpa using List.find?_some hfind⟩
  unfold hasConflictingSizes
  rw [List.any_eq_false]
  constructor
  · intro h e he e' he' hsha
    obtain ⟨first, _, hfind, _⟩ := hfirst e he
    have hsize := h e he
    have hsize' := h e' he'
    rw [← hsha, hfind] at hsize'
    rw [hfind] at hsize
    have heq : first.sizeBytes = e.sizeBytes := by simpa using hsize
    have heq' : first.sizeBytes = e'.sizeBytes := by simpa using hsize'
    exact heq.symm.trans heq'
  · intro h e he
    obtain ⟨first, hmem, hfind, hsha⟩ := hfirst e he
    rw [hfind]
    simpa using h first hmem e he hsha

theorem ConsistentSizes.digestSize_eq {es : List ManifestEntry} {e : ManifestEntry}
    (h : ConsistentSizes es) (he : e ∈ es) : digestSize es e.sha256 = e.sizeBytes := by
  have hfound : (es.reverse.find? fun x => x.sha256 = e.sha256).isSome = true :=
    List.find?_isSome.mpr ⟨e, List.mem_reverse.mpr he, decide_eq_true rfl⟩
  obtain ⟨last, hlast⟩ := Option.isSome_iff_exists.mp hfound
  have hsha : last.sha256 = e.sha256 := by simpa using List.find?_some hlast
  have hmem : last ∈ es := List.mem_reverse.mp (List.mem_of_find?_eq_some hlast)
  unfold digestSize
  rw [hlast]
  exact h last hmem e he hsha

/-- The deduplicated content is not larger than the reconstructed files. -/
theorem uniqueBlobBytes_le {m : Manifest} (h : ConsistentSizes m.entries) :
    m.uniqueBlobBytes ≤ m.logicalBytes := by
  have hsizes : m.entries.map ManifestEntry.sizeBytes =
      (m.entries.map ManifestEntry.sha256).map (digestSize m.entries) := by
    rw [List.map_map]
    exact List.map_congr_left fun e he => (h.digestSize_eq he).symm
  have hsub := (List.dedup_sublist (m.entries.map ManifestEntry.sha256)).map (digestSize m.entries)
  unfold uniqueBlobBytes logicalBytes digests
  rw [hsizes]
  exact hsub.sum_le_sum fun _ _ => Nat.zero_le _

theorem ConsistentSizes.perm {supplied supplied' : List ManifestEntry}
    (h : ConsistentSizes supplied) (hperm : supplied.Perm supplied') :
    ConsistentSizes supplied' :=
  fun e he e' he' => h e (hperm.mem_iff.mpr he) e' (hperm.mem_iff.mpr he')

def RaisesCollision (supplied : List ManifestEntry) : Prop :=
  ∃ message, build supplied = .error (.domain (.pathCollision message))

theorem raisesCollision_iff {supplied : List ManifestEntry}
    (hcount : supplied.length ≤ maxManifestEntries) (hsizes : ConsistentSizes supplied) :
    RaisesCollision supplied ↔
      hasCollision (collisionKeys (supplied.insertionSort pathLe)) = true := by
  have hordered : hasConflictingSizes (supplied.insertionSort pathLe) = false :=
    hasConflictingSizes_eq_false.mpr (hsizes.perm (List.perm_insertionSort pathLe supplied).symm)
  unfold RaisesCollision build
  rw [if_neg (Nat.not_lt.mpr hcount)]
  simp only [hordered, Bool.false_eq_true, if_false]
  cases hasCollision (collisionKeys (supplied.insertionSort pathLe)) with
  | true => simp
  | false =>
      simp only [Bool.false_eq_true, if_false, iff_false]
      intro h
      obtain ⟨message, hmessage⟩ := h
      split at hmessage
      · cases hmessage
      · cases hmessage

end Manifest

end RoboLake
