import RoboLake.Domain.Canonical
import RoboLake.Registry.Reachable

/-! # Manifests

The canonical text of a manifest and its entries determine each other. Colliding
paths are refused unless something sorts between every file and what lies below it.
-/

namespace RoboLake

open Foundation Foundation.Ancestors Manifest

section Codec

variable [Platform]

/-- Building forgets the order of its entries, reading inverts building, an accepted text is the
canonical text of a built manifest, and one text belongs to one collection of entries. -/
theorem canonical_manifest_codec :
    (∀ supplied supplied' : List ManifestEntry, supplied.Perm supplied' →
      build supplied = build supplied') ∧
    (∀ supplied m, build supplied = .ok m → LoadsDumped m →
      fromCanonicalBytes m.canonicalBytes = .ok m) ∧
    (∀ data m, fromCanonicalBytes data = .ok m →
      m.canonicalBytes = data ∧ ∃ supplied, build supplied = .ok m) ∧
    ∀ supplied supplied' m m', build supplied = .ok m → build supplied' = .ok m' →
      LoadsDumped m → LoadsDumped m' → m.canonicalBytes = m'.canonicalBytes →
        supplied.Perm supplied' := by
  refine ⟨fun _ _ => build_perm, fun _ _ => fromCanonicalBytes_of_build,
    fun _ _ => fromCanonicalBytes_spec, ?_⟩
  intro supplied supplied' m m' h h' hloads hloads' hbytes
  have hread := fromCanonicalBytes_of_build h hloads
  have hread' := fromCanonicalBytes_of_build h' hloads'
  rw [← hbytes, hread] at hread'
  cases hread'
  have hentries := (build_spec h).1.symm.trans (build_spec h').1
  have hperm := List.perm_insertionSort pathLe supplied
  rw [hentries] at hperm
  exact hperm.symm.trans (List.perm_insertionSort pathLe supplied')

end Codec

namespace Sample

set_option maxRecDepth 100000 in
/-- The sample manifest reads back from its text. -/
theorem sample_manifest_reads_back :
    fromCanonicalBytes manifest.canonicalBytes = .ok manifest := by
  have hbuilt : build [⟨path, fileSize, fileDigest⟩] = .ok manifest := by decide
  exact canonical_manifest_codec.2.1 _ _ hbuilt rfl

end Sample

section Collisions

variable [Platform] {supplied : List ManifestEntry}

/-- Building reports exactly the collections with a colliding pair, unless every ancestor among
their keys is shadowed by a continuation below the slash. -/
theorem collisions_are_detected_iff (hcount : supplied.length ≤ maxManifestEntries)
    (hsizes : ConsistentSizes supplied) :
    (RaisesCollision supplied ↔ HasCollidingPair supplied) ↔ ¬IsShadowed supplied := by
  have hscan := hasCollision_collisionKeys supplied
  rw [raisesCollision_iff hcount hsizes, hasCollidingPair_iff]
  constructor
  · intro hexact hshadowed
    obtain ⟨hnodup, hancestor, hbelow⟩ := hshadowed
    have hfound := hexact.mpr (.inr hancestor)
    rw [hscan.mpr ⟨hnodup, hbelow⟩] at hfound
    cases hfound
  · intro hclear
    constructor
    · intro hfound
      by_contra hnone
      obtain ⟨hnodup, hfree⟩ := not_or.mp hnone
      have hmissed := hscan.mpr ⟨not_not.mp hnodup, fun p hp q hq hpq =>
        absurd ⟨p, hp, q, hq, hpq⟩ hfree⟩
      rw [hmissed] at hfound
      cases hfound
    · intro hpair
      by_contra hmissed
      obtain ⟨hnodup, hbelow⟩ := hscan.mp (Bool.eq_false_iff.mpr hmissed)
      rcases hpair with hdup | hancestor
      · exact hdup hnodup
      · exact hclear ⟨hnodup, hancestor, hbelow⟩

end Collisions

namespace Sample

set_option maxRecDepth 100000 in
/-- An entry `a-b` that sorts between the file `a` and the file `a/c` below it. -/
def betweenPath : RelativePath := ⟨text "a-b", rfl, by decide⟩

set_option maxRecDepth 100000 in
def belowPath : RelativePath := ⟨text "a/c", rfl, by decide⟩

def shadowed : List ManifestEntry :=
  [⟨path, fileSize, fileDigest⟩, ⟨betweenPath, fileSize, fileDigest⟩,
    ⟨belowPath, fileSize, fileDigest⟩]

set_option maxRecDepth 100000 in
/-- The three files build a manifest although one is an ancestor of another. -/
theorem sample_collision_is_missed :
    ¬∀ supplied : List ManifestEntry, supplied.length ≤ maxManifestEntries →
      ConsistentSizes supplied → (RaisesCollision supplied ↔ HasCollidingPair supplied) := by
  intro hall
  have hbuilt : (build shadowed).isOk = true := by decide
  have hconsistent : ConsistentSizes shadowed := by
    intro e he e' he' _
    have hsize : ∀ x ∈ shadowed, x.sizeBytes = fileSize := by decide
    rw [hsize e he, hsize e' he']
  have hpair : HasCollidingPair shadowed :=
    ⟨0, 2, by decide, text "a", text "a/c", by decide, by decide,
      .inr (by decide)⟩
  obtain ⟨message, hraised⟩ := (hall shadowed (by decide) hconsistent).mpr hpair
  rw [hraised] at hbuilt
  cases hbuilt

set_option maxRecDepth 100000 in
/-- Without the entry between them, the collision of `a` and `a/c` is reported. -/
theorem sample_collision_is_detected :
    RaisesCollision [⟨path, fileSize, fileDigest⟩, ⟨belowPath, fileSize, fileDigest⟩] ↔
      HasCollidingPair [⟨path, fileSize, fileDigest⟩, ⟨belowPath, fileSize, fileDigest⟩] := by
  refine (collisions_are_detected_iff (by decide) ?_).mpr ?_
  · intro e he e' he' _
    have hsize : ∀ x ∈ ([⟨path, fileSize, fileDigest⟩, ⟨belowPath, fileSize, fileDigest⟩] :
        List ManifestEntry), x.sizeBytes = fileSize := by decide
    rw [hsize e he, hsize e' he']
  · intro hshadowed
    obtain ⟨r, hr, c, hc, hprefix⟩ := hshadowed.2.2 (text "a") (by decide) (text "a/c")
      (by decide) (by decide)
    have hkeys : ∀ r ∈ keys [⟨path, fileSize, fileDigest⟩, ⟨belowPath, fileSize, fileDigest⟩],
        r = text "a" ∨ r = text "a/c" := by decide
    rcases hkeys r hr with rfl | rfl
    · exact absurd hprefix.length_le (by simp)
    · obtain ⟨t, ht⟩ := hprefix
      have hslash := congrArg (fun s : PyStr => s[1]?) ht
      have hat : (text "a/c")[1]? = some slash := by decide
      have hleft : (text "a" ++ [c] ++ t)[1]? = some c := rfl
      simp only [hat, hleft, Option.some.injEq] at hslash
      exact absurd hc (by rw [hslash]; exact lt_irrefl _)

end Sample

end RoboLake
