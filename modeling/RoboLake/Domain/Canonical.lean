import RoboLake.Domain.Collisions
import RoboLake.Domain.Payloads

/-! # The canonical text of a manifest

Building forgets the order in which entries were supplied, and reading the canonical
text back rebuilds the manifest.
-/

namespace RoboLake

open Foundation Foundation.Ancestors

/-! ## UTF-8 -/

/-- The first code point of UTF-8 bytes, with the bytes that follow it. -/
def decodeFirst : Bytes → Option (Nat × Bytes)
  | a :: rest =>
      if a.toNat < 0x80 then some (a.toNat, rest)
      else if a.toNat < 0xE0 then
        match rest with
        | b :: rest => some ((a.toNat - 0xC0) * 64 + (b.toNat - 0x80), rest)
        | _ => none
      else if a.toNat < 0xF0 then
        match rest with
        | b :: c :: rest =>
            some ((a.toNat - 0xE0) * 4096 + (b.toNat - 0x80) * 64 + (c.toNat - 0x80), rest)
        | _ => none
      else
        match rest with
        | b :: c :: d :: rest => some ((a.toNat - 0xF0) * 262144 + (b.toNat - 0x80) * 4096 +
            (c.toNat - 0x80) * 64 + (d.toNat - 0x80), rest)
        | _ => none
  | [] => none

theorem toNat_byte {n : Nat} (h : n < 256) : (byte n).toNat = n := by
  simp only [byte, UInt8.toNat_ofNat']
  omega

theorem decodeFirst_utf8 (c : CodePoint) (s : Bytes) :
    decodeFirst (utf8 c ++ s) = some (c.val, s) := by
  have hc := c.isLt
  unfold utf8
  by_cases h₁ : c.val < 0x80
  · rw [if_pos h₁]
    simp only [List.cons_append, List.nil_append, decodeFirst]
    rw [toNat_byte (by omega), if_pos h₁]
  · rw [if_neg h₁]
    by_cases h₂ : c.val < 0x800
    · rw [if_pos h₂]
      simp only [List.cons_append, List.nil_append, decodeFirst]
      rw [toNat_byte (by omega), toNat_byte (by omega), if_neg (by omega), if_pos (by omega)]
      simp only [Option.some.injEq, Prod.mk.injEq, and_true]
      omega
    · rw [if_neg h₂]
      by_cases h₃ : c.val < 0x10000
      · rw [if_pos h₃]
        simp only [List.cons_append, List.nil_append, decodeFirst]
        rw [toNat_byte (by omega), toNat_byte (by omega), toNat_byte (by omega),
          if_neg (by omega), if_neg (by omega), if_pos (by omega)]
        simp only [Option.some.injEq, Prod.mk.injEq, and_true]
        omega
      · rw [if_neg h₃]
        simp only [List.cons_append, List.nil_append, decodeFirst]
        rw [toNat_byte (by omega), toNat_byte (by omega), toNat_byte (by omega),
          toNat_byte (by omega), if_neg (by omega), if_neg (by omega), if_neg (by omega)]
        simp only [Option.some.injEq, Prod.mk.injEq, and_true]
        omega

theorem flatMap_utf8_injective {s t : PyStr} (h : s.flatMap utf8 = t.flatMap utf8) : s = t := by
  have hempty : decodeFirst [] = none := rfl
  induction s generalizing t with
  | nil =>
      cases t with
      | nil => rfl
      | cons d t =>
          have hdecode := congrArg decodeFirst h
          rw [List.flatMap_nil, List.flatMap_cons, decodeFirst_utf8, hempty] at hdecode
          cases hdecode
  | cons c s ih =>
      cases t with
      | nil =>
          have hdecode := congrArg decodeFirst h
          rw [List.flatMap_nil, List.flatMap_cons, decodeFirst_utf8, hempty] at hdecode
          cases hdecode
      | cons d t =>
          have hdecode := congrArg decodeFirst h
          rw [List.flatMap_cons, List.flatMap_cons, decodeFirst_utf8, decodeFirst_utf8,
            Option.some.injEq, Prod.mk.injEq] at hdecode
          rw [Fin.ext hdecode.1, ih hdecode.2]

variable [Platform]

theorem RelativePath.bytes_injective {p q : RelativePath} (h : p.bytes = q.bytes) : p = q :=
  RelativePath.ext (flatMap_utf8_injective h)

namespace Manifest

/-! ## Order of the supplied entries -/

instance : Std.Total (pathLe : ManifestEntry → ManifestEntry → Prop) :=
  ⟨fun a b => List.le_total a.relativePath.bytes b.relativePath.bytes⟩

instance : IsTrans ManifestEntry pathLe :=
  ⟨fun _ _ _ hab hbc => List.le_trans hab hbc⟩

theorem collisionKeys_eq_of_perm {ordered ordered' : List ManifestEntry}
    (h : ordered.Perm ordered') : collisionKeys ordered = collisionKeys ordered' := by
  refine List.Perm.eq_of_pairwise (fun p q _ _ hpq hqp => le_antisymm hpq hqp)
    (collisionKeys_sorted ordered) (collisionKeys_sorted ordered') ?_
  exact (List.perm_insertionSort _ _).trans ((h.map _).trans (List.perm_insertionSort _ _).symm)

theorem hasConflictingSizes_perm {ordered ordered' : List ManifestEntry}
    (h : ordered.Perm ordered') : hasConflictingSizes ordered = hasConflictingSizes ordered' := by
  rw [Bool.eq_iff_iff, ← not_iff_not, Bool.not_eq_true, Bool.not_eq_true,
    hasConflictingSizes_eq_false, hasConflictingSizes_eq_false]
  exact ⟨fun hsizes => hsizes.perm h, fun hsizes => hsizes.perm h.symm⟩

theorem ordered_eq_of_perm {supplied supplied' : List ManifestEntry}
    (h : supplied.Perm supplied') (hnodup : (keys supplied).Nodup) :
    supplied.insertionSort pathLe = supplied'.insertionSort pathLe := by
  have hperm := List.perm_insertionSort pathLe supplied
  have hperm' := List.perm_insertionSort pathLe supplied'
  refine List.Perm.eq_of_pairwise ?_ (List.pairwise_insertionSort pathLe supplied)
    (List.pairwise_insertionSort pathLe supplied') (hperm.trans (h.trans hperm'.symm))
  intro a b ha hb hab hba
  have hpath : a.relativePath = b.relativePath :=
    RelativePath.bytes_injective (List.le_antisymm hab hba)
  have ha' : a ∈ supplied := hperm.mem_iff.mp ha
  have hb' : b ∈ supplied := h.mem_iff.mpr (hperm'.mem_iff.mp hb)
  exact List.inj_on_of_nodup_map hnodup ha' hb' (by rw [hpath])

/-- A build, whether it succeeds or not, does not depend on the order of its entries. -/
theorem build_perm {supplied supplied' : List ManifestEntry} (h : supplied.Perm supplied') :
    build supplied = build supplied' := by
  have hordered : (supplied.insertionSort pathLe).Perm (supplied'.insertionSort pathLe) :=
    (List.perm_insertionSort _ _).trans (h.trans (List.perm_insertionSort _ _).symm)
  have hscan := hasCollision_collisionKeys supplied
  unfold build
  dsimp only
  rw [h.length_eq, hasConflictingSizes_perm hordered, collisionKeys_eq_of_perm hordered]
  rw [collisionKeys_eq_of_perm hordered] at hscan
  by_cases hcollision : hasCollision (collisionKeys (supplied'.insertionSort pathLe)) = true
  · rw [if_pos hcollision, if_pos hcollision]
  · rw [ordered_eq_of_perm h (hscan.mp (Bool.eq_false_iff.mpr hcollision)).1]

theorem build_entries {supplied : List ManifestEntry} {m : Manifest}
    (h : build supplied = .ok m) : build m.entries = .ok m := by
  rw [← h, (build_spec h).1]
  exact build_perm (List.perm_insertionSort pathLe supplied)

/-! ## Reading the text back -/

def entryPayload (e : ManifestEntry) : Json :=
  .object [(text "relative_path", .str e.relativePath.value), (text "size_bytes", .int e.sizeBytes),
    (text "sha256", .str (asciiText (asciiChars e.sha256.value)))]

/-- The dictionary whose compact text is canonical. -/
def payload (ordered : List ManifestEntry) : Json :=
  .object [(text "schema_version", .int 1), (text "entries", .list (ordered.map entryPayload))]

/-- `json.loads` inverts `json.dumps` on the text of the manifest. -/
def LoadsDumped (m : Manifest) : Prop := jsonLoads m.canonicalBytes = .ok (payload m.entries)

theorem parse_value (p : RelativePath) : RelativePath.parse p.value = .ok p := by
  obtain ⟨value, hnormalized, hsafe⟩ := p
  obtain ⟨encoded, hencoded, hchecks⟩ := (Option.any_eq_true _ _).mp hsafe
  unfold RelativePath.parse
  split
  · rename_i hnone
    rw [hnormalized, hencoded] at hnone
    cases hnone
  · rename_i encoded' hsome
    rw [hnormalized, hencoded] at hsome
    cases hsome
    rw [dif_pos (by rw [hnormalized]; exact hchecks)]
    simp only [hnormalized]

omit [Platform] in
theorem digestText_value (d : Sha256Digest) :
    digestText (asciiText (asciiChars d.value)) = d.value := by
  have hnarrow := d.narrow_value
  generalize d.value = cs at hnarrow
  unfold digestText asciiText asciiChars
  rw [List.map_map, List.map_map]
  refine (List.map_congr_left fun c hc => ?_).trans (List.map_id cs)
  have hbyte : c.toNat < 256 := hnarrow c hc
  have hcode : (Fin.ofNat 0x110000 (byte c.toNat).toNat).val = c.toNat := by
    rw [toNat_byte hbyte, Fin.val_ofNat]
    omega
  simp only [Function.comp_apply, hcode, Char.ofNat_toNat, id]

theorem entryFields_entryPayload (e : ManifestEntry) :
    entryFields (entryPayload e) =
      some (e.relativePath.value, (e.sizeBytes : Int), asciiText (asciiChars e.sha256.value)) := by
  have h₁ : text "size_bytes" ≠ text "relative_path" := by decide
  have h₂ : text "sha256" ≠ text "relative_path" := by decide
  have h₃ : text "sha256" ≠ text "size_bytes" := by decide
  simp [entryFields, entryPayload, Json.hasKeys, Json.lookup, h₁, h₂, h₃]

theorem parseEntry_fields (e : ManifestEntry) :
    parseEntry (e.relativePath.value, (e.sizeBytes : Int), asciiText (asciiChars e.sha256.value)) =
      .ok e := by
  simp only [parseEntry, parse_value, digestText_value, Sha256Digest.parse_value]
  simp [bind, Except.bind, ManifestEntry.make]

theorem mapM_entryFields (ordered : List ManifestEntry) :
    (ordered.map entryPayload).mapM entryFields = some (ordered.map fun e =>
      (e.relativePath.value, (e.sizeBytes : Int), asciiText (asciiChars e.sha256.value))) := by
  induction ordered with
  | nil => rfl
  | cons e ordered ih =>
      rw [List.map_cons, List.mapM_cons, entryFields_entryPayload, ih]
      rfl

theorem mapM_parseEntry (ordered : List ManifestEntry) :
    (ordered.map fun e => (e.relativePath.value, (e.sizeBytes : Int),
      asciiText (asciiChars e.sha256.value))).mapM parseEntry = .ok ordered := by
  induction ordered with
  | nil => rfl
  | cons e ordered ih =>
      rw [List.map_cons, List.mapM_cons, parseEntry_fields, ih]
      rfl

theorem length_of_build {supplied : List ManifestEntry} {m : Manifest}
    (h : build supplied = .ok m) : m.canonicalBytes.length ≤ maxManifestBytes := by
  unfold build at h
  split at h
  · cases h
  · dsimp only at h
    split at h
    · cases h
    · split at h
      · cases h
      · split at h
        · cases h
        · rename_i hlength
          cases h
          exact Nat.not_lt.mp hlength

/-- The canonical text of a built manifest reads back as that manifest. -/
theorem fromCanonicalBytes_of_build {supplied : List ManifestEntry} {m : Manifest}
    (h : build supplied = .ok m) (hloads : LoadsDumped m) :
    fromCanonicalBytes m.canonicalBytes = .ok m := by
  have hkeys : text "entries" ≠ text "schema_version" := by decide
  unfold fromCanonicalBytes
  rw [if_neg (Nat.not_lt.mpr (length_of_build h)), hloads]
  simp [-List.mapM_map, payload, Json.hasKeys, Json.lookup, hkeys, isVersionOne,
    mapM_entryFields, mapM_parseEntry, build_entries h, bind, Except.bind, pure, Except.pure]

end Manifest

end RoboLake
