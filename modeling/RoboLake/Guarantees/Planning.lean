import RoboLake.Domain.PartPlans
import RoboLake.Guarantees.Plans

/-! # Part planning

The boundaries of a Blob are a function of its size alone: the planner computes them,
the range checks accept nothing else, and the order in which definitions are supplied
does not matter.
-/

namespace RoboLake

open Foundation

/-! ## The part size -/

/-- The loop doubles its part size until the part count suffices, and no longer. -/
theorem selectPartSizeFrom_spec {sizeBytes rounds partSize selected : Nat}
    (hsmall : partSize ≤ maxPartBytes)
    (h : selectPartSizeFrom sizeBytes rounds partSize = .ok selected) :
    ∃ k, selected = partSize * 2 ^ k ∧ selected ≤ maxPartBytes ∧
      ceilDiv sizeBytes selected ≤ maxParts ∧
      ∀ j < k, maxParts < ceilDiv sizeBytes (partSize * 2 ^ j) := by
  induction rounds generalizing partSize with
  | zero => cases h
  | succ rounds ih =>
      rw [selectPartSizeFrom] at h
      by_cases hmany : ceilDiv sizeBytes partSize > maxParts
      · rw [if_pos hmany] at h
        by_cases hlarge : partSize * 2 > maxPartBytes
        · rw [if_pos hlarge] at h
          cases h
        · rw [if_neg hlarge] at h
          obtain ⟨k, hk, hmax, hcount, hleast⟩ := ih (not_lt.mp hlarge) h
          refine ⟨k + 1, by rw [hk, pow_succ', Nat.mul_assoc], hmax, hcount, ?_⟩
          intro j hj
          cases j with
          | zero => simpa using hmany
          | succ j =>
              rw [pow_succ', ← Nat.mul_assoc]
              exact hleast j (by omega)
      · rw [if_neg hmany] at h
        cases h
        exact ⟨0, by simp, hsmall, not_lt.mp hmany, fun j hj => absurd hj (Nat.not_lt_zero j)⟩

theorem selectPartSizeFrom_total {sizeBytes rounds partSize k : Nat}
    (hcount : ceilDiv sizeBytes (partSize * 2 ^ k) ≤ maxParts)
    (hmax : partSize * 2 ^ k ≤ maxPartBytes) (hk : k < rounds) :
    ∃ selected, selectPartSizeFrom sizeBytes rounds partSize = .ok selected := by
  induction rounds generalizing partSize k with
  | zero => exact absurd hk (Nat.not_lt_zero k)
  | succ rounds ih =>
      rw [selectPartSizeFrom]
      by_cases hmany : ceilDiv sizeBytes partSize > maxParts
      · cases k with
        | zero =>
            rw [pow_zero, Nat.mul_one] at hcount
            exact absurd hcount (not_le.mpr hmany)
        | succ k =>
            rw [pow_succ', ← Nat.mul_assoc] at hcount hmax
            have hnext : partSize * 2 ≤ maxPartBytes := by
              calc partSize * 2 ≤ partSize * 2 * 2 ^ k := Nat.le_mul_of_pos_right _ (by positivity)
                _ ≤ maxPartBytes := hmax
            rw [if_pos hmany, if_neg (not_lt.mpr hnext)]
            exact ih hcount hmax (by omega)
      · exact ⟨partSize, if_neg hmany⟩

theorem selectPartSize_total {sizeBytes : Nat} (h : sizeBytes ≤ maxMultipartBlobBytes) :
    ∃ selected, selectPartSize sizeBytes = .ok selected := by
  have hcount : ceilDiv sizeBytes (basePartBytes * 2 ^ 3) ≤ maxParts := by
    simp only [maxMultipartBlobBytes] at h
    simp only [ceilDiv, basePartBytes, maxParts]
    omega
  exact selectPartSizeFrom_total hcount (by decide) (by decide)

/-! ## Boundaries -/

def rangeOf {α : Type} [PartRange α] (part : α) : Nat × Nat × Nat :=
  (PartRange.partNumber part, PartRange.offsetBytes part, PartRange.sizeBytes part)

def boundary (sizeBytes partSize partNumber : Nat) : Nat × Nat × Nat :=
  (partNumber, (partNumber - 1) * partSize, min partSize (sizeBytes - (partNumber - 1) * partSize))

def boundaries (sizeBytes partSize : Nat) : List (Nat × Nat × Nat) :=
  (List.range' 1 (ceilDiv sizeBytes partSize)).map (boundary sizeBytes partSize)

theorem offset_lt {sizeBytes partSize partNumber : Nat} (hsize : 0 < sizeBytes)
    (hpos : 1 ≤ partNumber) (hle : partNumber ≤ ceilDiv sizeBytes partSize) :
    (partNumber - 1) * partSize < sizeBytes := by
  rcases Nat.eq_zero_or_pos partSize with hzero | hpart
  · rw [hzero, Nat.mul_zero]
    exact hsize
  · have hmul := (Nat.le_div_iff_mul_le hpart).mp hle
    have hstep : partNumber * partSize = (partNumber - 1) * partSize + partSize := by
      rw [← Nat.succ_mul]
      congr 1
      omega
    omega

theorem offset_add_le {sizeBytes partSize partNumber : Nat} (hpart : 0 < partSize)
    (hlt : partNumber < ceilDiv sizeBytes partSize) (hpos : 1 ≤ partNumber) :
    (partNumber - 1) * partSize + partSize ≤ sizeBytes := by
  have hnext : (partNumber + 1) * partSize ≤ sizeBytes + partSize - 1 :=
    (Nat.le_div_iff_mul_le hpart).mp hlt
  have hstep : partNumber * partSize = (partNumber - 1) * partSize + partSize := by
    rw [← Nat.succ_mul]
    congr 1
    omega
  rw [Nat.succ_mul] at hnext
  omega

theorem le_ceilDiv_mul {sizeBytes partSize : Nat} (hpart : 0 < partSize) :
    sizeBytes ≤ ceilDiv sizeBytes partSize * partSize := by
  have hround := Nat.lt_mul_div_succ (sizeBytes + partSize - 1) hpart
  rw [Nat.mul_add, Nat.mul_one, Nat.mul_comm] at hround
  rw [ceilDiv]
  omega

/-- The sizes of the first parts add up to where the next one starts. -/
theorem sum_boundary_sizes (sizeBytes partSize count : Nat) :
    ((List.range' 1 count).map fun n => (boundary sizeBytes partSize n).2.2).sum =
      min sizeBytes (count * partSize) := by
  induction count with
  | zero => simp
  | succ count ih =>
      have hstep : (count + 1) * partSize = count * partSize + partSize := Nat.succ_mul _ _
      have hlast : 1 + 1 * count - 1 = count := by omega
      rw [List.range'_concat, List.map_append, List.sum_append, ih, List.map_singleton,
        List.sum_singleton, boundary, hstep, hlast]
      dsimp only
      omega

theorem validateRanges_of_boundaries {α : Type} [PartRange α] {parts : List α}
    {sizeBytes partSize : Nat} (h : parts.map rangeOf = boundaries sizeBytes partSize)
    (hsize : 0 < sizeBytes) (hpart : 0 < partSize)
    (hcount : ceilDiv sizeBytes partSize ≤ maxParts) :
    validateRanges sizeBytes partSize parts = .ok () := by
  have hlength : parts.length = ceilDiv sizeBytes partSize := by
    have hsame := congrArg List.length h
    rwa [List.length_map, boundaries, List.length_map, List.length_range'] at hsame
  have hnumbers : parts.map PartRange.partNumber = List.range' 1 parts.length := by
    have hsame := congrArg (List.map Prod.fst) h
    rw [List.map_map, boundaries, List.map_map, ← hlength] at hsame
    exact hsame.trans (List.map_id _)
  have hsizes : (parts.map PartRange.sizeBytes).sum = sizeBytes := by
    have hsame := congrArg (List.map fun x => x.2.2) h
    rw [List.map_map, boundaries, List.map_map] at hsame
    calc (parts.map PartRange.sizeBytes).sum
        = ((List.range' 1 (ceilDiv sizeBytes partSize)).map fun n =>
            (boundary sizeBytes partSize n).2.2).sum := congrArg List.sum hsame
      _ = min sizeBytes (ceilDiv sizeBytes partSize * partSize) := sum_boundary_sizes _ _ _
      _ = sizeBytes := min_eq_left (le_ceilDiv_mul hpart)
  have hplaced : ∀ d ∈ parts,
      PartRange.offsetBytes d = (PartRange.partNumber d - 1) * partSize ∧
        PartRange.sizeBytes d ≤ partSize ∧
        (PartRange.partNumber d < parts.length → PartRange.sizeBytes d = partSize) := by
    intro d hd
    have hmem : rangeOf d ∈ boundaries sizeBytes partSize := h ▸ List.mem_map_of_mem hd
    obtain ⟨n, hn, hsame⟩ := List.mem_map.mp hmem
    rw [List.mem_range'_1] at hn
    simp only [boundary, rangeOf, Prod.mk.injEq] at hsame
    obtain ⟨hnumber, hoffset, hlong⟩ := hsame
    rw [← hnumber, ← hoffset, ← hlong]
    refine ⟨rfl, min_le_left _ _, ?_⟩
    intro hlt
    have hfull := offset_add_le hpart (hlength ▸ hlt) hn.1
    omega
  have hpositive : 0 < parts.length := by
    rw [hlength]
    exact Nat.div_pos (by omega) hpart
  have hnonempty : ¬(parts.isEmpty ∨ parts.length > maxParts) := by
    rw [List.isEmpty_iff_length_eq_zero, not_or]
    omega
  have hloop : validateRangesFrom partSize parts.length parts 1 0 = .ok sizeBytes := by
    rw [validateRangesFrom_of_placed hnumbers (by omega) (le_refl 1) (fun _ => by simp) hplaced,
      hsizes, Nat.zero_add]
  rw [validateRanges, if_neg hnonempty, hloop]
  change (if sizeBytes ≠ sizeBytes then _ else _) = _
  rw [if_neg (by simp)]
  rfl

/-- A plan that exists has the ranges of its Blob size. -/
theorem PartPlan.ranges (plan : PartPlan) :
    plan.parts.map rangeOf = boundaries plan.blobSizeBytes plan.partSizeBytes := by
  have hcovers := plan.covers
  have hcount : plan.partCount = ceilDiv plan.blobSizeBytes plan.partSizeBytes := plan.count_eq
  have hnumbers := plan.numbers
  rw [hcount] at hnumbers
  rw [boundaries, ← hnumbers, List.map_map]
  apply List.map_congr_left
  intro d hd
  obtain ⟨hpos, hle, hoffset, hfull, hsmall, hend⟩ := hcovers.placed d hd
  have hsize : d.sizeBytes = min plan.partSizeBytes
      (plan.blobSizeBytes - (d.partNumber - 1) * plan.partSizeBytes) := by
    rcases Nat.lt_or_ge d.partNumber plan.partCount with hlt | hge
    · have hpart : 0 < plan.partSizeBytes := lt_of_lt_of_le d.size_pos hsmall
      have hinside := offset_add_le hpart (hcount ▸ hlt) hpos
      rw [hfull hlt]
      omega
    · have htotal := hend (le_antisymm hle hge)
      rw [hoffset] at htotal
      omega
  change (d.partNumber, d.offsetBytes, d.sizeBytes) = _
  rw [hoffset, hsize]
  rfl

/-! ## The planner -/

theorem planPartBoundaries_ok {sizeBytes : Nat} (hsize : 0 < sizeBytes)
    (hmax : sizeBytes ≤ maxMultipartBlobBytes) :
    ∃ plan, planPartBoundaries sizeBytes = .ok plan ∧ plan.blobSizeBytes = sizeBytes ∧
      selectPartSize sizeBytes = .ok plan.partSizeBytes ∧
      plan.parts.map rangeOf = boundaries sizeBytes plan.partSizeBytes := by
  obtain ⟨partSize, hselected⟩ := selectPartSize_total hmax
  obtain ⟨k, hdoubled, hlarge, hcount, _⟩ := selectPartSizeFrom_spec (by decide) hselected
  have hbase : basePartBytes ≤ partSize := by
    rw [hdoubled]
    exact Nat.le_mul_of_pos_right _ (by positivity)
  have hpart : 0 < partSize := lt_of_lt_of_le (by decide) hbase
  have hparts : ∀ n ∈ List.range' 1 (ceilDiv sizeBytes partSize),
      ∃ part, MultipartPart.make n ((n - 1) * partSize : Int)
        (min (partSize : Int) (sizeBytes - (n - 1) * partSize)) = .ok part ∧
        rangeOf part = boundary sizeBytes partSize n := by
    intro n hn
    rw [List.mem_range'_1] at hn
    have hinside : (n - 1) * partSize < sizeBytes := offset_lt hsize hn.1 (by omega)
    have hoffset : ((n - 1 : Int) * partSize) = ((n - 1) * partSize : Nat) := by
      push_cast [Nat.cast_sub hn.1]
      rfl
    have hnumber : (1 : Int) ≤ n ∧ (n : Int) ≤ maxParts := by omega
    have hrange : 0 ≤ ((n - 1) * partSize : Int) ∧
        0 < min (partSize : Int) (sizeBytes - (n - 1) * partSize) := by
      rw [hoffset]
      omega
    refine ⟨_, by rw [MultipartPart.make, dif_pos hnumber, dif_pos hrange], ?_⟩
    simp only [rangeOf, PartRange.partNumber, PartRange.offsetBytes, PartRange.sizeBytes, boundary,
      hoffset, Int.toNat_natCast, Prod.mk.injEq, true_and]
    omega
  obtain ⟨parts, hmapped, hranges⟩ := Except.mapM_ok_of_forall hparts
  have hcheck : MultipartPlan.check sizeBytes partSize parts = .ok () := by
    have hvalid := validateRanges_of_boundaries hranges hsize hpart hcount
    unfold MultipartPlan.check
    rw [if_neg (by omega), if_neg (not_not.mpr ⟨hbase, hlarge⟩), hselected]
    change (if partSize ≠ partSize then _ else validateRanges sizeBytes partSize parts) = _
    rw [if_neg (by simp), hvalid]
  refine ⟨⟨sizeBytes, partSize, parts, hcheck⟩, ?_, rfl, hselected, hranges⟩
  unfold planPartBoundaries
  rw [if_pos ⟨hsize, hmax⟩, hselected]
  refine Except.bind_ok.mpr ⟨partSize, rfl, Except.bind_ok.mpr ⟨parts, hmapped, ?_⟩⟩
  unfold MultipartPlan.make
  split
  · rfl
  · rename_i e herror
    rw [hcheck] at herror
    cases herror

/-- Every byte of the Blob lies in one part. -/
theorem existsUnique_part {parts : List MultipartPart} {sizeBytes partSize byte : Nat}
    (h : parts.map rangeOf = boundaries sizeBytes partSize) (hpart : 0 < partSize)
    (hbyte : byte < sizeBytes) :
    ∃! part, part ∈ parts ∧ part.offsetBytes ≤ byte ∧ byte < part.offsetBytes + part.sizeBytes := by
  have hranges : ∀ part ∈ parts, (part.partNumber, part.offsetBytes, part.sizeBytes) =
      boundary sizeBytes partSize part.partNumber := by
    intro part hmem
    have hin : rangeOf part ∈ boundaries sizeBytes partSize := h ▸ List.mem_map_of_mem hmem
    obtain ⟨n, _, hn⟩ := List.mem_map.mp hin
    have hnumber : n = part.partNumber := congrArg Prod.fst hn
    rw [← hnumber, hn, hnumber]
    rfl
  have hdivide := Nat.div_add_mod byte partSize
  have hrest := Nat.mod_lt byte hpart
  rw [Nat.mul_comm] at hdivide
  have hlast : byte / partSize + 1 ≤ ceilDiv sizeBytes partSize := by
    rw [ceilDiv, Nat.le_div_iff_mul_le hpart, Nat.succ_mul]
    omega
  have hmem : boundary sizeBytes partSize (byte / partSize + 1) ∈ parts.map rangeOf := by
    rw [h]
    exact List.mem_map_of_mem (List.mem_range'_1.mpr ⟨Nat.le_add_left 1 _, by omega⟩)
  obtain ⟨part, hin, hpartRange⟩ := List.mem_map.mp hmem
  simp only [rangeOf, PartRange.partNumber, PartRange.offsetBytes, PartRange.sizeBytes, boundary,
    Nat.add_sub_cancel, Prod.mk.injEq] at hpartRange
  obtain ⟨hnumber, hoffset, hlength⟩ := hpartRange
  refine ⟨part, ⟨hin, by omega, by omega⟩, ?_⟩
  intro other hother
  obtain ⟨hmember, hstart, hend⟩ := hother
  have hotherRange := hranges other hmember
  have hsameRange := hranges part hin
  simp only [boundary, Prod.mk.injEq, true_and] at hotherRange hsameRange
  -- A part that holds the byte has the number of the byte's quotient.
  have hquotient : other.partNumber - 1 = byte / partSize := by
    symm
    apply Nat.div_eq_of_lt_le
    · rw [← hotherRange.1]
      exact hstart
    · rw [Nat.succ_mul, ← hotherRange.1]
      omega
  have hpos := other.number_pos
  have hsame : other.partNumber = part.partNumber := by omega
  rw [hsame] at hotherRange
  cases part
  cases other
  simp only [MultipartPart.mk.injEq]
  exact ⟨hsame, hotherRange.1.trans hsameRange.1.symm, hotherRange.2.trans hsameRange.2.symm⟩

/-! ## Supplied definitions -/

theorem PartPlan.increasing (plan : PartPlan) :
    plan.parts.Pairwise fun a b => a.partNumber < b.partNumber := by
  have hnumbers : (plan.parts.map PartDefinition.partNumber).Pairwise (· < ·) := by
    rw [plan.numbers]
    exact List.pairwise_lt_range'
  rwa [List.pairwise_map] at hnumbers

theorem PartPlan.parts_of_build {schemaVersion sizeBytes partSize : Nat}
    {ds : List PartDefinition} {plan : PartPlan}
    (h : PartPlan.build schemaVersion sizeBytes partSize ds = .ok plan) :
    plan.schemaVersion = schemaVersion ∧ plan.blobSizeBytes = sizeBytes ∧
      plan.partSizeBytes = partSize ∧
      plan.parts = ds.insertionSort fun a b => a.partNumber ≤ b.partNumber := by
  unfold PartPlan.build at h
  dsimp only at h
  split at h
  · cases h
    exact ⟨rfl, rfl, rfl, rfl⟩
  · cases h

theorem PartPlan.build_of_parts {ds : List PartDefinition} {plan : PartPlan}
    (h : plan.parts = ds.insertionSort fun a b => a.partNumber ≤ b.partNumber) :
    PartPlan.build plan.schemaVersion plan.blobSizeBytes plan.partSizeBytes ds = .ok plan := by
  have hcheck := plan.valid
  rw [h] at hcheck
  unfold PartPlan.build
  dsimp only
  split
  · congr 1
    exact PartPlan.ext rfl rfl rfl h.symm
  · rename_i e herror
    rw [hcheck] at herror
    cases herror

/-- A build that succeeds does so for every order of its definitions, with the same plan. -/
theorem PartPlan.build_perm {schemaVersion sizeBytes partSize : Nat}
    {ds ds' : List PartDefinition} {plan : PartPlan} (hperm : ds.Perm ds')
    (h : PartPlan.build schemaVersion sizeBytes partSize ds = .ok plan) :
    PartPlan.build schemaVersion sizeBytes partSize ds' = .ok plan := by
  obtain ⟨hschema, hsize, hpart, hparts⟩ := PartPlan.parts_of_build h
  have hsupplied : (ds'.map id).Perm plan.parts := by
    rw [List.map_id, hparts]
    exact hperm.symm.trans (List.perm_insertionSort _ ds).symm
  have hsorted : (ds'.insertionSort fun a b => a.partNumber ≤ b.partNumber).map id = plan.parts :=
    map_sorted_eq (fun _ => rfl) plan.increasing hsupplied
  rw [List.map_id] at hsorted
  rw [← hschema, ← hsize, ← hpart]
  exact PartPlan.build_of_parts hsorted.symm

/-- A build succeeds exactly on the definitions of the Blob's boundaries. -/
theorem PartPlan.build_ok_iff {schemaVersion sizeBytes partSize selected : Nat}
    {ds : List PartDefinition} (hlarge : maxSinglePutBytes < sizeBytes)
    (hmax : sizeBytes ≤ maxMultipartBlobBytes)
    (hselected : selectPartSize sizeBytes = .ok selected) :
    (∃ plan, PartPlan.build schemaVersion sizeBytes partSize ds = .ok plan) ↔
      schemaVersion = partPlanSchemaVersion ∧ partSize = selected ∧
        (ds.map rangeOf).Perm (boundaries sizeBytes selected) := by
  have hselect : selectMultipartPartSize sizeBytes = .ok selected := by
    rw [selectMultipartPartSize, if_pos ⟨hlarge, hmax⟩, hselected]
  constructor
  · intro h
    obtain ⟨plan, hbuild⟩ := h
    obtain ⟨hschema, hsize, hpart, hparts⟩ := PartPlan.parts_of_build hbuild
    have hsame : partSize = selected := by
      have hplan := plan.covers.selected
      rw [hsize, hselect, hpart] at hplan
      exact (Except.ok.inj hplan).symm
    have hversion : schemaVersion = partPlanSchemaVersion := by
      have hcheck := plan.valid
      rw [hschema] at hcheck
      by_contra hne
      rw [PartPlan.check, if_pos hne] at hcheck
      cases hcheck
    refine ⟨hversion, hsame, ?_⟩
    have hranges := plan.ranges
    rw [hsize, hpart, hsame, hparts] at hranges
    rw [← hranges]
    exact ((List.perm_insertionSort _ ds).map rangeOf).symm
  · intro h
    obtain ⟨rfl, rfl, hperm⟩ := h
    obtain ⟨k, hdoubled, _, hcount, _⟩ := selectPartSizeFrom_spec (by decide) hselected
    have hpart : 0 < partSize := by
      rw [hdoubled]
      exact Nat.mul_pos (by decide) (by positivity)
    have hincreasing : (boundaries sizeBytes partSize).Pairwise fun x y => x.1 < y.1 := by
      rw [boundaries, List.pairwise_map]
      exact List.pairwise_lt_range'
    have hsorted : (ds.insertionSort fun a b => a.partNumber ≤ b.partNumber).map rangeOf =
        boundaries sizeBytes partSize := map_sorted_eq (fun _ => rfl) hincreasing hperm
    have hvalid := validateRanges_of_boundaries hsorted (by omega) hpart hcount
    have hcheck : PartPlan.check partPlanSchemaVersion sizeBytes partSize
        (ds.insertionSort fun a b => a.partNumber ≤ b.partNumber) = .ok () := by
      unfold PartPlan.check
      rw [if_neg (by simp), if_neg (not_not.mpr ⟨hlarge, hmax⟩), hselect]
      change (if partSize ≠ partSize then _ else validateRanges sizeBytes partSize _) = _
      rw [if_neg (by simp), hvalid]
    let plan : PartPlan := ⟨_, _, _, _, hcheck⟩
    have hbuild : PartPlan.build plan.schemaVersion plan.blobSizeBytes plan.partSizeBytes ds =
        .ok plan := PartPlan.build_of_parts rfl
    exact ⟨plan, hbuild⟩

/-- Planning a Blob is total, exact and unique: the part size is the least doubling of the base
size that suffices, the parts cover the Blob once, every plan of the size has the same ranges, and
a build accepts the definitions of these ranges and no others, in any order. -/
theorem part_planning_is_exact {sizeBytes : Nat} (hlarge : maxSinglePutBytes < sizeBytes)
    (hmax : sizeBytes ≤ maxMultipartBlobBytes) :
    ∃ plan, planMultipart sizeBytes = .ok plan ∧
      (∃ k, plan.partSizeBytes = basePartBytes * 2 ^ k ∧
        ∀ j < k, maxParts < ceilDiv sizeBytes (basePartBytes * 2 ^ j)) ∧
      plan.partSizeBytes ≤ maxPartBytes ∧
      ceilDiv sizeBytes plan.partSizeBytes ≤ maxParts ∧
      plan.parts.map MultipartPart.partNumber =
        List.range' 1 (ceilDiv sizeBytes plan.partSizeBytes) ∧
      (∀ part ∈ plan.parts, part.offsetBytes = (part.partNumber - 1) * plan.partSizeBytes ∧
        1 ≤ part.sizeBytes ∧ part.sizeBytes ≤ plan.partSizeBytes ∧
        part.offsetBytes + part.sizeBytes ≤ sizeBytes ∧
        (part.partNumber < ceilDiv sizeBytes plan.partSizeBytes →
          part.sizeBytes = plan.partSizeBytes)) ∧
      (∀ byte < sizeBytes, ∃! part, part ∈ plan.parts ∧ part.offsetBytes ≤ byte ∧
        byte < part.offsetBytes + part.sizeBytes) ∧
      (∀ p : PartPlan, p.blobSizeBytes = sizeBytes →
        p.partSizeBytes = plan.partSizeBytes ∧ p.parts.map rangeOf = plan.parts.map rangeOf) ∧
      (∀ schemaVersion partSize ds ds' p, ds.Perm ds' →
        PartPlan.build schemaVersion sizeBytes partSize ds = .ok p →
        PartPlan.build schemaVersion sizeBytes partSize ds' = .ok p) ∧
      ∀ schemaVersion partSize ds,
        (∃ p, PartPlan.build schemaVersion sizeBytes partSize ds = .ok p) ↔
          schemaVersion = partPlanSchemaVersion ∧ partSize = plan.partSizeBytes ∧
            (ds.map rangeOf).Perm (plan.parts.map rangeOf) := by
  obtain ⟨plan, hplan, _, hselected, hranges⟩ := planPartBoundaries_ok (by omega) hmax
  obtain ⟨k, hdoubled, hsmall, hcount, hleast⟩ := selectPartSizeFrom_spec (by decide) hselected
  have hpart : 0 < plan.partSizeBytes := by
    rw [hdoubled]
    exact Nat.mul_pos (by decide) (by positivity)
  have hselect : selectMultipartPartSize sizeBytes = .ok plan.partSizeBytes := by
    rw [selectMultipartPartSize, if_pos ⟨hlarge, hmax⟩, hselected]
  refine ⟨plan, ?_, ⟨k, hdoubled, hleast⟩, hsmall, hcount, ?_, ?_, ?_, ?_, ?_, ?_⟩
  · exact Except.bind_ok.mpr ⟨plan.partSizeBytes, hselect, hplan⟩
  · have hnumbers := congrArg (List.map Prod.fst) hranges
    rw [List.map_map, boundaries, List.map_map] at hnumbers
    exact hnumbers.trans (List.map_id _)
  · intro part hmem
    have hin : rangeOf part ∈ boundaries sizeBytes plan.partSizeBytes :=
      hranges ▸ List.mem_map_of_mem hmem
    obtain ⟨n, hn, hsame⟩ := List.mem_map.mp hin
    rw [List.mem_range'_1] at hn
    simp only [boundary, rangeOf, PartRange.partNumber, PartRange.offsetBytes,
      PartRange.sizeBytes, Prod.mk.injEq] at hsame
    obtain ⟨hnumber, hoffset, hlength⟩ := hsame
    have hinside := offset_lt (by omega) hn.1 (by omega : n ≤ ceilDiv sizeBytes plan.partSizeBytes)
    rw [← hnumber, ← hoffset, ← hlength]
    refine ⟨rfl, by omega, min_le_left _ _, by omega, ?_⟩
    intro hlt
    have hfull := offset_add_le hpart hlt hn.1
    omega
  · intro byte hbyte
    exact existsUnique_part hranges hpart hbyte
  · intro p hsize
    have hsame := p.covers.selected
    rw [hsize, hselect] at hsame
    have hequal := (Except.ok.inj hsame).symm
    refine ⟨hequal, ?_⟩
    rw [p.ranges, hsize, hequal, hranges]
  · intro schemaVersion partSize ds ds' p hperm hbuild
    exact PartPlan.build_perm hperm hbuild
  · intro schemaVersion partSize ds
    rw [hranges]
    exact PartPlan.build_ok_iff hlarge hmax hselected

/-- The smallest multipart Blob has seventy-five parts of the base size. -/
theorem smallest_plan_has_parts :
    ∃ plan, planMultipart 5000000001 = .ok plan ∧
      plan.parts.map MultipartPart.partNumber =
        List.range' 1 (ceilDiv 5000000001 plan.partSizeBytes) := by
  obtain ⟨plan, hplan, _, _, _, hnumbers, _⟩ :=
    part_planning_is_exact (by decide : maxSinglePutBytes < 5000000001) (by decide)
  exact ⟨plan, hplan, hnumbers⟩

/-! ## Canonical text -/

section Codec

variable [Platform]

/-- The canonical text of a plan reads back as that plan. -/
theorem PartPlan.parseCanonical_canonicalBytes {plan : PartPlan} (h : plan.LoadsDumped) :
    PartPlan.parseCanonical plan.canonicalBytes = .ok plan := by
  have hsupplied : (plan.parts.map id).Perm plan.parts := by rw [List.map_id]
  have hsorted : (plan.parts.insertionSort fun a b => a.partNumber ≤ b.partNumber).map id =
      plan.parts := map_sorted_eq (fun _ => rfl) plan.increasing hsupplied
  rw [List.map_id] at hsorted
  exact PartPlan.parseCanonical_of_loads h (PartPlan.build_of_parts hsorted.symm)

/-- The text of a plan reads back as the plan, an accepted text is the text of its plan, so one
text denotes each plan, and one plan belongs to each text. -/
theorem canonical_part_plan_codec :
    (∀ plan : PartPlan, plan.LoadsDumped →
      PartPlan.parseCanonical plan.canonicalBytes = .ok plan) ∧
    (∀ data plan, PartPlan.parseCanonical data = .ok plan → plan.canonicalBytes = data) ∧
    (∀ plan : PartPlan, plan.LoadsDumped → ∃! data, PartPlan.parseCanonical data = .ok plan) ∧
    ∀ plan plan' : PartPlan, plan.LoadsDumped → plan'.LoadsDumped →
      plan.canonicalBytes = plan'.canonicalBytes → plan = plan' := by
  refine ⟨fun _ => PartPlan.parseCanonical_canonicalBytes,
    fun _ _ => PartPlan.canonicalBytes_of_parseCanonical, ?_, ?_⟩
  · intro plan h
    refine ⟨plan.canonicalBytes, PartPlan.parseCanonical_canonicalBytes h, ?_⟩
    intro data hdata
    exact (PartPlan.canonicalBytes_of_parseCanonical hdata).symm
  · intro plan plan' h h' hbytes
    have hread := PartPlan.parseCanonical_canonicalBytes h
    rw [hbytes, PartPlan.parseCanonical_canonicalBytes h'] at hread
    exact (Except.ok.inj hread).symm

end Codec

end RoboLake

namespace RoboLake.Sample

@[reducible]
def planReader : Platform := { platform with jsonLoads := fun _ => .ok plan.plan.payload }

/-- The sample plan reads back from its text. -/
theorem sample_plan_reads_back :
    @PartPlan.parseCanonical planReader plan.plan.canonicalBytes = .ok plan.plan :=
  (@canonical_part_plan_codec planReader).1 _ rfl

end RoboLake.Sample
