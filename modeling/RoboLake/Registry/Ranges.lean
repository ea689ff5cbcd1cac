import RoboLake.Registry.Accepted.Initiation

/-! # Part rows under the plan trigger

The trigger counts and places part rows in closed form, the plan constructor walks a
cursor over sorted definitions. On the rows of one session they accept the same sets.
-/

namespace RoboLake

open Foundation Store Migrations

/-! ## The cursor walk -/

theorem eq_range'_of_increasing {l : List Nat} {n : Nat} (h : l.Pairwise (· < ·))
    (hlength : l.length = n) (hmem : ∀ x ∈ l, 1 ≤ x ∧ x ≤ n) : l = List.range' 1 n := by
  have hnodup : l.Nodup := h.imp fun hlt => hlt.ne
  have hsubset : l ⊆ List.range' 1 n := by
    intro x hx
    rw [List.mem_range'_1]
    have := hmem x hx
    omega
  have hperm : l.Perm (List.range' 1 n) := by
    apply (hnodup.subperm hsubset).perm_of_length_le
    rw [List.length_range', hlength]
  exact hperm.eq_of_pairwise (fun _ _ _ _ hlt hgt => absurd hlt (lt_asymm hgt)) h
    List.pairwise_lt_range'

theorem validateRangesFrom_of_placed {α : Type} [PartRange α] {partSizeBytes count : Nat}
    {parts : List α} {expected cursor : Nat}
    (hnumbers : parts.map PartRange.partNumber = List.range' expected parts.length)
    (hcount : expected + parts.length = count + 1) (hpos : 1 ≤ expected)
    (hcursor : parts ≠ [] → cursor = (expected - 1) * partSizeBytes)
    (hplaced : ∀ d ∈ parts,
      PartRange.offsetBytes d = (PartRange.partNumber d - 1) * partSizeBytes ∧
        PartRange.sizeBytes d ≤ partSizeBytes ∧
        (PartRange.partNumber d < count → PartRange.sizeBytes d = partSizeBytes)) :
    validateRangesFrom partSizeBytes count parts expected cursor =
      .ok (cursor + (parts.map PartRange.sizeBytes).sum) := by
  induction parts generalizing expected cursor with
  | nil => simp [validateRangesFrom]
  | cons d parts ih =>
      rw [List.map_cons, List.length_cons, List.range'_succ, List.cons.injEq] at hnumbers
      obtain ⟨hnumber, hnumbers⟩ := hnumbers
      rw [List.length_cons] at hcount
      obtain ⟨hoffset, hsmall, hfull⟩ := hplaced d List.mem_cons_self
      have hstart := hcursor (List.cons_ne_nil d parts)
      rw [hnumber] at hoffset hfull
      have hplace : ¬(PartRange.partNumber d ≠ expected ∨ PartRange.offsetBytes d ≠ cursor) := by
        rw [hnumber, hoffset, hstart]
        simp
      have hnotfull : ¬(expected < count ∧ PartRange.sizeBytes d ≠ partSizeBytes) := by
        intro h
        exact h.2 (hfull h.1)
      rw [validateRangesFrom, if_neg hplace, if_neg (not_lt.mpr hsmall), if_neg hnotfull,
        List.map_cons, List.sum_cons, ← Nat.add_assoc]
      refine ih hnumbers (by omega) (by omega) ?_
        (fun x hx => hplaced x (List.mem_cons_of_mem d hx))
      intro hne
      have hmore : 0 < parts.length := List.length_pos_iff.mpr hne
      rw [hstart, hfull (by omega), Nat.add_sub_cancel, ← Nat.succ_mul]
      congr 1
      omega

/-! ## Accepted rows -/

variable [Platform]

/-- Rows that the trigger accepts pass the checks of a plan. -/
theorem check_of_planRules {blobSize partSize plannedCount : Nat} {planSha256 : Sha256Digest}
    {parts : List UploadPartModel} {ds : List PartDefinition}
    (hranges : parts.map plannedRange = ds.map definedRange)
    (hincreasing : (ds.map PartDefinition.partNumber).Pairwise (· < ·))
    (h : Satisfied (planRules blobSize (some partSize) (some plannedCount)
      (some partPlanSchemaVersion) (some planSha256) parts)) :
    plannedCount = ds.length ∧
      PartPlan.check partPlanSchemaVersion blobSize partSize ds = .ok () := by
  obtain ⟨⟨hselected, hceil⟩, ⟨hlength, hsum, _, _, hvalid⟩, _⟩ := planRules_iff.mp h
  have hcount : plannedCount = ds.length := by
    rw [← hlength, ← List.length_map plannedRange, hranges, List.length_map]
  have hsizes : (ds.map PartDefinition.sizeBytes).sum = blobSize := by
    rw [← hsum]
    have hmapped := congrArg (List.map fun x => x.2.2.1) hranges
    rw [List.map_map, List.map_map] at hmapped
    exact congrArg List.sum hmapped.symm
  have hplaced : ∀ d ∈ ds, 1 ≤ d.partNumber ∧ d.partNumber ≤ plannedCount ∧
      d.offsetBytes = (d.partNumber - 1) * partSize ∧
      (d.partNumber < plannedCount → d.sizeBytes = partSize) ∧
      (d.partNumber = plannedCount → d.sizeBytes + d.offsetBytes = blobSize) := by
    intro d hd
    have hmem : definedRange d ∈ parts.map plannedRange := by
      rw [hranges]
      exact List.mem_map_of_mem hd
    obtain ⟨p, hp, hsame⟩ := List.mem_map.mp hmem
    simp only [plannedRange, definedRange, Prod.mk.injEq] at hsame
    obtain ⟨hnumber, hoffset, hsize, _⟩ := hsame
    have hrow := not_isInvalidRange_iff.mp (hvalid p hp)
    rwa [hnumber, hoffset, hsize] at hrow
  have hnumbers : ds.map PartDefinition.partNumber = List.range' 1 ds.length := by
    refine eq_range'_of_increasing hincreasing (List.length_map _) ?_
    intro n hn
    obtain ⟨d, hd, rfl⟩ := List.mem_map.mp hn
    obtain ⟨hpos, hle, _⟩ := hplaced d hd
    exact ⟨hpos, hcount ▸ hle⟩
  have hselect : selectMultipartPartSize blobSize = .ok partSize := by
    rw [expectedMultipartPartSize_eq] at hselected
    cases hsel : selectMultipartPartSize blobSize with
    | error e =>
        rw [hsel] at hselected
        cases hselected
    | ok selected =>
        rw [hsel] at hselected
        cases hselected
        rfl
  have hlarge : maxSinglePutBytes < blobSize ∧ blobSize ≤ maxMultipartBlobBytes := by
    by_contra hsmall
    rw [selectMultipartPartSize, if_neg hsmall] at hselect
    cases hselect
  have hnonempty : ds ≠ [] := by
    intro hempty
    rw [hempty] at hsizes
    simp only [maxSinglePutBytes] at hlarge
    simp only [List.map_nil, List.sum_nil] at hsizes
    omega
  have hlast : ∃ d ∈ ds, d.partNumber = ds.length := by
    have hpos : 0 < ds.length := List.length_pos_iff.mpr hnonempty
    have hmem : ds.length ∈ ds.map PartDefinition.partNumber := by
      rw [hnumbers, List.mem_range'_1]
      omega
    exact List.mem_map.mp hmem
  have hmany : ds.length ≤ maxParts := by
    obtain ⟨d, _, hnumber⟩ := hlast
    rw [← hnumber]
    exact d.number_le
  -- The rounded-up count leaves at most one part size for the last part.
  have hfit : blobSize ≤ plannedCount * partSize := by
    have hpos : 0 < partSize := by
      by_contra hzero
      have hsize : partSize = 0 := by omega
      rw [hceil, hsize, ceilDiv, Nat.div_zero] at hcount
      exact hnonempty (List.length_eq_zero_iff.mp hcount.symm)
    have hround := Nat.lt_mul_div_succ (blobSize + partSize - 1) hpos
    rw [hceil, ceilDiv]
    rw [Nat.mul_add, Nat.mul_one, Nat.mul_comm] at hround
    omega
  have hsmall : ∀ d ∈ ds, d.sizeBytes ≤ partSize := by
    intro d hd
    obtain ⟨hpos, hle, hoffset, hfull, hend⟩ := hplaced d hd
    rcases Nat.lt_or_ge d.partNumber plannedCount with hlt | hge
    · exact (hfull hlt).le
    · have hnumber : d.partNumber = plannedCount := by omega
      have htotal := hend hnumber
      rw [hoffset, hnumber] at htotal
      have hstep : plannedCount * partSize = (plannedCount - 1) * partSize + partSize := by
        rw [← Nat.succ_mul]
        congr 1
        omega
      omega
  have htotal : (ds.map PartRange.sizeBytes).sum = blobSize := hsizes
  have hloop : validateRangesFrom partSize ds.length ds 1 0 = .ok blobSize := by
    rw [validateRangesFrom_of_placed hnumbers (by omega) (le_refl 1) (fun _ => by simp), htotal,
      Nat.zero_add]
    intro d hd
    obtain ⟨_, _, hoffset, hfull, _⟩ := hplaced d hd
    exact ⟨hoffset, hsmall d hd, fun hlt => hfull (hcount ▸ hlt)⟩
  refine ⟨hcount, ?_⟩
  unfold PartPlan.check
  rw [if_neg (by simp), if_neg (not_not.mpr hlarge), hselect]
  change (if partSize ≠ partSize then _ else validateRanges blobSize partSize ds) = _
  rw [if_neg (by simp), validateRanges, if_neg (by simp [hnonempty, hmany]), hloop]
  change (if blobSize ≠ blobSize then _ else _) = _
  rw [if_neg (by simp)]
  rfl

end RoboLake
