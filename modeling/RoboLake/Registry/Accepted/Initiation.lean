import RoboLake.Registry.Accepted.Multipart
import RoboLake.Registry.Accepted.SinglePut

/-! # Initiation calls that return

The plan trigger accepts the rows of a planned session, so an open session whose
Blob may still start takes its initiation steps under its admission lease.
-/

namespace RoboLake

open Foundation Work Store Migrations

/-! ## Ranges of a plan -/

theorem ranges_of_validateRangesFrom {partSizeBytes count : Nat} {parts : List PartDefinition}
    {expected cursor last : Nat} (hcount : expected + parts.length = count + 1)
    (h : validateRangesFrom partSizeBytes count parts expected cursor = .ok last) :
    last = cursor + (parts.map PartDefinition.sizeBytes).sum ∧
      ∀ d ∈ parts, expected ≤ d.partNumber ∧ d.partNumber ≤ count ∧
        d.offsetBytes = cursor + (d.partNumber - expected) * partSizeBytes ∧
        (d.partNumber < count → d.sizeBytes = partSizeBytes) ∧ d.sizeBytes ≤ partSizeBytes ∧
        (d.partNumber = count → d.offsetBytes + d.sizeBytes = last) := by
  induction parts generalizing expected cursor with
  | nil =>
      simp only [validateRangesFrom, Except.ok.injEq] at h
      refine ⟨by simp [h], ?_⟩
      intro d hd
      cases hd
  | cons part parts ih =>
      simp only [validateRangesFrom, PartRange.partNumber, PartRange.offsetBytes,
        PartRange.sizeBytes] at h
      split at h
      · cases h
      · rename_i hplace
        split at h
        · cases h
        · rename_i hfits
          split at h
          · cases h
          · rename_i hfull
            simp only [List.length_cons] at hcount
            obtain ⟨hlast, hrest⟩ := ih (by omega) h
            simp only [not_or, not_not, ne_eq] at hplace
            obtain ⟨hnumber, hoffset⟩ := hplace
            refine ⟨by simp only [List.map_cons, List.sum_cons]; omega, ?_⟩
            intro d hd
            rcases List.mem_cons.mp hd with rfl | hd
            · have hsum : d.partNumber = count → parts = [] := by
                intro heq
                apply List.eq_nil_of_length_eq_zero
                omega
              refine ⟨by omega, by omega, by rw [hnumber, hoffset]; simp, by omega, by omega, ?_⟩
              intro heq
              rw [hsum heq] at hlast
              simp only [List.map_nil, List.sum_nil] at hlast
              omega
            · obtain ⟨hge, hle, hplaced, hsize, hsmall, hend⟩ := hrest d hd
              have hgap : d.partNumber - expected = d.partNumber - (expected + 1) + 1 := by omega
              have hpart : part.sizeBytes = partSizeBytes := by
                by_contra hne
                exact hfull ⟨by omega, hne⟩
              refine ⟨by omega, hle, ?_, hsize, hsmall, hend⟩
              rw [hplaced, hgap, hpart, Nat.succ_mul]
              omega

/-- What the checks of a plan say about its numbers. -/
structure PartPlan.Covers (plan : PartPlan) : Prop where
  selected : selectMultipartPartSize plan.blobSizeBytes = .ok plan.partSizeBytes
  large : maxSinglePutBytes < plan.blobSizeBytes ∧ plan.blobSizeBytes ≤ maxMultipartBlobBytes
  nonempty : 0 < plan.partCount
  total : (plan.parts.map PartDefinition.sizeBytes).sum = plan.blobSizeBytes
  placed : ∀ d ∈ plan.parts, 1 ≤ d.partNumber ∧ d.partNumber ≤ plan.partCount ∧
    d.offsetBytes = (d.partNumber - 1) * plan.partSizeBytes ∧
    (d.partNumber < plan.partCount → d.sizeBytes = plan.partSizeBytes) ∧
    d.sizeBytes ≤ plan.partSizeBytes ∧
    (d.partNumber = plan.partCount → d.offsetBytes + d.sizeBytes = plan.blobSizeBytes)

theorem PartPlan.covers (plan : PartPlan) : plan.Covers := by
  have h := plan.valid
  unfold PartPlan.check at h
  split at h
  · cases h
  · split at h
    · cases h
    · rename_i hlarge
      obtain ⟨selected, hselected, h⟩ := Except.bind_ok.mp h
      split at h
      · cases h
      · rename_i hsize
        unfold validateRanges at h
        split at h
        · cases h
        · rename_i hlength
          obtain ⟨cursor, hranges, h⟩ := Except.bind_ok.mp h
          split at h
          · cases h
          · rename_i hcursor
            simp only [not_or, List.isEmpty_iff, not_not] at hlength hsize hcursor hlarge
            have hpositive : 0 < plan.parts.length := List.length_pos_iff.mpr (by
              simpa using hlength.1)
            obtain ⟨hlast, hplaced⟩ := ranges_of_validateRangesFrom (by omega) hranges
            refine ⟨hsize ▸ hselected, hlarge, hpositive, by omega, ?_⟩
            intro d hd
            obtain ⟨hge, hle, hoffset, hfull, hsmall, hend⟩ := hplaced d hd
            rw [Nat.zero_add] at hoffset
            exact ⟨hge, hle, hoffset, hfull, hsmall, fun heq => (hend heq).trans hcursor⟩

theorem PartPlan.count_eq (plan : PartPlan) :
    plan.partCount = (plan.blobSizeBytes + plan.partSizeBytes - 1) / plan.partSizeBytes := by
  have hcovers := plan.covers
  have hnumbers := plan.numbers
  have hpositive := hcovers.nonempty
  have hmem : plan.partCount ∈ plan.parts.map PartDefinition.partNumber := by
    rw [hnumbers, List.mem_range'_1]
    omega
  obtain ⟨d, hd, hnumber⟩ := List.mem_map.mp hmem
  obtain ⟨_, _, hoffset, _, hsmall, hend⟩ := hcovers.placed d hd
  have htotal := hend hnumber
  rw [hoffset, hnumber] at htotal
  have hsize := d.size_pos
  have hstep : plan.partCount * plan.partSizeBytes =
      (plan.partCount - 1) * plan.partSizeBytes + plan.partSizeBytes := by
    rw [← Nat.succ_mul]
    congr 1
    omega
  symm
  apply Nat.div_eq_of_lt_le
  · omega
  · rw [Nat.succ_mul]
    omega

/-- The loop of the database computes what the loop of the domain computes. -/
theorem expectedPartSizeFrom_eq (sizeBytes rounds partSize : Nat) :
    expectedPartSizeFrom sizeBytes rounds partSize =
      (selectPartSizeFrom sizeBytes rounds partSize).toOption := by
  induction rounds generalizing partSize with
  | zero => rfl
  | succ rounds ih =>
      simp only [selectPartSizeFrom, expectedPartSizeFrom]
      by_cases hmany : ceilDiv sizeBytes partSize > maxParts
      · have hmany' : (sizeBytes + partSize - 1) / partSize > 10000 := hmany
        rw [if_pos hmany, if_pos hmany']
        by_cases hlarge : partSize * 2 > maxPartBytes
        · have hlarge' : partSize * 2 > 5368709120 := hlarge
          rw [if_pos hlarge, if_pos hlarge']
          rfl
        · have hlarge' : ¬partSize * 2 > 5368709120 := hlarge
          rw [if_neg hlarge, if_neg hlarge']
          exact ih (partSize * 2)
      · have hfew : ¬(sizeBytes + partSize - 1) / partSize > 10000 := hmany
        rw [if_neg hmany, if_neg hfew]
        rfl

theorem expectedMultipartPartSize_eq (blobSize : Nat) :
    expectedMultipartPartSize blobSize = (selectMultipartPartSize blobSize).toOption := by
  unfold expectedMultipartPartSize selectMultipartPartSize
  by_cases hrange : maxSinglePutBytes < blobSize ∧ blobSize ≤ maxMultipartBlobBytes
  · have hlimits : 5000000000 < blobSize ∧ blobSize ≤ 5000000000000 := hrange
    rw [if_pos hrange, if_neg (by omega), expectedPartSizeFrom_eq]
    rfl
  · have hlimits : ¬(5000000000 < blobSize ∧ blobSize ≤ 5000000000000) := hrange
    rw [if_neg hrange, if_pos (by omega)]
    rfl

theorem PartPlan.expected (plan : PartPlan) :
    expectedMultipartPartSize plan.blobSizeBytes = some plan.partSizeBytes := by
  rw [expectedMultipartPartSize_eq, plan.covers.selected]
  rfl

/-! ## The plan trigger -/

variable [Platform] {env : Env} {r : Registry}

omit [Platform] in
theorem storedPlanText_eq {schemaVersion blobSize partSize plannedCount : Nat}
    {parts : List UploadPartModel} (h : parts ≠ []) :
    storedPlanText (some schemaVersion) blobSize (some partSize) (some plannedCount) parts =
      some (PartPlan.planJson schemaVersion blobSize partSize plannedCount (parts.map fun p =>
        PartPlan.partJson p.partNumber p.offsetBytes p.sizeBytes p.sha256)) := by
  simp only [storedPlanText, Option.bind_eq_bind, Option.bind_some, if_neg h]
  rfl

omit [Platform] in
/-- A part row stands where its number says. -/
theorem not_isInvalidRange_iff {blobSize partSize plannedCount : Nat} {p : UploadPartModel} :
    ¬(isInvalidRange blobSize (some partSize) (some plannedCount) p).Holds ↔
      1 ≤ p.partNumber ∧ p.partNumber ≤ plannedCount ∧
        p.offsetBytes = (p.partNumber - 1) * partSize ∧
        (p.partNumber < plannedCount → p.sizeBytes = partSize) ∧
        (p.partNumber = plannedCount → p.sizeBytes + p.offsetBytes = blobSize) := by
  simp only [isInvalidRange, Ternary.lift, Ternary.holds_or, Ternary.holds_and, Ternary.holds_of,
    not_or, not_and, not_not, not_lt, gt_iff_lt, ne_eq]

theorem planRules_iff {blobSize partSize plannedCount schemaVersion : Nat}
    {planSha256 : Sha256Digest} {parts : List UploadPartModel} :
    Satisfied (planRules blobSize (some partSize) (some plannedCount) (some schemaVersion)
        (some planSha256) parts) ↔
      (expectedMultipartPartSize blobSize = some partSize ∧
        plannedCount = ceilDiv blobSize partSize) ∧
      (parts.length = plannedCount ∧ (parts.map UploadPartModel.sizeBytes).sum = blobSize ∧
        (∀ n ∈ (parts.map UploadPartModel.partNumber).min?, n = 1) ∧
        (∀ n ∈ (parts.map UploadPartModel.partNumber).max?, n = plannedCount) ∧
        ∀ p ∈ parts,
          ¬(isInvalidRange blobSize (some partSize) (some plannedCount) p).Holds) ∧
      ∀ text ∈ storedPlanText (some schemaVersion) blobSize (some partSize) (some plannedCount)
        parts, sha256 text = planSha256 := by
  simp only [planRules, satisfied_cons, satisfied_nil, and_true, Rule.violated_raiseIf, ceilDiv,
    Ternary.holds_or, Ternary.holds_of, Ternary.holds_lift, Ternary.holds_lift₂, not_or, not_and,
    not_exists, not_not, ne_eq, Option.mem_def, Option.some.injEq, forall_eq']
  constructor
  · intro h
    obtain ⟨_, ⟨hsize, hcount⟩, ⟨hlength, hsum, hmin, hmax, hrows⟩, htext⟩ := h
    exact ⟨⟨hsize.symm, hcount _ _ rfl rfl⟩,
      ⟨hlength, hsum, hmin, fun n hn => hmax n _ hn rfl, hrows⟩,
      fun text htexts => htext text _ htexts rfl⟩
  · intro h
    obtain ⟨⟨hsize, hcount⟩, ⟨hlength, hsum, hmin, hmax, hrows⟩, htext⟩ := h
    refine ⟨?_, ⟨hsize.symm, ?_⟩, ⟨hlength, hsum, hmin, ?_, hrows⟩, ?_⟩
    · rw [hsize]
      intro hclash
      cases hclash
    · rintro count size rfl rfl
      exact hcount
    · rintro n count hn rfl
      exact hmax n hn
    · rintro text digest htexts rfl
      exact htext text htexts

theorem planRules_of_ranges {plan : PartPlan} {parts : List UploadPartModel}
    (h : parts.map plannedRange = plan.parts.map definedRange) :
    Satisfied (planRules plan.blobSizeBytes (some plan.partSizeBytes) (some plan.partCount)
      (some plan.schemaVersion) (some plan.sha256) parts) := by
  have hcovers := plan.covers
  have hcolumn {γ : Type} (f : Nat × Nat × Nat × Sha256Digest → γ) :
      parts.map (fun p => f (plannedRange p)) = plan.parts.map fun d => f (definedRange d) := by
    have hmapped := congrArg (List.map f) h
    rw [List.map_map, List.map_map] at hmapped
    exact hmapped
  have hnumbers : parts.map UploadPartModel.partNumber = List.range' 1 plan.partCount := by
    rw [← plan.numbers]
    exact hcolumn fun x => x.1
  have hsizes : (parts.map UploadPartModel.sizeBytes).sum = plan.blobSizeBytes := by
    rw [← hcovers.total]
    exact congrArg List.sum (hcolumn fun x => x.2.2.1)
  have hlength : parts.length = plan.partCount := by
    simpa [PartPlan.partCount] using congrArg List.length h
  have hparts : parts ≠ [] := by
    intro hempty
    rw [hempty] at hlength
    exact absurd hcovers.nonempty (by rw [← hlength]; simp)
  have htext : storedPlanText (some plan.schemaVersion) plan.blobSizeBytes
      (some plan.partSizeBytes) (some plan.partCount) parts = some plan.canonicalBytes := by
    rw [storedPlanText_eq hparts, PartPlan.canonicalBytes]
    exact congrArg _ (congrArg _ (hcolumn fun x => PartPlan.partJson x.1 x.2.1 x.2.2.1 x.2.2.2))
  have hplaced : ∀ p ∈ parts, ¬(isInvalidRange plan.blobSizeBytes (some plan.partSizeBytes)
      (some plan.partCount) p).Holds := by
    intro p hp
    have hrange : plannedRange p ∈ plan.parts.map definedRange := h ▸ List.mem_map_of_mem hp
    obtain ⟨d, hd, hsame⟩ := List.mem_map.mp hrange
    simp only [plannedRange, definedRange, Prod.mk.injEq] at hsame
    obtain ⟨hnumber, hoffset, hsize, _⟩ := hsame
    obtain ⟨hge, hle, hplace, hfull, _, hend⟩ := hcovers.placed d hd
    rw [hnumber] at hge hle hplace hfull hend
    rw [hoffset] at hplace hend
    rw [hsize] at hfull hend
    rw [not_isInvalidRange_iff]
    refine ⟨hge, hle, hplace, hfull, ?_⟩
    intro heq
    have := hend heq
    omega
  have hmin : (List.range' 1 plan.partCount).min? = some 1 := by
    rw [List.min?_eq_some_iff]
    simp only [List.mem_range'_1]
    have := hcovers.nonempty
    exact ⟨by omega, fun b hb => hb.1⟩
  have hmax : (List.range' 1 plan.partCount).max? = some plan.partCount := by
    rw [List.max?_eq_some_iff]
    simp only [List.mem_range'_1]
    have := hcovers.nonempty
    exact ⟨by omega, fun b hb => by omega⟩
  rw [planRules_iff, hnumbers, hsizes, hlength, htext, hmin, hmax]
  refine ⟨⟨plan.expected, plan.count_eq⟩, ⟨rfl, rfl, ?_, ?_, hplaced⟩, ?_⟩
  · intro n hn
    exact (Option.some.inj hn).symm
  · intro n hn
    exact (Option.some.inj hn).symm
  · intro text hcanonical
    rw [← Option.some.inj hcanonical]
    rfl

/-- The plan trigger accepts a planned session. -/
theorem validateMultipartPlan_of_planned {db : Database} {u : UploadSessionModel} {plan : PartPlan}
    (h : Planned db u plan) (hu : db.sessions.get? u.id = some u)
    (hm : u.strategy = .multipart) : Satisfied (validateMultipartPlan db u.id) := by
  obtain ⟨b, hb, hsize⟩ := h.blob
  unfold validateMultipartPlan
  simp only [hu, hm, if_true, hb, h.partSize, h.count, h.schemaVersion, h.sha256]
  rw [hsize]
  exact planRules_of_ranges h.ranges

/-! ## Rows of an initiation -/

omit [Platform] in
theorem provider_of_unstarted {u : UploadSessionModel} (h : Satisfied (sessionChecks u))
    (hm : u.strategy = .multipart) (hstate : u.state = .created ∨ u.state = .initiating) :
    u.providerUploadId = none := by
  simp only [sessionChecks, satisfied_cons, Rule.violated_check] at h
  obtain ⟨_, _, _, _, _, _, _, _, hprovider, _⟩ := h
  by_contra hsome
  apply hprovider
  rcases hstate with hstate | hstate
  · simp [providerIdCheck, hm, hstate, hsome]
  · simp [providerIdCheck, hm, hstate, hsome]

theorem sessionRules_of_begin {db : Database} {u : UploadSessionModel} {plan : PartPlan}
    {startedAt activityAt : Timestamp} (h : Lawful db) (hu : db.sessions.get? u.id = some u)
    (hm : u.strategy = .multipart) (hstate : u.state = .created) (hplan : Planned db u plan) :
    Satisfied (guardUploadSession db u { u with
        state := .initiating, initiationStartedAt := some startedAt,
        lastActivityAt := activityAt } ++
      sessionConstraints db { u with
        state := .initiating, initiationStartedAt := some startedAt
        lastActivityAt := activityAt }) := by
  have hchecks := h.session_checks u (Relation.mem_of_get? hu)
  have hprovider := provider_of_unstarted hchecks hm (Or.inl hstate)
  have htrigger := validateMultipartPlan_of_planned hplan hu hm
  rw [satisfied_append]
  constructor
  · simp [guardUploadSession, guardMultipartSession, hm, hstate, htrigger, multipartEdges]
  · refine h.sessionConstraints_kept hu rfl rfl rfl (fun _ => by rw [hstate]; rfl) ?_
    simp only [sessionChecks, satisfied_cons, satisfied_nil, and_true, Rule.violated_range,
      Rule.violated_check] at hchecks ⊢
    obtain ⟨h₁, h₂, h₃, h₄, h₅, h₆, h₇, h₈, _, h₁₀⟩ := hchecks
    refine ⟨h₁, h₂, h₃, h₄, h₅, h₆, h₇, h₈, ?_, h₁₀⟩
    simp [providerIdCheck, hm, hprovider]

theorem sessionRules_of_record {db : Database} {u : UploadSessionModel} {provider : String}
    {activityAt : Timestamp} (h : Lawful db) (hu : db.sessions.get? u.id = some u)
    (hm : u.strategy = .multipart) (hstate : u.state = .initiating) (hprovider : provider ≠ "") :
    Satisfied (guardUploadSession db u { u with
        state := .inProgress, providerUploadId := some provider, lastActivityAt := activityAt } ++
      sessionConstraints db { u with
        state := .inProgress, providerUploadId := some provider
        lastActivityAt := activityAt }) := by
  have hchecks := h.session_checks u (Relation.mem_of_get? hu)
  have hnone := provider_of_unstarted hchecks hm (Or.inr hstate)
  rw [satisfied_append]
  constructor
  · simp [guardUploadSession, guardMultipartSession, hm, hstate, hnone, multipartEdges]
  · refine h.sessionConstraints_kept hu rfl rfl rfl (fun _ => by rw [hstate]; rfl) ?_
    simp only [sessionChecks, satisfied_cons, satisfied_nil, and_true, Rule.violated_range,
      Rule.violated_check] at hchecks ⊢
    obtain ⟨h₁, h₂, h₃, h₄, h₅, h₆, h₇, h₈, _, h₁₀⟩ := hchecks
    refine ⟨h₁, h₂, h₃, h₄, h₅, h₆, h₇, ?_, ?_, h₁₀⟩
    · simpa [multipartPlanCheck, hm] using h₈
    · simp [providerIdCheck, hm, hprovider]

/-! ## Calls of an initiation -/

theorem ends_fetchAdmitted {s : TxState} {sessionId ownerId : UUID} {epoch : Nat}
    {state : SessionState} {e : Failure} {u : UploadSessionModel}
    {Q : UploadSessionModel → TxState → Prop} (hu : s.db.sessions.get? sessionId = some u)
    (hstate : u.state = state) (hlease : HoldsAdmission s.db sessionId ownerId epoch s.ticked.now)
    (hQ : Q u s.ticked) : Ends (fetchAdmitted sessionId ownerId epoch state e) s Q := by
  simp only [fetchAdmitted, ends_bind, ends_clockTimestamp, ends_fetch,
    Option.filter_eq_some_iff, decide_eq_true_eq]
  exact ⟨u, ⟨hu, hstate, hlease⟩, hQ⟩

/-- The current owner of a CREATED session begins its initiation. -/
theorem transact_beginProviderInitiation {u : UploadSessionModel} {ownerId : UUID} {epoch : Nat}
    (h : store.Reachable r) (hu : r.db.sessions.get? u.id = some u)
    (hm : u.strategy = .multipart) (hstate : u.state = .created)
    (hlease : HoldsAdmission r.db u.id ownerId epoch (r.now + env.ticks.headD 0)) :
    ∃ db startedAt activityAt, transact (beginProviderInitiation u.id ownerId epoch) env r =
      (.ok (), ⟨db, r.later env⟩) ∧ db.sessions.get? u.id = some { u with
        state := .initiating, initiationStartedAt := some startedAt
        lastActivityAt := activityAt } := by
  have hmem := Relation.mem_of_get? hu
  have hlawful := (committed_of_reachable h).lawful
  have hactive : u.state.isActive = true := by
    rw [hstate]
    rfl
  obtain ⟨plan, hplan⟩ := planned_of_reachable h hmem hm
  obtain ⟨b, hb⟩ := hlawful.session_blob.get hmem
  have hfits := (coupled_of_reachable h).fits u hmem b hb
  have hopen : b.state ≠ .verifying ∧ b.state ≠ .available := by
    rw [hstate] at hfits
    rcases hfits with hb | hb | ⟨_, hb⟩
    · rw [hb]
      simp
    · rw [hb]
      simp
    · rw [hb]
      simp
  have hcall : ∃ a db, transact (beginProviderInitiation u.id ownerId epoch) env r =
      (.ok a, ⟨db, r.later env⟩) ∧ ∃ startedAt activityAt,
        db.sessions.get? u.id = some { u with
          state := .initiating, initiationStartedAt := some startedAt
          lastActivityAt := activityAt } := by
    refine transact_of_ends ?_
    rw [beginProviderInitiation, ends_bind]
    refine ends_fetchAdmitted hu hstate hlease ?_
    simp only [ends_bind, ends_clockTimestamp, ends_perform]
    refine ⟨_, exec_updateSession_ok.mpr ⟨u, hu, sessionRules_of_begin hlawful hu hm hstate
      hplan, rfl⟩, ⟨_, _, Relation.get?_replace_self hu⟩, ?_⟩
    intro t ht clock hclock
    have htouched : t = .session u.blobId := by simpa using ht
    have hnow : r.now ≤ clock :=
      ((elapses_ticked _).trans ((elapses_ticked _).trans (elapses_ticked _))).now_le.trans hclock
    rw [htouched]
    exact publication_of_active h hu hactive rfl rfl rfl hb hopen.1 hopen.2 hnow
  obtain ⟨_, db, hcall, startedAt, activityAt, hsession⟩ := hcall
  exact ⟨db, startedAt, activityAt, hcall, hsession⟩

/-- The current owner of an INITIATING session records its provider upload while the Blob may
still start. -/
theorem transact_recordProviderUpload {u : UploadSessionModel} {b : BlobModel} {ownerId : UUID}
    {epoch : Nat} {provider : String} (h : store.Reachable r)
    (hu : r.db.sessions.get? u.id = some u) (hm : u.strategy = .multipart)
    (hstate : u.state = .initiating) (hb : r.db.blobs.get? u.blobId = some b)
    (hblob : b.state = .pending ∨ b.state = .uploading) (hprovider : provider ≠ "")
    (hlease : HoldsAdmission r.db u.id ownerId epoch (r.now + env.ticks.headD 0)) :
    ∃ db activityAt, transact (recordProviderUpload u.id ownerId epoch provider) env r =
      (.ok (), ⟨db, r.later env⟩) ∧ db.sessions.get? u.id = some { u with
        state := .inProgress, providerUploadId := some provider
        lastActivityAt := activityAt } := by
  have hmem := Relation.mem_of_get? hu
  have hlawful := (committed_of_reachable h).lawful
  have hbid : b.id = u.blobId := Relation.key_of_get? hb
  have hactive : u.state.isActive = true := by
    rw [hstate]
    rfl
  have hcall : ∃ a db, transact (recordProviderUpload u.id ownerId epoch provider) env r =
      (.ok a, ⟨db, r.later env⟩) ∧ ∃ activityAt, db.sessions.get? u.id = some { u with
        state := .inProgress, providerUploadId := some provider
        lastActivityAt := activityAt } := by
    refine transact_of_ends ?_
    simp only [recordProviderUpload, ends_bind, ends_require]
    refine ⟨hprovider, ends_fetchAdmitted hu hstate hlease ?_⟩
    rw [ends_clockTimestamp]
    refine @ends_updateSession _ _ _ u _ hlawful hu
      (sessionRules_of_record hlawful hu hm hstate hprovider) fun hlawful₁ => ?_
    rw [ends_fetch]
    have hnow : ∀ clock, (beginTx env r).ticked.ticked.now ≤ clock → r.now ≤ clock :=
      fun _ hclock => ((elapses_ticked _).trans (elapses_ticked _)).now_le.trans hclock
    refine ⟨b, hb, ?_⟩
    by_cases hpending : b.state = .pending
    · rw [if_pos hpending]
      have hb' : r.db.blobs.get? b.id = some b := hbid ▸ hb
      have hdetail : ∀ d ∈ b.failureDetail, d.length ≤ 512 := by
        have hchecks := hlawful.blob_checks b (Relation.mem_of_get? hb)
        simp only [blobChecks, satisfied_cons, Rule.violated_range] at hchecks
        exact hchecks.2.1
      refine @ends_flushBlob _ _ _ b { b with state := .uploading } hlawful₁ hb' ?_ ?_
      · refine blobRules_of_edge hlawful₁ hb' rfl rfl rfl hdetail ?_ ?_
        · rw [hpending]
          simp
        · simp [hpending, blobEdges]
      · intro ts hts _
        refine ⟨⟨_, Relation.get?_replace_self hu⟩, ?_⟩
        have hself : (r.db.blobs.replace { b with state := .uploading }).get? u.blobId =
            some { b with state := .uploading } := by
          rw [← hbid]
          exact Relation.get?_replace_self (r := { b with state := .uploading }) hb'
        intro t ht clock hclock
        have hsame : Touched.blob b.id = .blob u.blobId := congrArg Touched.blob hbid
        have htouched : t = .session u.blobId ∨ t = .blob u.blobId := by
          rcases List.mem_append.mp ht with ht | ht
          · exact Or.inl (by simpa using ht)
          · exact Or.inr ((hts t ht).trans hsame)
        rcases htouched with rfl | rfl
        · exact publication_of_active h hu hactive rfl rfl rfl hself (by simp) (by simp)
            (hnow clock hclock)
        · exact publication_of_active h hu hactive rfl rfl rfl hself (by simp) (by simp)
            (hnow clock hclock)
    · rw [if_neg hpending, ends_require]
      have huploading := hblob.resolve_left hpending
      refine ⟨huploading, ⟨_, Relation.get?_replace_self hu⟩, ?_⟩
      intro t ht clock hclock
      have htouched : t = .session u.blobId := by simpa using ht
      rw [htouched]
      refine publication_of_active h hu hactive rfl rfl rfl hb ?_ ?_ (hnow clock hclock)
      · rw [huploading]
        simp
      · rw [huploading]
        simp
  obtain ⟨_, db, hcall, activityAt, hsession⟩ := hcall
  exact ⟨db, activityAt, hcall, hsession⟩

end RoboLake
