import RoboLake.Registry.Accepted.Parts
import RoboLake.Guarantees.Recovery

/-! # Reconciled listings

A reconciliation makes the parts of a session say what the listing says: VERIFIED
where an observation agrees with the plan and the stored receipt, PENDING elsewhere.
The order of the observations and a repetition of the call change nothing.
-/

namespace RoboLake

open Foundation Work Store Migrations

/-! ## Observations of a number -/

/-- A stored receipt and an observation of the part's number agree with each other and with the
plan. -/
def IsResolved (observations : List ProviderPartObservation) (p : UploadPartModel) : Prop :=
  ∃ o ∈ observations, o.partNumber = p.partNumber ∧ o.sizeBytes = p.sizeBytes ∧
    o.checksumSha256Base64 = p.sha256.checksumBase64 ∧ p.uploadResponseEtag = some o.etag

instance (observations : List ProviderPartObservation) (p : UploadPartModel) :
    Decidable (IsResolved observations p) :=
  inferInstanceAs (Decidable (∃ o ∈ observations, _))

theorem observationOf_eq_some_iff {observations : List ProviderPartObservation}
    (h : distinctParts observations) {n : Nat} {o : ProviderPartObservation} :
    observationOf observations n = some o ↔ o ∈ observations ∧ o.partNumber = n := by
  constructor
  · exact mem_of_observationOf
  · intro ho
    obtain ⟨hmem, hnumber⟩ := ho
    have hsome : (observationOf observations n).isSome = true := by
      rw [observationOf, List.find?_isSome]
      exact ⟨o, hmem, by simpa using hnumber⟩
    obtain ⟨o', ho'⟩ := Option.isSome_iff_exists.mp hsome
    obtain ⟨hmem', hnumber'⟩ := mem_of_observationOf ho'
    rw [ho', List.inj_on_of_nodup_map h hmem' hmem (hnumber'.trans hnumber.symm)]

theorem isConfirmed_iff_isResolved {observations : List ProviderPartObservation}
    {p : UploadPartModel} {observedAt : Timestamp} (h : distinctParts observations)
    (hsound : PartSound p) :
    isConfirmed p (observationOf observations p.partNumber) observedAt = true ↔
      IsResolved observations p := by
  rw [isConfirmed_iff]
  constructor
  · intro hconfirmed
    obtain ⟨o, ho, hsize, hchecksum, hetag, _⟩ := hconfirmed
    obtain ⟨hmem, hnumber⟩ := mem_of_observationOf ho
    exact ⟨o, hmem, hnumber, hsize, hchecksum, hetag⟩
  · intro hresolved
    obtain ⟨o, hmem, hnumber, hsize, hchecksum, hetag⟩ := hresolved
    have hreceipt := hsound.whole (by simp [hasAnyReceiptField, hetag])
    refine ⟨o, (observationOf_eq_some_iff h).mpr ⟨hmem, hnumber⟩, hsize, hchecksum, hetag, ?_⟩
    rw [hreceipt.checksum, hchecksum]

/-! ## Reconciled rows -/

theorem reconciledPart_frame (observations : List ProviderPartObservation) (observedAt : Timestamp)
    (p : UploadPartModel) :
    ∃ state etag checksum size listedAt verifiedAt code,
      reconciledPart observations observedAt p = { p with
        state := state
        listedEtag := etag, listedChecksumSha256Base64 := checksum, listedSizeBytes := size
        providerListedAt := listedAt, verifiedAt := verifiedAt, lastErrorCode := code } := by
  obtain ⟨state, etag, checksum, size, listedAt, verifiedAt, code, hrow⟩ :=
    observedPart_frame p (observationOf observations p.partNumber) observedAt
  unfold reconciledPart resolvedPart
  split
  · rw [hrow]
    exact ⟨_, _, _, _, _, _, _, rfl⟩
  · exact ⟨_, _, _, _, _, _, _, hrow⟩

theorem isResolved_reconciledPart {observations observations' : List ProviderPartObservation}
    {observedAt : Timestamp} {p : UploadPartModel} :
    IsResolved observations (reconciledPart observations' observedAt p) ↔
      IsResolved observations p := by
  obtain ⟨_, _, _, _, _, _, _, hrow⟩ := reconciledPart_frame observations' observedAt p
  rw [hrow]
  rfl

theorem state_reconciledPart {observations : List ProviderPartObservation} {observedAt : Timestamp}
    {p : UploadPartModel} (h : distinctParts observations) (hsound : PartSound p) :
    (reconciledPart observations observedAt p).state =
      if IsResolved observations p then .verified else .pending := by
  have hiff := @isConfirmed_iff_isResolved observations p observedAt h hsound
  unfold reconciledPart isNewlyResolved
  by_cases hresolved : IsResolved observations p
  · rw [if_pos hresolved, hiff.mpr hresolved, Bool.true_and]
    by_cases hverified : p.state = .verified
    · obtain ⟨o, ho, hconfirms⟩ := isConfirmed_iff.mp (hiff.mpr hresolved)
      rw [ho, observedPart_of_confirms hconfirms]
      simp [hverified]
    · simp [hverified, resolvedPart]
  · have hfalse : isConfirmed p (observationOf observations p.partNumber) observedAt = false :=
      Bool.eq_false_iff.mpr fun ht => hresolved (hiff.mp ht)
    rw [if_neg hresolved, hfalse, Bool.false_and]
    exact observedPart_reset hfalse

/-! ## Orders of the observations -/

section Orders

variable [Platform] {observations observations' : List ProviderPartObservation}

omit [Platform] in
theorem observationOf_perm (h : observations.Perm observations')
    (hdistinct : distinctParts observations)
    (n : Nat) : observationOf observations n = observationOf observations' n := by
  have hdistinct' : distinctParts observations' := (h.map _).nodup_iff.mp hdistinct
  apply Option.ext
  intro o
  rw [observationOf_eq_some_iff hdistinct, observationOf_eq_some_iff hdistinct', h.mem_iff]

theorem reconcileParts_perm (h : observations.Perm observations') (sessionId ownerId : UUID)
    (epoch : Nat) (attribution : PartAttribution) :
    reconcileParts sessionId ownerId epoch observations attribution =
      reconcileParts sessionId ownerId epoch observations' attribution := by
  have hdistincts : distinctParts observations ↔ distinctParts observations' :=
    (h.map _).nodup_iff
  by_cases hdistinct : distinctParts observations
  · have hobservations : observationOf observations = observationOf observations' :=
      funext (observationOf_perm h hdistinct)
    have hplanned : ∀ parts, allPlanned observations parts ↔ allPlanned observations' parts := by
      intro parts
      unfold allPlanned
      simp only [h.mem_iff]
    have hnew : isNewlyResolved observations = isNewlyResolved observations' := by
      funext observedAt part
      unfold isNewlyResolved
      rw [hobservations]
    have hresolved : resolvedPart observations = resolvedPart observations' := by
      funext observedAt part
      unfold resolvedPart
      rw [hobservations]
    unfold reconcileParts
    simp only [hdistincts, hobservations, hplanned, hnew, hresolved]
  · have hdistinct' : ¬distinctParts observations' := fun h' => hdistinct (hdistincts.mpr h')
    unfold reconcileParts Work.require
    rw [if_neg hdistinct, if_neg hdistinct']
    rfl

end Orders

/-! ## The call -/

section Call

variable [Platform] {env : Env} {r : Registry} {u : UploadSessionModel} {ownerId : UUID}
  {epoch : Nat} {observations : List ProviderPartObservation} {attribution : PartAttribution}

omit [Platform] in
def newlyVerified (db db' : Database) (sessionId : UUID) : List UploadPartModel :=
  (db.partsOf sessionId).filter fun p =>
    p.state ≠ .verified ∧ (db'.parts.get? (key p)).map UploadPartModel.state = some .verified

omit [Platform] in
def storedReceipt (p : UploadPartModel) :
    Option String × Option (List Char) × Option Timestamp × Option Timestamp :=
  (p.uploadResponseEtag, p.uploadResponseChecksumSha256Base64, p.uploadResponseReceivedAt,
    p.uploadedAt)

theorem PartsMapped.get {sessionId : UUID} {g : UploadPartModel → UploadPartModel}
    {db : Database} {t : Relation UploadPartModel} (h : PartsMapped sessionId g db.parts t)
    {p : UploadPartModel} (hp : p ∈ db.partsOf sessionId) : t.get? (key p) = some (g p) := by
  obtain ⟨hmem, hpu⟩ := Database.mem_partsOf.mp hp
  have hget : db.parts.get? (key p) = some p := Relation.get?_of_mem hmem
  rw [Relation.Mapped.get h hget, if_pos hpu]

theorem transact_reconcileParts_refused
    (h : ¬(distinctParts observations ∧ allPlanned observations (r.db.partsOf u.id))) :
    ∃ e, transact (reconcileParts u.id ownerId epoch observations attribution) env r =
      (.error e, ⟨r.db, r.later env⟩) := by
  cases hcall : transact (reconcileParts u.id ownerId epoch observations attribution) env r with
  | mk result r' =>
      cases result with
      | error e =>
          refine ⟨e, ?_⟩
          rw [transact_error hcall]
      | ok a =>
          exfalso
          apply h
          have hok : (transact (reconcileParts u.id ownerId epoch observations attribution) env
              r).1 = .ok a := by rw [hcall]
          obtain ⟨s, hrun, _⟩ := returned_of_transact hok
          simp only [reconcileParts, run_require_bind_ok] at hrun
          obtain ⟨hdistinct, hrun⟩ := hrun
          obtain ⟨x, hx, _, _, hrun⟩ := run_fetchAdmitted_bind_ok hrun
          simp only [run_clockTimestamp_bind, run_perform_bind_ok, run_select_bind,
            run_require_bind_ok] at hrun
          obtain ⟨s₁, hw, hplanned, _⟩ := hrun
          obtain ⟨_, _, _, rfl⟩ := exec_updateSession_ok.mp hw
          exact ⟨hdistinct, hplanned⟩

/-- What a reconciliation of distinct planned parts commits. -/
theorem reconciled_exactly {sessionId : UUID} (attribution : PartAttribution)
    (h : store.Reachable r) (hu : r.db.sessions.get? sessionId = some u)
    (hstate : u.state = .inProgress)
    (hlease : HoldsAdmission r.db sessionId ownerId epoch (r.now + env.ticks.headD 0))
    (hsizes : ∀ o ∈ observations, o.sizeBytes < bigint) (hdistinct : distinctParts observations)
    (hplanned : allPlanned observations (r.db.partsOf sessionId)) :
    ∃ db observedAt,
      transact (reconcileParts sessionId ownerId epoch observations attribution) env r =
        (.ok ⟨attribution, (newlyVerified r.db db sessionId).length,
          ((newlyVerified r.db db sessionId).map UploadPartModel.sizeBytes).sum⟩,
          ⟨db, r.later env⟩) ∧
      PartsMapped sessionId (reconciledPart observations observedAt) r.db.parts db.parts ∧
      (∀ p ∈ r.db.partsOf sessionId, (reconciledPart observations observedAt p).state =
        if IsResolved observations p then .verified else .pending) ∧
      ∃ reconciledAt activityAt, db.sessions.get? sessionId = some { u with
        lastProviderReconciledAt := some reconciledAt, lastActivityAt := activityAt } := by
  obtain rfl : u.id = sessionId := Relation.key_of_get? hu
  obtain ⟨db, observedAt, hcall, hmapped, hsession⟩ :=
    transact_reconcileParts attribution h hu hstate hlease hdistinct hplanned hsizes
  have hsound : ∀ p ∈ r.db.partsOf u.id, PartSound p := by
    intro p hp
    exact partSound_of_reachable h p (Database.mem_partsOf.mp hp).1
  have hstates : ∀ p ∈ r.db.partsOf u.id, (reconciledPart observations observedAt p).state =
      if IsResolved observations p then .verified else .pending := by
    intro p hp
    exact state_reconciledPart hdistinct (hsound p hp)
  have hnew : (r.db.partsOf u.id).filter (isNewlyResolved observations observedAt) =
      newlyVerified r.db db u.id := by
    apply List.filter_congr
    intro p hp
    rw [hmapped.get hp, Option.map_some, hstates p hp, Bool.eq_iff_iff, isNewlyResolved,
      Bool.and_eq_true, isConfirmed_iff_isResolved hdistinct (hsound p hp)]
    by_cases hresolved : IsResolved observations p
    · simp [hresolved]
    · simp [hresolved]
  rw [hnew] at hcall
  exact ⟨db, observedAt, hcall, hmapped, hstates, hsession⟩

end Call

namespace Sample

/-- The session of the sample is in progress under the lease of owner `400`. -/
def running : List Call := registration ++ [resolution, admission, initiation, provider]

/-- A listed part whose size no column can hold. -/
def vastObservation : ProviderPartObservation where
  partNumber := 1
  sizeBytes := 2 ^ 63
  etag := "etag"
  checksumSha256Base64 := (partDigest 0).checksumBase64
  number_pos := Nat.one_pos
  size_pos := by decide
  etag_ne := etag_ne
  checksum_canonical := checksum_canonical_first

set_option maxRecDepth 100000 in
theorem running_facts :
    (((store.runFrom store.start running).db.sessions.get? 300).any
      fun u => u.state = .inProgress) = true ∧
    HoldsAdmission (store.runFrom store.start running).db 300 400 1
      ((store.runFrom store.start running).now + (env 7).ticks.headD 0) ∧
    allPlanned [vastObservation] ((store.runFrom store.start running).db.partsOf 300) ∧
    allPlanned [observation 0] ((store.runFrom store.start running).db.partsOf 300) ∧
    (transact (reconcileParts 300 400 1 [vastObservation] .reconciled) (env 7)
      (store.runFrom store.start running)).1.isOk = false := by
  rw [running, runFrom_resolution]
  decide +kernel

end Sample

end RoboLake
