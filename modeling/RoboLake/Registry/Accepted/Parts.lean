import RoboLake.Registry.Accepted.Initiation
import RoboLake.Registry.Receipts

/-! # Part rows that are accepted

A part row may be overwritten by one that keeps its plan, moves along an edge of the
state machine and has a whole receipt wherever it shows progress. Observations keep
all of this, so a reconciliation under its fence stores every part.
-/

namespace RoboLake

open Foundation Work Store Migrations

/-! ## Checksums -/

theorem isChecksumShape_checksumBase64 (d : Sha256Digest) :
    isChecksumShape d.checksumBase64 = true := by
  have hlength := d.decode_value.2.2
  have hmod : d.rawBytes.length % 3 = 2 := by rw [hlength]
  obtain ⟨cs, hencode, hcount, hvalues⟩ := Base64.encode_shape hmod
  have hcount' : cs.length = 43 := by
    rw [hcount, hlength]
  unfold isChecksumShape Sha256Digest.checksumBase64
  rw [hencode, List.take_left' hcount', List.drop_left' hcount', List.length_append, hcount']
  simpa using hvalues

theorem isNoncanonicalBase64_checksumBase64 (d : Sha256Digest) :
    isNoncanonicalBase64 d.checksumBase64 = false := by
  unfold isNoncanonicalBase64 Sha256Digest.checksumBase64
  rw [Base64.decode_encode]
  simp

theorem not_holds_checksumDiffers_of {d : Sha256Digest} {checksum : Option (List Char)}
    (h : ∀ c, checksum = some c → c = d.checksumBase64) : ¬(checksumDiffers d checksum).Holds := by
  intro hholds
  obtain ⟨c, hc, hdiffers⟩ := Ternary.holds_lift.mp hholds
  rw [h c hc] at hdiffers
  rcases hdiffers with hdiffers | hdiffers
  · exact hdiffers rfl
  · rw [isNoncanonicalBase64_checksumBase64] at hdiffers
    cases hdiffers

/-! ## One row -/

/-- The new row keeps the plan of the old one and stands on a whole receipt. -/
structure PartUpdated (u : UploadSessionModel) (old new : UploadPartModel) : Prop where
  session : new.uploadSessionId = old.uploadSessionId
  range : plannedRange new = plannedRange old
  edge : new.state = old.state ∨ (old.state, new.state) ∈ partEdges
  sound : PartSound new
  checksums : ChecksumsPlanned new
  listedSize : ∀ n ∈ new.listedSizeBytes, n < bigint
  observed : new.state = .verified → new.providerListedAt ≠ none ∧ new.verifiedAt ≠ none
  receipt : old.state ≠ .pending → new.state ≠ .pending →
    new.uploadResponseEtag = old.uploadResponseEtag ∧
      new.uploadResponseChecksumSha256Base64 = old.uploadResponseChecksumSha256Base64 ∧
      new.uploadResponseReceivedAt = old.uploadResponseReceivedAt
  reset : old.state ≠ .pending → new.state = .pending → u.lastProviderReconciledAt ≠ none

theorem partChecks_of_step {u : UploadSessionModel} {old new : UploadPartModel}
    (h : PartUpdated u old new) (hold : Satisfied (partChecks old)) :
    Satisfied (partChecks new) := by
  obtain ⟨hnumber, hoffset, hsize, _⟩ : new.partNumber = old.partNumber ∧
      new.offsetBytes = old.offsetBytes ∧ new.sizeBytes = old.sizeBytes ∧
      new.sha256 = old.sha256 := by
    simpa [plannedRange] using h.range
  simp only [partChecks, satisfied_cons, Rule.violated_range, Rule.violated_check, satisfied_nil,
    and_true, Ternary.refuted_of, not_not] at hold ⊢
  obtain ⟨hoffsets, hsizes, _, hnumbers, hpositive, _, _⟩ := hold
  refine ⟨hoffset ▸ hoffsets, hsize ▸ hsizes, h.listedSize, hnumber ▸ hnumbers,
    hsize ▸ hpositive, ?_, ?_⟩
  · intro hrefuted
    simp only [uploadedReceiptCheck, Ternary.refuted_or, Ternary.refuted_and, Ternary.refuted_of,
      Ternary.refuted_lift] at hrefuted
    obtain ⟨hstate, hrefuted⟩ := hrefuted
    obtain ⟨⟨etag, hetag, hne⟩, hchecksum, hreceived, huploaded⟩ := h.sound.receipt hstate
    rw [hetag, hchecksum] at hrefuted
    simp [hne, hreceived, huploaded, isChecksumShape_checksumBase64] at hrefuted
  · intro hrefuted
    simp only [verifiedObservationCheck, Ternary.refuted_or, Ternary.refuted_and,
      Ternary.refuted_of, Ternary.refuted_lift, Ternary.refuted_lift₂, not_not] at hrefuted
    obtain ⟨hstate, hrefuted⟩ := hrefuted
    have hpending : new.state ≠ .pending := by
      rw [hstate]
      simp
    obtain ⟨⟨etag, hetag, hne⟩, hchecksum, _, _⟩ := h.sound.receipt hpending
    obtain ⟨hlisted, hlistedChecksum, hlistedSize⟩ := h.sound.listing hstate
    obtain ⟨hlistedAt, hverifiedAt⟩ := h.observed hstate
    rw [hlisted, hetag, hchecksum, hlistedChecksum, hlistedSize] at hrefuted
    simp [hlistedAt, hverifiedAt] at hrefuted

variable [Platform]

theorem partRules_of_step {db : Database} {u : UploadSessionModel} {old new : UploadPartModel}
    (h : Lawful db) (hu : db.sessions.get? old.uploadSessionId = some u)
    (hm : u.strategy = .multipart) (hactive : u.state.isActive = true)
    (hold : db.parts.get? (key new) = some old) (hstep : PartUpdated u old new) :
    Satisfied (guardUpdatePart db old new ++ partConstraints db new) := by
  have hmem := Relation.mem_of_get? hold
  have hkey : key old = key new := Relation.key_of_get? hold
  have hrange : new.partNumber = old.partNumber ∧ new.offsetBytes = old.offsetBytes ∧
      new.sizeBytes = old.sizeBytes ∧ new.sha256 = old.sha256 := by
    simpa [plannedRange] using hstep.range
  obtain ⟨hnumber, hoffset, hsize, hsha⟩ := hrange
  have hparent : db.sessions.get? new.uploadSessionId = some u := by
    rw [hstep.session]
    exact hu
  rw [satisfied_append]
  constructor
  · simp only [guardUpdatePart, hparent, satisfied_cons, Rule.violated_raiseIf, satisfied_nil,
      and_true, requireMultipartParent, Ternary.holds_of, Ternary.holds_and, Ternary.holds_lift,
      Option.map_some, Option.bind_some]
    refine ⟨by simp [hm], ?_, ?_, ?_, not_holds_checksumDiffers_of hstep.checksums.1,
      not_holds_checksumDiffers_of hstep.checksums.2, ?_, ?_⟩
    · simp [hstep.session, hnumber, hoffset, hsize, hsha]
    · intro hterminal
      obtain ⟨⟨x, hx, hended⟩, _⟩ := hterminal
      cases hx
      rcases hended with hended | hended | hended | hended
      · rw [hended] at hactive
        cases hactive
      · rw [hended] at hactive
        cases hactive
      · rw [hended] at hactive
        cases hactive
      · rw [hended] at hactive
        cases hactive
    · intro hillegal
      rcases hstep.edge with hsame | hedge
      · exact hillegal.1 hsame
      · exact hillegal.2 hedge
    · intro hchanged
      obtain ⟨hprogress, hnew, hdiffers⟩ := hchanged
      have hpending : old.state ≠ .pending := by
        intro hpending
        rw [hpending] at hprogress
        simp at hprogress
      obtain ⟨hetag, hchecksum, hreceived⟩ := hstep.receipt hpending hnew
      simp [hetag, hchecksum, hreceived] at hdiffers
    · intro hbare
      obtain ⟨hprogress, hnew, hnone⟩ := hbare
      have hpending : old.state ≠ .pending := by
        intro hpending
        rw [hpending] at hprogress
        simp at hprogress
      exact hstep.reset hpending hnew hnone
  · simp only [partConstraints, satisfied_append, satisfied_cons, Rule.violated_unique,
      Rule.violated_foreignKey, satisfied_nil, and_true]
    refine ⟨partChecks_of_step hstep (h.part_checks old hmem), ?_, by rw [hparent]; rfl⟩
    intro hclash
    obtain ⟨p, hp, hne, hsession, hplace⟩ := hclash
    have hsame : p = old := h.part_offset p hp old hmem (new.uploadSessionId, new.offsetBytes)
      (by rw [offsetKey, hsession, hplace]) (by rw [offsetKey, hstep.session, hoffset])
    exact hne (by rw [hsame, hkey])

/-! ## Flushed rows -/

theorem ends_flushPart {s : TxState} {old row : UploadPartModel} {Q : Unit → TxState → Prop}
    (h : Lawful s.db) (hold : s.db.parts.get? (key row) = some old)
    (hrules : Satisfied (guardUpdatePart s.db old row ++ partConstraints s.db row))
    (hQ : Lawful { s.db with parts := s.db.parts.replace row } →
      Q () { s with db := { s.db with parts := s.db.parts.replace row } }) :
    Ends (flushPart row) s Q := by
  have hexec := exec_updatePart_ok.mpr ⟨old, hold, hrules, rfl⟩
  have hstored := hQ (lawful_of_exec hexec h)
  unfold Ends flushPart flush
  rw [run_inspect]
  split
  · rename_i hsame
    rw [Relation.replace_of_get? hsame] at hstored
    exact ⟨(), s, rfl, hstored⟩
  · exact ⟨(), _, run_perform_ok.mpr hexec, hstored⟩

theorem ends_flushParts {s : TxState} {base : Relation UploadPartModel} {u : UploadSessionModel}
    {g h : UploadPartModel → UploadPartModel} {parts : List UploadPartModel}
    {Q : Unit → TxState → Prop} (hlawful : Lawful s.db)
    (hu : s.db.sessions.get? u.id = some u) (hm : u.strategy = .multipart)
    (hactive : u.state.isActive = true) (hnodup : parts.Nodup)
    (hparts : ∀ p ∈ parts, p ∈ base.rows ∧ p.uploadSessionId = u.id)
    (hsession : ∀ p, (h p).uploadSessionId = p.uploadSessionId)
    (hmap : Relation.Mapped h base s.db.parts)
    (hstep : ∀ p ∈ parts, PartUpdated u (h p) (g p) ∧ key (g p) = key p)
    (hQ : ∀ t, Lawful { s.db with parts := t } →
      Relation.Mapped (fun p => if p ∈ parts then g p else h p) base t →
      Q () { s with db := { s.db with parts := t } }) :
    Ends (forEach parts fun p => flushPart (g p)) s Q := by
  let J (todo : List UploadPartModel) (s' : TxState) : Prop := ∃ done t, done ++ todo = parts ∧
    s' = { s with db := { s.db with parts := t } } ∧ Lawful s'.db ∧
    Relation.Mapped (fun p => if p ∈ done then g p else h p) base t
  have hround : ∀ p todo s', J (p :: todo) s' →
      Ends (flushPart (g p)) s' fun _ s'' => J todo s'' := by
    intro p todo s' hJ
    obtain ⟨done, t, hsplit, rfl, hlawful', hmapped⟩ := hJ
    have hp : p ∈ parts := by
      rw [← hsplit]
      simp
    have hnew : p ∉ done := by
      rw [← hsplit] at hnodup
      exact fun hmem => (List.disjoint_of_nodup_append hnodup) hmem List.mem_cons_self
    obtain ⟨hbase, hpu⟩ := hparts p hp
    obtain ⟨hpstep, hpkey⟩ := hstep p hp
    have hstored : t.get? (key (g p)) = some (h p) := by
      have hget : base.get? (key p) = some p := Relation.get?_of_mem hbase
      rw [hpkey, hmapped.get hget, if_neg hnew]
    have hparent : s.db.sessions.get? (h p).uploadSessionId = some u := by
      rw [hsession, hpu]
      exact hu
    refine ends_flushPart hlawful' hstored
      (partRules_of_step hlawful' hparent hm hactive hstored hpstep) fun hlawful'' => ?_
    refine ⟨done ++ [p], t.replace (g p), ?_, rfl, hlawful'', ?_⟩
    · rw [List.append_assoc]
      exact hsplit
    · refine (hmapped.replace hbase hpkey).congr fun x _ => ?_
      by_cases hx : x = p
      · rw [hx, Function.update_self, if_pos (by simp)]
      · rw [Function.update_of_ne hx]
        simp [hx]
  have hstart : J parts s := ⟨[], s.db.parts, rfl, rfl, hlawful, by simpa using hmap⟩
  refine (ends_forEach hround hstart).mono ?_
  intro _ s' hJ
  obtain ⟨done, t, hsplit, rfl, hlawful', hmapped⟩ := hJ
  rw [List.append_nil] at hsplit
  rw [hsplit] at hmapped
  exact hQ t hlawful' hmapped

/-! ## Observed rows -/

omit [Platform] in
theorem observedPart_listed (p : UploadPartModel) (observation : Option ProviderPartObservation)
    (observedAt : Timestamp) :
    (observedPart p observation observedAt).listedSizeBytes =
        observation.map ProviderPartObservation.sizeBytes ∧
      ∀ c, (observedPart p observation observedAt).listedChecksumSha256Base64 = some c →
        c = p.sha256.checksumBase64 := by
  cases observation with
  | none => exact ⟨rfl, nofun⟩
  | some o =>
      by_cases hchecksum : o.checksumSha256Base64 = p.sha256.checksumBase64
      · simp only [observedPart, applyProviderPartObservation, hchecksum, if_true]
        refine ⟨?_, ?_⟩
        · split_ifs <;> rfl
        · intro c hc
          split_ifs at hc <;> exact (Option.some.inj hc).symm
      · simp only [observedPart, applyProviderPartObservation, hchecksum, if_false]
        refine ⟨?_, ?_⟩
        · split_ifs <;> rfl
        · intro c hc
          split_ifs at hc

omit [Platform] in
/-- What a stored part of a lawful database brings to an observation. -/
structure PartStored (p : UploadPartModel) : Prop where
  sound : PartSound p
  checksums : ChecksumsPlanned p
  checks : Satisfied (partChecks p)

omit [Platform] in
theorem PartStored.verified {p : UploadPartModel} (h : PartStored p)
    (hstate : p.state = .verified) :
    p.verifiedAt ≠ none := by
  have hchecks := h.checks
  simp only [partChecks, satisfied_cons, Rule.violated_check] at hchecks
  obtain ⟨_, _, _, _, _, _, hverified, _⟩ := hchecks
  intro hnone
  apply hverified
  simp only [verifiedObservationCheck, Ternary.refuted_or, Ternary.refuted_and,
    Ternary.refuted_of, not_not]
  exact ⟨hstate, .inr (.inr (.inr fun hboth => hboth.2 hnone))⟩

omit [Platform] in
theorem partStep_observedPart {u : UploadSessionModel} {p : UploadPartModel}
    {observation : Option ProviderPartObservation} {observedAt : Timestamp} (h : PartStored p)
    (hsize : ∀ o ∈ observation, o.sizeBytes < bigint)
    (hreconciled : u.lastProviderReconciledAt ≠ none) :
    PartUpdated u p (observedPart p observation observedAt) := by
  obtain ⟨hlistedSize, hlistedChecksum⟩ := observedPart_listed p observation observedAt
  obtain ⟨state, etag, checksum, size, listedAt, verifiedAt, code, hrow⟩ :=
    observedPart_frame p observation observedAt
  have hsound := partSound_observedPart h.sound observation observedAt
  have hedge : (observedPart p observation observedAt).state = p.state ∨
      (p.state, (observedPart p observation observedAt).state) ∈ partEdges := by
    cases hc : isConfirmed p observation observedAt with
    | false =>
        rw [observedPart_reset hc]
        cases p.state <;> simp [partEdges]
    | true =>
        obtain ⟨o, rfl, ho⟩ := isConfirmed_iff.mp hc
        rw [observedPart_of_confirms ho]
        cases p.state <;> simp [partEdges]
  refine ⟨by rw [hrow], by rw [hrow]; rfl, hedge, hsound, ⟨?_, ?_⟩, ?_, ?_, ?_, ?_⟩
  · have hsha : (observedPart p observation observedAt).sha256 = p.sha256 := by rw [hrow]
    have hreceipt : (observedPart p observation observedAt).uploadResponseChecksumSha256Base64 =
        p.uploadResponseChecksumSha256Base64 := by rw [hrow]
    rw [hsha, hreceipt]
    exact h.checksums.1
  · have hsha : (observedPart p observation observedAt).sha256 = p.sha256 := by rw [hrow]
    rw [hsha]
    exact hlistedChecksum
  · intro n hn
    rw [hlistedSize] at hn
    obtain ⟨o, ho, rfl⟩ := Option.map_eq_some_iff.mp hn
    exact hsize o ho
  · intro hverified
    cases hc : isConfirmed p observation observedAt with
    | false =>
        rw [observedPart_reset hc] at hverified
        cases hverified
    | true =>
        obtain ⟨o, rfl, ho⟩ := isConfirmed_iff.mp hc
        rw [observedPart_of_confirms ho] at hverified ⊢
        refine ⟨nofun, h.verified ?_⟩
        by_cases hpending : p.state = .pending
        · simp [hpending] at hverified
        · simpa [hpending] using hverified
  · intro _ _
    rw [hrow]
    exact ⟨rfl, rfl, rfl⟩
  · intro _ _
    exact hreconciled

omit [Platform] in
theorem partStep_verified {u : UploadSessionModel} {p : UploadPartModel}
    {observation : Option ProviderPartObservation} {observedAt : Timestamp}
    {verifiedAt : Option Timestamp} (h : PartStored p)
    (hsize : ∀ o ∈ observation, o.sizeBytes < bigint)
    (hreconciled : u.lastProviderReconciledAt ≠ none)
    (hc : isConfirmed p observation observedAt = true) (hverifiedAt : verifiedAt ≠ none) :
    PartUpdated u (observedPart p observation observedAt) {
      observedPart p observation observedAt with
      state := .verified, verifiedAt := verifiedAt } := by
  have hobserved : PartUpdated u p (observedPart p observation observedAt) :=
    partStep_observedPart h hsize hreconciled
  obtain ⟨o, rfl, ho⟩ := isConfirmed_iff.mp hc
  refine ⟨rfl, rfl, ?_, partSound_verified h.sound hc verifiedAt, hobserved.checksums,
    hobserved.listedSize, ?_, ?_, nofun⟩
  · rw [observedPart_of_confirms ho]
    cases p.state <;> simp [partEdges]
  · intro _
    rw [observedPart_of_confirms ho]
    exact ⟨nofun, hverifiedAt⟩
  · intro _ _
    exact ⟨rfl, rfl, rfl⟩

theorem partStored_of_reachable {r : Registry} (h : store.Reachable r) :
    ∀ p ∈ r.db.parts.rows, PartStored p := by
  have hlawful := (committed_of_reachable h).lawful
  intro p hp
  exact ⟨partSound_of_reachable h p hp, hlawful.part_checksums p hp, hlawful.part_checks p hp⟩

/-! ## Reconciled parts -/

variable {env : Env} {r : Registry}

omit [Platform] in
theorem mem_of_observationOf {observations : List ProviderPartObservation} {n : Nat}
    {o : ProviderPartObservation} (h : observationOf observations n = some o) :
    o ∈ observations ∧ o.partNumber = n :=
  ⟨List.mem_of_find?_eq_some h, by simpa using List.find?_some h⟩

/-- Both passes over the parts of a session are stored: every observation, then the VERIFIED rows
of confirmed parts. -/
theorem ends_passes {s : TxState} {u : UploadSessionModel}
    {observations : List ProviderPartObservation} {observedAt : Timestamp}
    {again : UploadPartModel → Bool} {g' : UploadPartModel → UploadPartModel}
    {parts : List UploadPartModel} {Q : Unit → TxState → Prop} (hlawful : Lawful s.db)
    (hparts : parts = s.db.partsOf u.id)
    (hu : s.db.sessions.get? u.id = some u) (hm : u.strategy = .multipart)
    (hactive : u.state.isActive = true) (hstored : ∀ p ∈ s.db.parts.rows, PartStored p)
    (hreconciled : u.lastProviderReconciledAt ≠ none)
    (hsizes : ∀ o ∈ observations, o.sizeBytes < bigint)
    (hagain : ∀ p ∈ s.db.partsOf u.id, again p = true →
      isConfirmed p (observationOf observations p.partNumber) observedAt = true ∧
      ∃ verifiedAt, verifiedAt ≠ none ∧ g' p =
        { observedPart p (observationOf observations p.partNumber) observedAt with
          state := .verified, verifiedAt := verifiedAt })
    (hQ : ∀ t, Lawful { s.db with parts := t } →
      PartsMapped u.id (fun p => if again p then g' p
        else observedPart p (observationOf observations p.partNumber) observedAt) s.db.parts t →
      Q () { s with db := { s.db with parts := t } }) :
    Ends (forEach parts fun p =>
        flushPart (observedPart p (observationOf observations p.partNumber) observedAt)) s
      fun _ s' => Ends (forEach (parts.filter again) fun p => flushPart (g' p)) s' Q := by
  subst hparts
  have hrow : ∀ p ∈ s.db.partsOf u.id, p ∈ s.db.parts.rows ∧ p.uploadSessionId = u.id := by
    intro p hp
    exact Database.mem_partsOf.mp hp
  have hnodup : (s.db.partsOf u.id).Nodup := (Database.nodup_partsOf s.db u.id).of_map _
  have hobserved : ∀ p : UploadPartModel, ∀ o ∈ observationOf observations p.partNumber,
      o.sizeBytes < bigint := by
    intro p o ho
    exact hsizes o (mem_of_observationOf ho).1
  have hframe : ∀ p : UploadPartModel, (observedPart p (observationOf observations p.partNumber)
      observedAt).uploadSessionId = p.uploadSessionId := by
    intro p
    exact congrArg Prod.fst (key_observedPart p _ _)
  have hstart : Relation.Mapped id s.db.parts s.db.parts := .refl _
  refine ends_flushParts hlawful hu hm hactive hnodup hrow (fun _ => rfl) hstart ?_ ?_
  · intro p hp
    exact ⟨partStep_observedPart (hstored p (hrow p hp).1) (hobserved p) hreconciled,
      key_observedPart p _ _⟩
  · intro t hlawful' hmapped
    refine ends_flushParts hlawful' hu hm hactive (hnodup.filter _)
      (fun p hp => hrow p (List.mem_filter.mp hp).1) ?_ hmapped ?_ ?_
    · intro p
      by_cases hp : p ∈ s.db.partsOf u.id
      · rw [if_pos hp, hframe]
      · rw [if_neg hp]
    · intro p hp
      obtain ⟨hmem, hpagain⟩ := List.mem_filter.mp hp
      obtain ⟨hconfirmed, verifiedAt, hverifiedAt, hrow'⟩ := hagain p hmem hpagain
      rw [if_pos hmem, hrow']
      exact ⟨partStep_verified (hstored p (hrow p hmem).1) (hobserved p) hreconciled hconfirmed
        hverifiedAt, key_observedPart p _ _⟩
    · intro t' hlawful'' hmapped'
      exact hQ t' hlawful'' (partsMapped_of_passes hmapped')

theorem sessionRules_of_activity {db : Database} {u : UploadSessionModel}
    (h : Lawful db) (hu : db.sessions.get? u.id = some u) (hm : u.strategy = .multipart)
    (hstate : u.state = .inProgress) (reconciledAt : Option Timestamp) (activityAt : Timestamp) :
    Satisfied (guardUploadSession db u { u with
        lastProviderReconciledAt := reconciledAt, lastActivityAt := activityAt } ++
      sessionConstraints db { u with
        lastProviderReconciledAt := reconciledAt, lastActivityAt := activityAt }) := by
  rw [satisfied_append]
  constructor
  · simp [guardUploadSession, guardMultipartSession, hm, hstate]
  · exact h.sessionConstraints_kept hu rfl rfl rfl (fun ha => ha)
      (h.session_checks u (Relation.mem_of_get? hu))

theorem multipart_of_holdsAdmission {u : UploadSessionModel} {ownerId : UUID} {epoch : Nat}
    {t : Timestamp} (h : store.Reachable r) (hu : r.db.sessions.get? u.id = some u)
    (hlease : HoldsAdmission r.db u.id ownerId epoch t) : u.strategy = .multipart := by
  obtain ⟨l, hl, _⟩ := hlease
  obtain ⟨x, hx, hm, _⟩ := (owned_of_reachable h).admission _ l hl
  have hsame : x = u := Option.some.inj (hx.symm.trans hu)
  rw [← hsame]
  exact hm

theorem publication_of_activity {db : Database} {u u' : UploadSessionModel} {clock : Timestamp}
    (h : store.Reachable r) (hu : r.db.sessions.get? u.id = some u)
    (hm : u.strategy = .multipart) (hstate : u.state = .inProgress)
    (hsessions : db.sessions = r.db.sessions.replace u') (hstate' : u'.state = .inProgress)
    (hleases : db.completionLeases = r.db.completionLeases) (hblobs : db.blobs = r.db.blobs)
    (hclock : r.now ≤ clock) : Satisfied (validateM2Publication db clock u.blobId) := by
  have hmem := Relation.mem_of_get? hu
  obtain ⟨b, hb⟩ := (committed_of_reachable h).lawful.session_blob.get hmem
  have huploading : b.state = .uploading := by
    have hfits := (coupled_of_reachable h).fits u hmem b hb
    rw [hstate, hm] at hfits
    exact hfits
  refine publication_of_active h hu (by rw [hstate]; rfl) hsessions (by rw [hstate']; rfl) hleases
    (hblobs ▸ hb) ?_ ?_ hclock
  · rw [huploading]
    simp
  · rw [huploading]
    simp

/-- The current owner of a running session reconciles any observations of distinct planned parts
whose sizes the column can hold. -/
theorem transact_reconcileParts {u : UploadSessionModel} {ownerId : UUID} {epoch : Nat}
    {observations : List ProviderPartObservation} (attribution : PartAttribution)
    (h : store.Reachable r) (hu : r.db.sessions.get? u.id = some u) (hstate : u.state = .inProgress)
    (hlease : HoldsAdmission r.db u.id ownerId epoch (r.now + env.ticks.headD 0))
    (hdistinct : distinctParts observations)
    (hplanned : allPlanned observations (r.db.partsOf u.id))
    (hsizes : ∀ o ∈ observations, o.sizeBytes < bigint) :
    ∃ db observedAt, transact (reconcileParts u.id ownerId epoch observations attribution) env r =
        (.ok ⟨attribution,
          ((r.db.partsOf u.id).filter (isNewlyResolved observations observedAt)).length,
          (((r.db.partsOf u.id).filter (isNewlyResolved observations observedAt)).map
            UploadPartModel.sizeBytes).sum⟩, ⟨db, r.later env⟩) ∧
      PartsMapped u.id (reconciledPart observations observedAt) r.db.parts db.parts ∧
      ∃ reconciledAt activityAt, db.sessions.get? u.id = some { u with
        lastProviderReconciledAt := some reconciledAt, lastActivityAt := activityAt } := by
  have hm := multipart_of_holdsAdmission h hu hlease
  have hlawful := (committed_of_reachable h).lawful
  have hstored := partStored_of_reachable h
  have hcall : ∃ a db, transact (reconcileParts u.id ownerId epoch observations attribution) env r =
      (.ok a, ⟨db, r.later env⟩) ∧ ∃ observedAt, a = ⟨attribution,
          ((r.db.partsOf u.id).filter (isNewlyResolved observations observedAt)).length,
          (((r.db.partsOf u.id).filter (isNewlyResolved observations observedAt)).map
            UploadPartModel.sizeBytes).sum⟩ ∧
        PartsMapped u.id (reconciledPart observations observedAt) r.db.parts db.parts ∧
        ∃ reconciledAt activityAt, db.sessions.get? u.id = some { u with
          lastProviderReconciledAt := some reconciledAt, lastActivityAt := activityAt } := by
    refine transact_of_ends ?_
    simp only [reconcileParts, ends_bind, ends_require]
    refine ⟨hdistinct, ends_fetchAdmitted hu hstate hlease ?_⟩
    rw [ends_clockTimestamp, ends_clockTimestamp]
    refine @ends_updateSession _ _ _ u _ hlawful hu
      (sessionRules_of_activity hlawful hu hm hstate _ _) fun hlawful₁ => ?_
    rw [ends_select]
    refine ⟨hplanned, ?_⟩
    rw [ends_clockTimestamp]
    have hactive : u.state.isActive = true := by
      rw [hstate]
      rfl
    let noted : UploadSessionModel := { u with
      lastProviderReconciledAt := some (beginTx env r).ticked.ticked.now
      lastActivityAt := (beginTx env r).ticked.ticked.ticked.now }
    have hnoted : (r.db.sessions.replace noted).get? noted.id = some noted :=
      Relation.get?_replace_self hu
    refine @ends_passes _ _ noted _ _ _ _ _ _ ?_ rfl ?_ hm hactive ?_ (Option.some_ne_none _) hsizes
      ?_ ?_
    · exact hlawful₁
    · exact hnoted
    · exact partStored_of_reachable h
    · intro p _ hagain
      rw [isNewlyResolved, Bool.and_eq_true] at hagain
      obtain ⟨o, ho, hconfirms⟩ := isConfirmed_iff.mp hagain.1
      refine ⟨hagain.1, _, ?_, rfl⟩
      rw [ho, observedPart_of_confirms hconfirms]
      exact Option.some_ne_none _
    · intro t _ hmapped
      rw [ends_pure]
      refine ⟨⟨_, rfl, hmapped, _, _, hnoted⟩, ?_⟩
      intro x hx clock hclock
      have htouched : x = .session u.blobId := by simpa using hx
      have hnow : r.now ≤ clock := (((elapses_ticked _).trans ((elapses_ticked _).trans
        ((elapses_ticked _).trans (elapses_ticked _)))).now_le).trans hclock
      rw [htouched]
      exact publication_of_activity h hu hm hstate rfl hstate rfl rfl hnow
  obtain ⟨a, db, hcall, observedAt, rfl, hmapped, hsession⟩ := hcall
  exact ⟨db, observedAt, hcall, hmapped, hsession⟩

end RoboLake
