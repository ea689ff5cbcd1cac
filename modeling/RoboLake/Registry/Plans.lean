import RoboLake.Registry.Coupling

/-! # Sessions and their parts

The parts of a multipart session are the ranges of the plan it was created with,
in order, and stay so. COMPLETING and COMPLETED sessions have every part VERIFIED.
-/

namespace RoboLake

open Foundation Store Migrations

/-! ## Planned ranges -/

/-- The columns of a part that its plan fixes: number, offset, size and digest. -/
def plannedRange (p : UploadPartModel) : Nat × Nat × Nat × Sha256Digest :=
  (p.partNumber, p.offsetBytes, p.sizeBytes, p.sha256)

def definedRange (d : PartDefinition) : Nat × Nat × Nat × Sha256Digest :=
  (d.partNumber, d.offsetBytes, d.sizeBytes, d.expectedSha256)

theorem numbers_of_validateRangesFrom {partSizeBytes count : Nat} {parts : List PartDefinition}
    {expected cursor last : Nat}
    (h : validateRangesFrom partSizeBytes count parts expected cursor = .ok last) :
    parts.map PartDefinition.partNumber = List.range' expected parts.length := by
  induction parts generalizing expected cursor with
  | nil => rfl
  | cons part parts ih =>
      simp only [validateRangesFrom, PartRange.partNumber, PartRange.offsetBytes,
        PartRange.sizeBytes] at h
      split at h
      · cases h
      · rename_i hnumber
        split at h
        · cases h
        · split at h
          · cases h
          · simp only [not_or, not_not] at hnumber
            simp [ih h, hnumber.1, List.range'_succ]

theorem PartPlan.numbers (plan : PartPlan) :
    plan.parts.map PartDefinition.partNumber = List.range' 1 plan.partCount := by
  have h := plan.valid
  unfold PartPlan.check at h
  split at h
  · cases h
  · split at h
    · cases h
    · obtain ⟨_, _, h⟩ := Except.bind_ok.mp h
      split at h
      · cases h
      · unfold validateRanges at h
        split at h
        · cases h
        · obtain ⟨_, hranges, _⟩ := Except.bind_ok.mp h
          exact numbers_of_validateRangesFrom hranges

variable [Platform]

/-- The planned ranges of a session in part order. -/
def rangesOf (db : Database) (sessionId : UUID) : List (Nat × Nat × Nat × Sha256Digest) :=
  (db.partsOf sessionId).map plannedRange

theorem mem_rangesOf {db : Database} {sessionId : UUID} {x : Nat × Nat × Nat × Sha256Digest} :
    x ∈ rangesOf db sessionId ↔
      ∃ p ∈ db.parts.rows, p.uploadSessionId = sessionId ∧ plannedRange p = x := by
  simp [rangesOf, Database.mem_partsOf, and_assoc]

theorem rangesOf_increasing (db : Database) (sessionId : UUID) :
    (rangesOf db sessionId).Pairwise fun x y => x.1 < y.1 := by
  have hsorted := List.pairwise_insertionSort
    (fun a b : UploadPartModel => a.partNumber ≤ b.partNumber)
    (db.parts.rows.filter fun p => p.uploadSessionId = sessionId)
  have hnodup := List.pairwise_map.mp (Database.nodup_partsOf db sessionId)
  rw [rangesOf, List.pairwise_map]
  refine (hsorted.and hnodup).imp_of_mem fun {a b} ha hb ⟨hle, hne⟩ => ?_
  have hak := (Database.mem_partsOf.mp ha).2
  have hbk := (Database.mem_partsOf.mp hb).2
  refine lt_of_le_of_ne hle fun heq => hne ?_
  rw [key_part, key_part, hak, hbk]
  exact congrArg (Prod.mk sessionId) heq

omit [Platform] in
theorem eq_of_increasing {l l' : List (Nat × Nat × Nat × Sha256Digest)}
    (h : l.Pairwise fun x y => x.1 < y.1) (h' : l'.Pairwise fun x y => x.1 < y.1)
    (hmem : ∀ x, x ∈ l ↔ x ∈ l') : l = l' := by
  have hnodup : ∀ {l : List (Nat × Nat × Nat × Sha256Digest)},
      (l.Pairwise fun x y => x.1 < y.1) → l.Nodup :=
    fun hl => hl.imp fun hlt heq => absurd (heq ▸ hlt) (lt_irrefl _)
  exact List.Perm.eq_of_pairwise (fun _ _ _ _ hlt hgt => absurd hlt (lt_asymm hgt)) h h'
    ((List.perm_ext_iff_of_nodup (hnodup h) (hnodup h')).mpr hmem)

/-! ## Parts after a step -/

omit [Platform] in
theorem PartLater.range {p p' : UploadPartModel} (h : PartLater p p') (hkey : key p' = key p) :
    plannedRange p' = plannedRange p := by
  have hnumber : p'.partNumber = p.partNumber := (Prod.mk.inj hkey).2
  rw [plannedRange, plannedRange, hnumber, h.offset, h.size, h.sha256]

/-- The planned ranges of a stored session stay as they are. -/
theorem rangesOf_step {env : Env} {r : Registry} {op : Operation} {db : Database}
    (hextends : Extends r.db db) (heffect : Effect env r op db) {u : UploadSessionModel}
    (hu : u ∈ r.db.sessions.rows) : rangesOf db u.id = rangesOf r.db u.id := by
  refine eq_of_increasing (rangesOf_increasing _ _) (rangesOf_increasing _ _) fun x => ?_
  rw [mem_rangesOf, mem_rangesOf]
  constructor
  · rintro ⟨p', hp', hpu, rfl⟩
    rcases part_of_effect heffect hp' with ⟨p, hp⟩ | hnew
    · obtain ⟨q, hq, hlater⟩ := hextends.parts _ p hp
      rw [Relation.get?_of_mem hp'] at hq
      cases hq
      have hkey := Relation.key_of_get? hp
      exact ⟨p, Relation.mem_of_get? hp, (Prod.mk.inj hkey).1.trans hpu,
        (hlater.range hkey.symm).symm⟩
    · have hget : r.db.sessions.get? u.id = some u := Relation.get?_of_mem hu
      rw [hpu, hget] at hnew
      cases hnew
  · rintro ⟨p, hp, hpu, rfl⟩
    obtain ⟨p', hp', hlater⟩ := hextends.parts _ p (Relation.get?_of_mem hp)
    have hkey := Relation.key_of_get? hp'
    exact ⟨p', Relation.mem_of_get? hp', (Prod.mk.inj hkey).1.trans hpu, hlater.range hkey⟩

theorem rangesOf_run {r : Registry} (h : store.Reachable r) {u : UploadSessionModel}
    (hu : u ∈ r.db.sessions.rows) (calls : List Call) :
    rangesOf (store.runFrom r calls).db u.id = rangesOf r.db u.id := by
  induction calls generalizing r u with
  | nil => rfl
  | cons c calls ih =>
      have hextends := extends_of_step c (committed_of_reachable h)
      obtain ⟨u', hu', _⟩ := hextends.sessions _ u (Relation.get?_of_mem hu)
      have hrest := ih (h.step c) (Relation.mem_of_get? hu')
      rw [show u'.id = u.id from Relation.key_of_get? hu'] at hrest
      exact hrest.trans (rangesOf_step hextends (effect_of_step c r) hu)

/-! ## Planned sessions -/

theorem rangesOf_new {base db : Database} {id : UUID} {plan : PartPlan} (h : Committed base)
    (hfree : base.sessions.get? id = none)
    (hparts : db.parts.rows = base.parts.rows ++ plan.parts.map (pendingPart id)) :
    rangesOf db id = plan.parts.map definedRange := by
  refine eq_of_increasing (rangesOf_increasing _ _) ?_ fun x => ?_
  · have hnumbers := plan.numbers
    have hlt : (plan.parts.map PartDefinition.partNumber).Pairwise (· < ·) := by
      rw [hnumbers]
      exact List.pairwise_lt_range'
    rw [List.pairwise_map] at hlt ⊢
    exact hlt
  · rw [mem_rangesOf, List.mem_map]
    constructor
    · rintro ⟨p, hp, hpu, rfl⟩
      rw [hparts, List.mem_append, List.mem_map] at hp
      rcases hp with hold | ⟨d, hd, rfl⟩
      · obtain ⟨u, hu, _⟩ := h.lawful.part_session p hold
        rw [hpu, hfree] at hu
        cases hu
      · exact ⟨d, hd, rfl⟩
    · rintro ⟨d, hd, rfl⟩
      refine ⟨pendingPart id d, ?_, rfl, rfl⟩
      rw [hparts, List.mem_append]
      exact Or.inr (List.mem_map_of_mem hd)

/-- The row, the Blob and the parts of a session are those of a plan. -/
structure Planned (db : Database) (u : UploadSessionModel) (plan : PartPlan) : Prop where
  generation : u.sessionGeneration ≠ none
  count : u.plannedPartCount = some plan.partCount
  sha256 : u.partPlanSha256 = some plan.sha256
  schemaVersion : u.partPlanSchemaVersion = some plan.schemaVersion
  partSize : u.partSizeBytes = some plan.partSizeBytes
  blob : ∃ b, db.blobs.get? u.blobId = some b ∧ b.sizeBytes = plan.blobSizeBytes
  ranges : rangesOf db u.id = plan.parts.map definedRange

theorem Planned.later {db db' : Database} {u u' : UploadSessionModel} {plan : PartPlan}
    (h : Planned db u plan) (hm : u.strategy = .multipart) (hlater : SessionLater u u')
    (hid : u'.id = u.id) (hblobs : Relation.Later BlobLater db.blobs db'.blobs)
    (hranges : rangesOf db' u.id = rangesOf db u.id) : Planned db' u' plan := by
  obtain ⟨hgeneration, hsize, hcount, hschema, hsha⟩ := hlater.plan hm
  obtain ⟨b, hb, hbs⟩ := h.blob
  obtain ⟨b', hb', hblob⟩ := hblobs _ b hb
  exact {
    generation := by rw [hgeneration]; exact h.generation
    count := hcount.trans h.count
    sha256 := hsha.trans h.sha256
    schemaVersion := hschema.trans h.schemaVersion
    partSize := hsize.trans h.partSize
    blob := ⟨b', by rw [hlater.blob, hb'], hblob.sizeBytes.trans hbs⟩
    ranges := by rw [hid, hranges, h.ranges] }

theorem planned_of_new {db db' : Database} {id blobId versionId : UUID} {generation : Nat}
    {plan : HashedMultipartPlan} {now : Timestamp} {b : BlobModel} (h : Committed db)
    (hfree : db.sessions.get? id = none) (hb : db'.blobs.get? blobId = some b)
    (hsize : b.sizeBytes = plan.plan.blobSizeBytes)
    (hparts : db'.parts.rows = db.parts.rows ++ plan.plan.parts.map (pendingPart id)) :
    Planned db' (plannedSession id blobId versionId generation plan now) plan.plan where
  generation := by simp [plannedSession]
  count := rfl
  sha256 := congrArg some plan.hashed.symm
  schemaVersion := rfl
  partSize := rfl
  blob := ⟨b, hb, hsize⟩
  ranges := rangesOf_new h hfree hparts

theorem planned_of_effect {env : Env} {r : Registry} {op : Operation} {db : Database}
    (hcommitted : Committed r.db) (hextends : Extends r.db db) (heffect : Effect env r op db)
    (h : ∀ u ∈ r.db.sessions.rows, u.strategy = .multipart → ∃ plan, Planned r.db u plan) :
    ∀ u ∈ db.sessions.rows, u.strategy = .multipart → ∃ plan, Planned db u plan := by
  intro u' hu' hm
  have hkept : ∀ u, r.db.sessions.get? u'.id = some u → ∃ plan, Planned db u' plan := by
    intro u hu
    obtain ⟨x, hx, hlater⟩ := hextends.sessions _ u hu
    have hget : db.sessions.get? u'.id = some u' := Relation.get?_of_mem hu'
    rw [hget] at hx
    cases hx
    have hum : u.strategy = .multipart := hlater.strategy.symm.trans hm
    have hmem := Relation.mem_of_get? hu
    obtain ⟨plan, hplanned⟩ := h u hmem hum
    have hid : u.id = u'.id := Relation.key_of_get? hu
    exact ⟨plan, hplanned.later hum hlater hid.symm hextends.blobs
      (rangesOf_step hextends heffect hmem)⟩
  cases session_of_effect heffect hu' with
  | kept h => exact hkept u' (Relation.get?_of_mem h)
  | moved h _ => exact hkept _ h
  | singlePut _ hsingle _ =>
      rw [hsingle] at hm
      cases hm
  | multipart hrow hfree hb hsize hparts _ _ _ =>
      obtain ⟨b', hb', hblob⟩ := hextends.blobs _ _ hb
      rw [hrow]
      exact ⟨_, planned_of_new hcommitted hfree hb' (hblob.sizeBytes.trans hsize) hparts⟩

theorem planned_of_reachable {r : Registry} (h : store.Reachable r) {u : UploadSessionModel}
    (hu : u ∈ r.db.sessions.rows) (hm : u.strategy = .multipart) : ∃ plan, Planned r.db u plan :=
  reachable_induction (I := fun r => ∀ u ∈ r.db.sessions.rows, u.strategy = .multipart →
      ∃ plan, Planned r.db u plan) (fun _ hu => by cases hu)
    (fun _ _ _ _ hcommitted _ => planned_of_effect hcommitted) h u hu hm

/-- The parts of every multipart session are the ranges of a plan. -/
def AllPlanned (db : Database) : Prop :=
  ∀ u ∈ db.sessions.rows, u.strategy = .multipart → ∃ plan : PartPlan,
    u.plannedPartCount = some plan.partCount ∧ u.partPlanSha256 = some plan.sha256 ∧
      rangesOf db u.id = plan.parts.map definedRange

theorem allPlanned_of_reachable {r : Registry} (h : store.Reachable r) : AllPlanned r.db := by
  intro u hu hm
  obtain ⟨plan, hplanned⟩ := planned_of_reachable h hu hm
  exact ⟨plan, hplanned.count, hplanned.sha256, hplanned.ranges⟩

/-! ## Verified parts -/

def SessionState.isFinishing : SessionState → Bool
  | .completing | .completed => true
  | .created | .initiating | .inProgress | .aborting | .aborted | .cancelled | .failed => false

/-- Every finishing session has every part VERIFIED. -/
def AllVerified (sessions : Relation UploadSessionModel) (parts : Relation UploadPartModel) :
    Prop :=
  ∀ u ∈ sessions.rows, u.state.isFinishing = true →
    ∀ p ∈ parts.rows, p.uploadSessionId = u.id → p.state = .verified

section Verified

variable {sessions : Relation UploadSessionModel} {parts parts' : Relation UploadPartModel}
  {row : UploadSessionModel}

omit [Platform] in
theorem AllVerified.insert (h : AllVerified sessions parts)
    (hfree : sessions.get? row.id = none) (hrow : row.state = .created) :
    AllVerified (sessions.insert row) parts := by
  refine Relation.forall_insert h hfree fun hf => ?_
  rw [hrow] at hf
  cases hf

omit [Platform] in
/-- One session and its parts move; the sessions beside it keep theirs. -/
theorem AllVerified.move (h : AllVerified sessions parts)
    (hrow : row.state.isFinishing = true →
      ∀ p ∈ parts'.rows, p.uploadSessionId = row.id → p.state = .verified)
    (hparts : ∀ p ∈ parts'.rows, p ∈ parts.rows ∨ p.uploadSessionId = row.id) :
    AllVerified (sessions.replace row) parts' := by
  intro x hx hf p hp hpx
  rcases Relation.mem_replace hx with rfl | ⟨hx, hne⟩
  · exact hrow hf p hp hpx
  · rcases hparts p hp with hold | hpr
    · exact h x hx hf p hold hpx
    · exact absurd (hpx.symm.trans hpr) hne

omit [Platform] in
theorem AllVerified.replace {k : UUID} {u : UploadSessionModel} (h : AllVerified sessions parts)
    (hu : sessions.get? k = some u) (hid : row.id = u.id)
    (hf : row.state.isFinishing = true → u.state.isFinishing = true) :
    AllVerified (sessions.replace row) parts :=
  h.move (fun hr p hp hpu => h u (Relation.mem_of_get? hu) (hf hr) p hp (hpu.trans hid))
    fun _ hp => Or.inl hp

end Verified

omit [Platform] in
theorem PartsMapped.origin {sessionId : UUID} {g : UploadPartModel → UploadPartModel}
    {parts parts' : Relation UploadPartModel} (h : PartsMapped sessionId g parts parts')
    {p' : UploadPartModel} (hp' : p' ∈ parts'.rows) :
    p' ∈ parts.rows ∨
      ∃ p ∈ parts.rows,
        p.uploadSessionId = sessionId ∧ p'.uploadSessionId = sessionId ∧ p' = g p := by
  obtain ⟨p, hp, hpg, hkey⟩ := h.mem hp'
  by_cases hs : p.uploadSessionId = sessionId
  · rw [if_pos hs] at hpg
    exact Or.inr ⟨p, hp, hs, (Prod.mk.inj hkey).1.symm.trans hs, hpg.symm⟩
  · rw [if_neg hs] at hpg
    exact Or.inl (hpg ▸ hp)

theorem allVerified_of_effect {env : Env} {r : Registry} {op : Operation} {db : Database}
    (hcommitted : Committed r.db) (heffect : Effect env r op db)
    (h : AllVerified r.db.sessions r.db.parts) : AllVerified db.sessions db.parts := by
  cases heffect with
  | sessionOpened _ _ _ _ hfree _ => exact h.insert hfree rfl
  | uploadStarted hu _ hstate => exact h.replace hu rfl nofun
  | uploadVerified hu hsingle hstate =>
      -- A single-PUT session has no parts.
      refine h.move (fun _ p hp hpu => ?_) fun _ hp => Or.inl hp
      obtain ⟨x, hx, hm⟩ := hcommitted.lawful.part_session p hp
      rw [show p.uploadSessionId = _ from hpu, hu] at hx
      cases hx
      rw [hsingle] at hm
      cases hm
  | uploadFailed hu _ hstate => exact h.replace hu rfl nofun
  | uploadRestarted _ _ _ _ _ _ hfree => exact h.insert hfree rfl
  | multipartCreated _ _ _ _ hfree hparts _ =>
      refine Relation.forall_insert (fun u hu hf p hp hpu => ?_) hfree nofun
      rw [parts_bind, hparts, List.mem_append, List.mem_map] at hp
      rcases hp with hp | ⟨d, _, rfl⟩
      · exact h u hu hf p hp hpu
      · have hget : r.db.sessions.get? u.id = some u := Relation.get?_of_mem hu
        rw [← hpu, pendingPart, hfree] at hget
        cases hget
  | initiationBegun hu _ hstate => exact h.replace hu rfl nofun
  | providerRecorded hu _ hstate => exact h.replace hu rfl nofun
  | initiationAmbiguous hu _ _ hstate => exact h.replace hu rfl nofun
  | partReplayed hu _ hstate => exact h.replace hu rfl id
  | partRecorded hu _ hstate hpart _ _ =>
      refine h.move (fun hf => ?_) fun p hp => ?_
      · simp only [hstate] at hf
        cases hf
      · rcases Relation.mem_replace hp with rfl | ⟨hp, _⟩
        · exact Or.inr (Prod.mk.inj (Relation.key_of_get? hpart)).1
        · exact Or.inl hp
  | partsReconciled hu _ hstate hparts =>
      refine h.move (fun hf => ?_) fun p hp => ?_
      · simp only [hstate] at hf
        cases hf
      · exact (hparts.origin hp).imp_right fun ⟨_, _, _, hps, _⟩ => hps
  | completionAccepted hu _ _ _ hstate hresolved _ _ =>
      refine h.move (fun _ p hp hpu => ?_) fun _ hp => Or.inl hp
      exact by_contra fun hn => hresolved ⟨p, hp, hpu, hn⟩
  | phaseSet hu _ hstate => exact h.replace hu rfl id
  | attemptInvalidated hu hstate => exact h.replace hu rfl nofun
  | partsRecovered hu hstate _ hparts hconfirmed =>
      refine h.move (fun hf p' hp' hpu => ?_) fun p hp => ?_
      · rcases hparts.origin hp' with hold | ⟨p, hp, hps, _, rfl⟩
        · exact h _ (Relation.mem_of_get? hu) hf p' hold hpu
        · rw [recoveredOrReset, if_pos (hconfirmed p hp hps), recoveredPart]
      · exact (hparts.origin hp).imp_right fun ⟨_, _, _, hps, _⟩ => hps
  | completionResumed hu hstate _ _ hparts _ =>
      refine h.move nofun fun p hp => ?_
      exact (hparts.origin hp).imp_right fun ⟨_, _, _, hps, _⟩ => hps
  | completionVerified hu hstate => exact h.replace hu rfl fun _ => by rw [hstate]; rfl
  | _ => exact h

theorem allVerified_of_reachable {r : Registry} (h : store.Reachable r) :
    AllVerified r.db.sessions r.db.parts :=
  reachable_induction (I := fun r => AllVerified r.db.sessions r.db.parts)
    (fun _ hu => by cases hu) (fun _ _ _ _ hcommitted _ _ => allVerified_of_effect hcommitted) h

end RoboLake
