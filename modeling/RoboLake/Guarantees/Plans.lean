import RoboLake.Registry.Contexts
import RoboLake.Registry.Ranges

/-! # Part plans of the domain and of the database

Both sides select one part size and accept the same part rows. So the plan a session
is created with passes its seal, and every later load of the session returns it.
-/

namespace RoboLake

open Foundation Store Work Migrations

/-! ## Part sizes -/

/-- Both functions select one part size for any integer, or both reject. -/
theorem expectedPartSizeOfInt_eq (size : Int) :
    expectedPartSizeOfInt size = selectPartSizeOfInt size := by
  unfold expectedPartSizeOfInt selectPartSizeOfInt
  by_cases hrange : (maxSinglePutBytes : Int) < size ∧ size ≤ (maxMultipartBlobBytes : Int)
  · have hlimits : (5000000000 : Int) < size ∧ size ≤ 5000000000000 := hrange
    rw [if_pos hrange, if_neg (by omega), expectedPartSizeFrom_eq]
    rfl
  · have hlimits : ¬((5000000000 : Int) < size ∧ size ≤ 5000000000000) := hrange
    rw [if_neg hrange, if_pos (by omega)]

/-! ## Part rows -/

theorem partDefinition_ok {p : UploadPartModel} (h : Satisfied (partChecks p)) :
    ∃ d, partDefinition p = .ok d ∧ definedRange d = plannedRange p := by
  simp only [partChecks, satisfied_cons, Rule.violated_check, Ternary.refuted_of, not_not] at h
  obtain ⟨_, _, _, hnumber, hsize, _⟩ := h
  exact ⟨⟨p.partNumber, p.offsetBytes, p.sizeBytes, p.sha256, hnumber.1, hnumber.2, hsize⟩,
    partDefinition_of_range rfl, rfl⟩

theorem mapM_partDefinition_ok {rows : List UploadPartModel}
    (h : ∀ p ∈ rows, Satisfied (partChecks p)) :
    ∃ ds, rows.mapM partDefinition = .ok ds ∧ ds.map definedRange = rows.map plannedRange := by
  apply Except.mapM_ok_of_forall
  intro p hp
  exact partDefinition_ok (h p hp)

/-! ## Sorted definitions -/

theorem map_sorted_eq {β : Type} {range : PartDefinition → β} {number : β → Nat}
    {ds : List PartDefinition} {ranges : List β} (hnumber : ∀ d, number (range d) = d.partNumber)
    (hincreasing : ranges.Pairwise fun x y => number x < number y)
    (h : (ds.map range).Perm ranges) :
    (ds.insertionSort fun a b => a.partNumber ≤ b.partNumber).map range = ranges := by
  have hnumbers : (ranges.map number).Nodup := by
    rw [List.nodup_iff_pairwise_ne, List.pairwise_map]
    exact hincreasing.imp fun hlt => hlt.ne
  have hsorted : ((ds.insertionSort fun a b => a.partNumber ≤ b.partNumber).map
      range).Pairwise fun x y => number x ≤ number y := by
    rw [List.pairwise_map]
    refine (List.pairwise_insertionSort _ ds).imp ?_
    intro a b hle
    rw [hnumber, hnumber]
    exact hle
  have hperm : ((ds.insertionSort fun a b => a.partNumber ≤ b.partNumber).map range).Perm
      ranges :=
    ((List.perm_insertionSort _ ds).map range).trans h
  refine hperm.eq_of_pairwise ?_ hsorted (hincreasing.imp fun hlt => hlt.le)
  intro x y hx hy hle hge
  exact List.inj_on_of_nodup_map hnumbers (hperm.mem_iff.mp hx) hy (le_antisymm hle hge)

variable [Platform]

theorem definedRange_sorted {db : Database} {sessionId : UUID} {ds : List PartDefinition}
    (h : (ds.map definedRange).Perm (rangesOf db sessionId)) :
    (ds.insertionSort fun a b => a.partNumber ≤ b.partNumber).map definedRange =
      rangesOf db sessionId :=
  map_sorted_eq (fun _ => rfl) (rangesOf_increasing db sessionId) h

/-- The plan that the domain builds from definitions, with the stored digest. -/
def BuildsPlan (blobSize partSize plannedCount schemaVersion : Nat) (planSha256 : Sha256Digest)
    (ds : List PartDefinition) : Prop :=
  plannedCount = ds.length ∧ ∃ plan, PartPlan.build schemaVersion blobSize partSize ds = .ok plan ∧
    plan.sha256 = planSha256

/-- The trigger accepts the parts of a session exactly when the domain builds its plan. -/
theorem planRules_iff_buildsPlan {db : Database} {sessionId : UUID}
    {blobSize partSize plannedCount : Nat} {planSha256 : Sha256Digest} {ds : List PartDefinition}
    (hds : (ds.map definedRange).Perm (rangesOf db sessionId)) :
    Satisfied (planRules blobSize (some partSize) (some plannedCount) (some partPlanSchemaVersion)
        (some planSha256) (db.partsOf sessionId)) ↔
      BuildsPlan blobSize partSize plannedCount partPlanSchemaVersion planSha256 ds := by
  have hranges := definedRange_sorted hds
  have hlength : (ds.insertionSort fun a b => a.partNumber ≤ b.partNumber).length = ds.length :=
    List.length_insertionSort _ ds
  constructor
  · intro h
    have hincreasing : ((ds.insertionSort fun a b => a.partNumber ≤ b.partNumber).map
        PartDefinition.partNumber).Pairwise (· < ·) := by
      have hpairwise := rangesOf_increasing db sessionId
      rw [← hranges, List.pairwise_map] at hpairwise
      rw [List.pairwise_map]
      exact hpairwise
    obtain ⟨hcount, hcheck⟩ := check_of_planRules hranges.symm hincreasing h
    refine ⟨hcount.trans hlength, ⟨partPlanSchemaVersion, blobSize, partSize, _, hcheck⟩, ?_, ?_⟩
    · unfold PartPlan.build
      dsimp only
      split
      · rfl
      · rename_i e herror
        rw [hcheck] at herror
        cases herror
    · -- The text of the database is the canonical text of the plan.
      have hparts : db.partsOf sessionId ≠ [] := by
        intro hempty
        have hnone : (ds.insertionSort fun a b => a.partNumber ≤ b.partNumber) = [] := by
          apply List.map_eq_nil_iff.mp
          rw [hranges, rangesOf, hempty]
          rfl
        rw [hnone] at hcheck
        have hcovers := (PartPlan.mk partPlanSchemaVersion blobSize partSize [] hcheck).covers
        exact absurd hcovers.nonempty (lt_irrefl 0)
      refine (planRules_iff.mp h).2.2 _ ?_
      rw [storedPlanText_eq hparts, PartPlan.canonicalBytes, Option.mem_def, Option.some.injEq]
      have htexts := congrArg
        (List.map fun x => PartPlan.partJson x.1 x.2.1 x.2.2.1 x.2.2.2) hranges
      rw [rangesOf, List.map_map, List.map_map] at htexts
      rw [hcount]
      exact congrArg _ htexts.symm
  · intro h
    obtain ⟨hcount, plan, hbuild, hsha⟩ := h
    unfold PartPlan.build at hbuild
    dsimp only at hbuild
    split at hbuild
    · rename_i hchecked
      cases hbuild
      have haccepted := @planRules_of_ranges _ ⟨partPlanSchemaVersion, blobSize, partSize, _,
        hchecked⟩ _ hranges.symm
      rw [hcount, ← hlength, ← hsha]
      exact haccepted
    · cases hbuild

/-- The seal of a session passes exactly when the domain builds its plan from its rows. -/
theorem validateMultipartPlan_iff {db : Database} {u : UploadSessionModel} {b : BlobModel}
    {partSize plannedCount schemaVersion : Nat} {planSha256 : Sha256Digest}
    {ds : List PartDefinition} (hu : db.sessions.get? u.id = some u)
    (hm : u.strategy = .multipart) (hchecks : Satisfied (sessionChecks u))
    (hb : db.blobs.get? u.blobId = some b) (hsize : u.partSizeBytes = some partSize)
    (hcount : u.plannedPartCount = some plannedCount)
    (hschema : u.partPlanSchemaVersion = some schemaVersion)
    (hsha : u.partPlanSha256 = some planSha256)
    (hds : (ds.map definedRange).Perm (rangesOf db u.id)) :
    Satisfied (validateMultipartPlan db u.id) ↔
      BuildsPlan b.sizeBytes partSize plannedCount schemaVersion planSha256 ds := by
  have hversion : schemaVersion = partPlanSchemaVersion := by
    simp only [sessionChecks, satisfied_cons, Rule.violated_check] at hchecks
    obtain ⟨_, _, _, _, _, _, _, hplan, _⟩ := hchecks
    by_contra hne
    apply hplan
    have hother : ¬schemaVersion = 1 := hne
    simp [multipartPlanCheck, hm, hschema, hother]
  unfold validateMultipartPlan
  simp only [hu, hm, if_true, hb, hsize, hcount, hschema, hsha]
  rw [hversion]
  exact planRules_iff_buildsPlan hds

/-! ## Frozen plans -/

variable {r : Registry}

theorem planned_of_run {u : UploadSessionModel} {plan : PartPlan} (h : store.Reachable r)
    (hu : u ∈ r.db.sessions.rows) (hm : u.strategy = .multipart) (hplan : Planned r.db u plan)
    (calls : List Call) {u' : UploadSessionModel}
    (hu' : (store.runFrom r calls).db.sessions.get? u.id = some u') :
    Planned (store.runFrom r calls).db u' plan := by
  have hextends := extends_of_run_store h calls
  obtain ⟨x, hx, hlater⟩ := hextends.sessions _ u (Relation.get?_of_mem hu)
  have hsame : u' = x := Option.some.inj (hu'.symm.trans hx)
  rw [hsame]
  exact hplan.later hm hlater (Relation.key_of_get? hx) hextends.blobs (rangesOf_run h hu calls)

theorem planned_of_created (h : store.Reachable r) (c : Call) {u : UploadSessionModel}
    (hfree : r.db.sessions.get? u.id = none) (hu : u ∈ (c.step r).db.sessions.rows)
    (hm : u.strategy = .multipart) :
    ∃ requestId versionId blobId plan,
      c.operation = .createOrResolveMultipart requestId versionId blobId plan ∧
      Planned (c.step r).db u plan.plan := by
  have hcommitted := committed_of_reachable h
  cases session_of_effect (effect_of_step c r) hu with
  | kept hold =>
      have hget : r.db.sessions.get? u.id = some u := Relation.get?_of_mem hold
      rw [hfree] at hget
      cases hget
  | moved hold _ =>
      rw [hfree] at hold
      cases hold
  | singlePut _ hsingle _ =>
      rw [hsingle] at hm
      cases hm
  | @multipart requestId versionId blobId plan b now hrow _ hb hsize hparts hop _ _ =>
      refine ⟨requestId, versionId, blobId, plan, hop, ?_⟩
      obtain ⟨b', hb', hblob⟩ := (extends_of_step c hcommitted).blobs _ _ hb
      rw [hrow]
      exact planned_of_new hcommitted hfree hb' (hblob.sizeBytes.trans hsize) hparts

theorem loads_plan {u : UploadSessionModel} {plan : PartPlan} (h : store.Reachable r)
    (hplan : Planned r.db u plan) {s : TxState} (hs : s.db = r.db) :
    ∃ context, run (loadMultipartContext u) s = .ok (context, s) ∧
      context.session.partPlan = plan := by
  obtain ⟨b, hb, _⟩ := hplan.blob
  obtain ⟨context, hcontext, hof⟩ :=
    multipartContext_of_planned hplan (partSound_of_reachable h) hb
  refine ⟨context, ?_, hof.partPlan⟩
  simp only [loadMultipartContext, run_fetch_bind_ok, run_select_bind, run_ofExcept_ok, hs]
  exact ⟨b, hb, hcontext, trivial⟩

/-! ## Agreement -/

/-- The domain and the database agree on part plans: on the part size of every integer, and on the
part rows of every session with its plan columns, in any order. So the seal of every session in
the store passes, its initiation begins, and what loads is the plan that its creation froze. -/
theorem part_plans_agree :
    (∀ size : Int, expectedPartSizeOfInt size = selectPartSizeOfInt size) ∧
    (∀ (db : Database) (u : UploadSessionModel) (b : BlobModel) (rows : List UploadPartModel)
        (partSize plannedCount schemaVersion : Nat) (planSha256 : Sha256Digest),
      db.sessions.get? u.id = some u → u.strategy = .multipart → Satisfied (sessionChecks u) →
      db.blobs.get? u.blobId = some b → u.partSizeBytes = some partSize →
      u.plannedPartCount = some plannedCount → u.partPlanSchemaVersion = some schemaVersion →
      u.partPlanSha256 = some planSha256 → rows.Perm (db.partsOf u.id) →
      (∀ p ∈ rows, Satisfied (partChecks p)) →
      ∃ ds, rows.mapM partDefinition = .ok ds ∧
        (Satisfied (validateMultipartPlan db u.id) ↔ plannedCount = rows.length ∧
          ∃ plan, PartPlan.build schemaVersion b.sizeBytes partSize ds = .ok plan ∧
            plan.sha256 = planSha256)) ∧
    (∀ r : Registry, store.Reachable r → ∀ u ∈ r.db.sessions.rows, u.strategy = .multipart →
      Satisfied (validateMultipartPlan r.db u.id) ∧
      ∀ env ownerId epoch, u.state = .created →
        HoldsAdmission r.db u.id ownerId epoch (r.now + env.ticks.headD 0) →
        (transact (beginProviderInitiation u.id ownerId epoch) env r).1 = .ok ()) ∧
    ∀ r : Registry, store.Reachable r → ∀ (c : Call) (u : UploadSessionModel),
      r.db.sessions.get? u.id = none → u ∈ (c.step r).db.sessions.rows →
      u.strategy = .multipart → ∃ requestId versionId blobId plan,
        c.operation = .createOrResolveMultipart requestId versionId blobId plan ∧
        ∀ (calls : List Call) (u' : UploadSessionModel) (s : TxState),
          (store.runFrom (c.step r) calls).db.sessions.get? u.id = some u' →
          s.db = (store.runFrom (c.step r) calls).db →
          ∃ context, run (loadMultipartContext u') s = .ok (context, s) ∧
            context.session.partPlan = plan.plan := by
  refine ⟨expectedPartSizeOfInt_eq, ?_, ?_, ?_⟩
  · intro db u b rows partSize plannedCount schemaVersion planSha256 hu hm hchecks hb hsize hcount
      hschema hsha hrows hparts
    obtain ⟨ds, hds, hranges⟩ := mapM_partDefinition_ok hparts
    have hperm : (ds.map definedRange).Perm (rangesOf db u.id) := by
      rw [hranges]
      exact hrows.map plannedRange
    have hlength : ds.length = rows.length := by
      rw [← List.length_map definedRange, hranges, List.length_map]
    refine ⟨ds, hds, ?_⟩
    rw [← hlength]
    exact validateMultipartPlan_iff hu hm hchecks hb hsize hcount hschema hsha hperm
  · intro r h u hu hm
    obtain ⟨plan, hplan⟩ := planned_of_reachable h hu hm
    have hget : r.db.sessions.get? u.id = some u := Relation.get?_of_mem hu
    refine ⟨validateMultipartPlan_of_planned hplan hget hm, ?_⟩
    intro env ownerId epoch hstate hlease
    obtain ⟨db, startedAt, activityAt, hcall, _⟩ :=
      transact_beginProviderInitiation h hget hm hstate hlease
    rw [hcall]
  · intro r h c u hfree hu hm
    obtain ⟨requestId, versionId, blobId, plan, hop, hplan⟩ := planned_of_created h c hfree hu hm
    refine ⟨requestId, versionId, blobId, plan, hop, ?_⟩
    intro calls u' s hu' hs
    have hnext : store.Reachable (c.step r) := h.step c
    exact loads_plan (hnext.runFrom calls) (planned_of_run hnext hu hm hplan calls hu') hs

omit [Platform] in
theorem pendingParts_nodup (sessionId : UUID) (plan : PartPlan) :
    ((plan.parts.map (pendingPart sessionId)).map key).Nodup := by
  have hnumbers : (plan.parts.map PartDefinition.partNumber).Nodup := by
    rw [plan.numbers]
    exact List.nodup_range' 1
  refine .of_map Prod.snd ?_
  rw [List.map_map, List.map_map]
  exact hnumbers

theorem planRules_of_null {blobSize : Nat} {partSize plannedCount schemaVersion : Option Nat}
    {planSha256 : Option Sha256Digest} {parts : List UploadPartModel}
    (h : Satisfied (planRules blobSize partSize plannedCount schemaVersion planSha256 parts)) :
    Satisfied (planRules blobSize partSize plannedCount schemaVersion none parts) := by
  simp only [planRules, satisfied_cons] at h ⊢
  obtain ⟨hlimits, hsummary, hrows, _⟩ := h
  refine ⟨hlimits, hsummary, hrows, ?_, satisfied_nil⟩
  simp

end RoboLake

namespace RoboLake.Sample

open Foundation Store Migrations

/-! ## A plan without its digest

The columns of a plan are nullable, and a check on a NULL column is not violated.
-/

/-- The row of the planned session `300`, its digest NULL. -/
def undigested : UploadSessionModel :=
  { plannedSession 300 201 200 1 plan 0 with partPlanSha256 := none }

def undigestedTables : Database :=
  { Database.empty with
    blobs := Relation.empty.insert ⟨201, fileDigest, fileSize, [], .uploading, none, none, none⟩
    sessions := Relation.empty.insert undigested
    parts := ⟨plan.plan.parts.map (pendingPart 300), pendingParts_nodup 300 plan.plan⟩ }

theorem undigested_checks : Satisfied (sessionChecks undigested) := by
  simp [sessionChecks, multipartPlanCheck, providerIdCheck, verificationEvidenceCheck, undigested,
    plannedSession]
  exact ⟨by decide, by decide, by decide, by decide, by decide, rfl⟩

theorem undigested_parts : ∀ p ∈ undigestedTables.partsOf 300, Satisfied (partChecks p) := by
  intro p hp
  obtain ⟨hmem, _⟩ := Database.mem_partsOf.mp hp
  obtain ⟨d, hd, rfl⟩ := List.mem_map.mp hmem
  obtain ⟨i, rfl⟩ := List.mem_ofFn.mp hd
  have hsize : partSize i < bigint := by
    unfold partSize bigint
    split <;> omega
  have hoffset : i.val * 67108864 < bigint := by
    unfold bigint
    omega
  simp only [partChecks, satisfied_cons, Rule.violated_range, Rule.violated_check,
    Ternary.refuted_of, not_not]
  refine ⟨hoffset, hsize, fun _ h => absurd h (Option.not_mem_none _),
    ⟨number_pos i, number_le i⟩, partSize_pos i, ?_, ?_, satisfied_nil⟩
  · intro h
    cases h
  · intro h
    cases h

/-- The trigger has nothing to compare the parts with. -/
theorem undigested_accepted : Satisfied (validateMultipartPlan undigestedTables 300) := by
  have hranges : rangesOf undigestedTables 300 = plan.plan.parts.map definedRange :=
    rangesOf_new committed_empty rfl rfl
  exact planRules_of_null (planRules_of_ranges hranges)

/-- With a NULL digest the database accepts parts whose plan has another digest than the row. -/
theorem undigested_plan_is_accepted :
    ¬∀ (db : Database) (u : UploadSessionModel) (b : BlobModel) (rows : List UploadPartModel),
      db.sessions.get? u.id = some u → u.strategy = .multipart → Satisfied (sessionChecks u) →
      db.blobs.get? u.blobId = some b → rows.Perm (db.partsOf u.id) →
      (∀ p ∈ rows, Satisfied (partChecks p)) →
      ∃ ds, rows.mapM RoboLake.partDefinition = .ok ds ∧
        (Satisfied (validateMultipartPlan db u.id) ↔ u.plannedPartCount = some rows.length ∧
          ∃ partSize ∈ u.partSizeBytes, ∃ schemaVersion ∈ u.partPlanSchemaVersion, ∃ plan,
            PartPlan.build schemaVersion b.sizeBytes partSize ds = .ok plan ∧
            u.partPlanSha256 = some plan.sha256) := by
  intro hall
  obtain ⟨_, _, hiff⟩ := hall undigestedTables undigested _ _ rfl rfl undigested_checks rfl
    (.refl _) undigested_parts
  obtain ⟨_, _, _, _, _, _, _, hdigest⟩ := hiff.mp undigested_accepted
  cases hdigest

end RoboLake.Sample
