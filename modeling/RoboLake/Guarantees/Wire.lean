import RoboLake.Application.Status
import RoboLake.Domain.Payloads
import RoboLake.Guarantees.Progress

/-! # Statuses on the wire

The server derives the blocking failure of a Version from its Blobs, but its answer
carries the failure of the Version row, and that is what the client takes for the
blocking one. The two agree while a Version is FAILED just when one of its Blobs is.
-/

namespace RoboLake

open Foundation Store Work Migrations

section Wire

variable [Platform] {r : Registry} {v : DatasetVersionModel}

omit [Platform] in
theorem FailureCode.eq_iff_isSome {code code' : Option FailureCode} :
    code = code' ↔ (code.isSome = true ↔ code'.isSome = true) := by
  cases code with
  | none => cases code' <;> simp
  | some c =>
      cases code' with
      | none => simp
      | some c' =>
          cases c
          cases c'
          simp

theorem isSome_blockingFailure {t : TxState} {versionId : UUID} :
    (blockingFailure t versionId).isSome = true ↔
      ∃ b ∈ entryBlobs t.db versionId, b.failureCode ≠ none := by
  constructor
  · intro hsome
    obtain ⟨code, hcode⟩ := Option.isSome_iff_exists.mp hsome
    obtain ⟨b, hb, hb'⟩ := List.mem_filterMap.mp (List.mem_of_getElem? hcode)
    exact ⟨b, hb, by rw [hb']; nofun⟩
  · intro hcoded
    obtain ⟨b, hb, hne⟩ := hcoded
    obtain ⟨code, hcode⟩ := Option.ne_none_iff_exists'.mp hne
    have hmem : code ∈ (entryBlobs t.db versionId).filterMap BlobModel.failureCode :=
      List.mem_filterMap.mpr ⟨b, hb, hcode⟩
    have hlength := List.length_pos_of_mem hmem
    unfold blockingFailure
    rw [List.getElem?_eq_getElem (Nat.mod_lt _ hlength)]
    rfl

/-- Both failures of a status, in terms of the rows they are read from. -/
theorem blocking_eq_iff {env : Env} (h : store.Reachable r) (hv : v ∈ r.db.versions.rows) :
    blockingFailure (beginTx env r) v.id = v.failureCode ↔
      (v.state = .failed ↔ ∃ b ∈ entryBlobs r.db v.id, b.state = .failed) := by
  have hversion := versionFailuresCoded_of_reachable h v hv
  have hcode : v.failureCode.isSome = true ↔ v.state = .failed := by
    rw [Option.isSome_iff_ne_none, ne_eq, hversion, not_not]
  have hblob : (∃ b ∈ entryBlobs r.db v.id, b.failureCode ≠ none) ↔
      ∃ b ∈ entryBlobs r.db v.id, b.state = .failed := by
    refine exists_congr fun b => and_congr_right fun hb => ?_
    obtain ⟨_, _, hget⟩ := List.mem_filterMap.mp hb
    rw [ne_eq, failuresCoded_of_reachable h b (Relation.mem_of_get? hget), not_not]
  rw [FailureCode.eq_iff_isSome, isSome_blockingFailure, hcode]
  exact (iff_congr hblob Iff.rfl).trans Iff.comm

theorem versionNumber_bounds (h : store.Reachable r) (hv : v ∈ r.db.versions.rows) :
    0 < v.versionNumber ∧ v.versionNumber < 2 ^ 63 := by
  have hchecks := (committed_of_reachable h).lawful.version_checks v hv
  simp only [versionChecks, satisfied_cons, Rule.violated_range, Rule.violated_check,
    Ternary.refuted_of, not_not] at hchecks
  obtain ⟨hlt, _, _, _, _, _, hpos, _⟩ := hchecks
  exact ⟨hpos, hlt⟩

/-- A status survives the wire exactly when its Version is FAILED just while a Blob of it is. -/
theorem status_survives_wire_iff [TextReaders] (h : store.Reachable r)
    (hv : v ∈ r.db.versions.rows) {env : Env} {status : VersionStatus}
    (hstatus : (transact (getStatus v.id) env r).1 = .ok status) :
    ApiClient.status (statusResponse status) = .ok status ↔
      (v.state = .failed ↔ ∃ b ∈ entryBlobs r.db v.id, b.state = .failed) := by
  have hget : r.db.versions.get? v.id = some v := Relation.get?_of_mem hv
  have hlawful := (committed_of_reachable h).lawful
  obtain ⟨m, hregistered⟩ := registered_of_reachable h v hv
  obtain ⟨status', d, _, hrun, _, hversion, hblocking⟩ :=
    run_getStatus (t := beginTx env r) hlawful hget hregistered
  rw [transact_of_read hrun] at hstatus
  cases hstatus
  obtain ⟨hpos, hlt⟩ := versionNumber_bounds h hv
  have hnumber : status.version.versionNumber = v.versionNumber :=
    congrArg VersionRecord.versionNumber hversion
  have hcode : status.version.failureCode = v.failureCode :=
    congrArg VersionRecord.failureCode hversion
  rw [ApiClient.status_statusResponse (hnumber ▸ hpos) (hnumber ▸ hlt), hcode]
  have hblock : blockingFailure (beginTx env r) v.id = v.failureCode ↔
      (v.state = .failed ↔ ∃ b ∈ entryBlobs r.db v.id, b.state = .failed) := blocking_eq_iff h hv
  refine Iff.trans ?_ hblock
  rw [← hblocking]
  constructor
  · intro hsame
    have hstatus := Except.ok.inj hsame
    exact (congrArg VersionStatus.blockingFailureCode hstatus).symm
  · intro hsame
    rw [← hsame]

end Wire

namespace Sample

/-! ## A shared Blob -/

scoped instance readers : TextReaders where
  decimalValue c := if 0x30 ≤ c.val ∧ c.val < 0x3A then some (c.val - 0x30) else none
  decimalValue_ascii := by decide
  readUuid := UUID.parse
  readUuid_str := UUID.parse_str

set_option maxRecDepth 100000 in
def otherName : DatasetName := ⟨text "e", rfl, by decide⟩

/-- A second Dataset registers the same file as Version `1200`, and the attempt on its Blob,
started for Version `200`, fails. -/
def poisoned : List Call :=
  registration ++ [⟨.createDataset otherName "other" manifestDigest, env 11⟩,
    ⟨.registerVersion 1100 manifest "other version" manifestDigest, env 12⟩,
    ⟨.prepareUpload 200 fileDigest "put" manifestDigest, env 7⟩,
    ⟨.markUploadInProgress 700, env 8⟩,
    ⟨.markUploadFailed 700 .storedObjectMismatch "The object differs.", env 13⟩]

set_option maxRecDepth 100000 in
/-- The status of a DRAFT Version that shares a FAILED Blob does not survive the wire. -/
theorem sample_shared_failure_is_lost :
    ¬∀ r, store.Reachable r → ∀ v ∈ r.db.versions.rows, ∀ env status,
      (transact (getStatus v.id) env r).1 = .ok status →
        ApiClient.status (statusResponse status) = .ok status := by
  intro hall
  have hfacts : ((store.runFrom store.start poisoned).db.versions.get? 1200).any (fun v =>
      v.id = 1200 ∧ v.state = .draft ∧
        ∃ b ∈ entryBlobs (store.runFrom store.start poisoned).db 1200, b.state = .failed) =
          true := by
    decide
  obtain ⟨v, hv, hfacts⟩ := (Option.any_eq_true _ _).mp hfacts
  obtain ⟨hid, hdraft, hshared⟩ := of_decide_eq_true hfacts
  have hreachable : store.Reachable (store.runFrom store.start poisoned) := ⟨poisoned, rfl⟩
  have hmem := Relation.mem_of_get? hv
  obtain ⟨_, _, hreads, _⟩ := progress_is_sound_and_monotone hreachable hmem
  obtain ⟨status, hstatus⟩ := hreads (env 14)
  have hsurvives := hall _ hreachable v hmem (env 14) status hstatus
  have hfailed := ((status_survives_wire_iff hreachable hmem hstatus).mp hsurvives).mpr
    (hid.symm ▸ hshared)
  rw [hdraft] at hfailed
  cases hfailed

set_option maxRecDepth 100000 in
/-- The status of the started Version survives the wire. -/
theorem sample_started_status_survives :
    ∃ status, (transact (getStatus 200) (env 14) (store.runFrom store.start started)).1 =
        .ok status ∧ ApiClient.status (statusResponse status) = .ok status := by
  have hfacts : ((store.runFrom store.start started).db.versions.get? 200).any (fun v =>
      v.id = 200 ∧ v.state ≠ .failed ∧
        ∀ b ∈ entryBlobs (store.runFrom store.start started).db 200, b.state ≠ .failed) =
          true := by
    decide
  obtain ⟨v, hv, hfacts⟩ := (Option.any_eq_true _ _).mp hfacts
  obtain ⟨hid, hstate, hblobs⟩ := of_decide_eq_true hfacts
  have hreachable : store.Reachable (store.runFrom store.start started) := ⟨started, rfl⟩
  have hmem := Relation.mem_of_get? hv
  obtain ⟨_, _, hreads, _⟩ := progress_is_sound_and_monotone hreachable hmem
  obtain ⟨status, hstatus⟩ := hreads (env 14)
  refine ⟨status, hid ▸ hstatus, (status_survives_wire_iff hreachable hmem hstatus).mpr ?_⟩
  rw [hid]
  refine iff_of_false hstate ?_
  intro hfailed
  obtain ⟨b, hb, hstate'⟩ := hfailed
  exact hblobs b hb hstate'

end Sample

end RoboLake
