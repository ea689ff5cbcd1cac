import RoboLake.Foundation.Distinct
import RoboLake.Guarantees.Publication
import RoboLake.Registry.Accepted
import RoboLake.Registry.Registrations

/-! # Progress

The totals of a Version are frozen from its manifest, while its progress is recounted
from the entry rows and their Blobs. The two agree, and progress never goes back.
-/

namespace RoboLake

open Foundation Store Work Migrations

section Progress

variable [Platform] {r : Registry} {db : Database} {m : Manifest} {v : DatasetVersionModel}

/-! ## The AVAILABLE part of a manifest -/

def IsAvailable (db : Database) (digest : Sha256Digest) : Prop :=
  ∃ b ∈ db.blobs.rows, b.sha256 = digest ∧ b.state = .available

instance (db : Database) (digest : Sha256Digest) : Decidable (IsAvailable db digest) :=
  inferInstanceAs (Decidable (∃ b ∈ db.blobs.rows, _))

def availableEntries (db : Database) (m : Manifest) : List ManifestEntry :=
  m.entries.filter fun e => IsAvailable db e.sha256

/-- The status reports the totals of the manifest and of its AVAILABLE part. -/
structure Reports (db : Database) (m : Manifest) (status : VersionStatus) : Prop where
  fileCount : status.snapshot.fileCount = m.fileCount
  logicalBytes : status.snapshot.logicalBytes = m.logicalBytes
  uniqueBlobCount : status.content.uniqueBlobCount = m.uniqueBlobCount
  uniqueBlobBytes : status.content.uniqueBlobBytes = m.uniqueBlobBytes
  readyFileCount : status.snapshot.readyFileCount = (availableEntries db m).length
  readyLogicalBytes : status.snapshot.readyLogicalBytes =
    ((availableEntries db m).map ManifestEntry.sizeBytes).sum
  availableBlobCount : status.content.availableBlobCount =
    (Manifest.digests (availableEntries db m)).length
  availableBlobBytes : status.content.availableBlobBytes =
    ((Manifest.digests (availableEntries db m)).map (Manifest.digestSize m.entries)).sum

theorem mem_availableEntries {e : ManifestEntry} :
    e ∈ availableEntries db m ↔ e ∈ m.entries ∧ IsAvailable db e.sha256 := by
  unfold availableEntries
  rw [List.mem_filter, decide_eq_true_iff]

theorem availableEntries_sublist : (availableEntries db m).Sublist m.entries :=
  List.filter_sublist

theorem IsAvailable.later {db' : Database} {digest : Sha256Digest} (h : IsAvailable db digest)
    (hlater : Extends db db') : IsAvailable db' digest := by
  obtain ⟨b, hb, hsha, hstate⟩ := h
  have hget : db.blobs.get? b.id = some b := Relation.get?_of_mem hb
  obtain ⟨b', hb', hkept⟩ := hlater.blobs _ b hget
  rw [hkept.available hstate] at hb'
  exact ⟨b, Relation.mem_of_get? hb', hsha, hstate⟩

theorem availableEntries_later {db' : Database} (hlater : Extends db db') :
    (availableEntries db m).Sublist (availableEntries db' m) := by
  refine List.monotone_filter_right m.entries ?_
  intro e he
  exact decide_eq_true ((of_decide_eq_true he).later hlater)

theorem digests_mono {es es' : List ManifestEntry} (h : es ⊆ es') (size : Sha256Digest → Nat) :
    (Manifest.digests es).length ≤ (Manifest.digests es').length ∧
      ((Manifest.digests es).map size).sum ≤ ((Manifest.digests es').map size).sum := by
  have hsub : es.map ManifestEntry.sha256 ⊆ es'.map ManifestEntry.sha256 := List.map_subset _ h
  exact ⟨Distinct.length_dedup_le hsub, Distinct.sum_dedup_le hsub size⟩

/-! ## Rows beside the manifest -/

/-- The AVAILABLE Blobs of the rows carry the AVAILABLE entries. -/
theorem carries_available (hlawful : Lawful db) {es : List ManifestEntry} {bs : List BlobModel}
    (h : List.Forall₂ (Carries db) es bs) :
    List.Forall₂ (Carries db) (es.filter fun e => IsAvailable db e.sha256)
      (bs.filter fun b => b.state = .available) := by
  refine List.rel_filter ?_ h
  intro e b hcarries
  obtain ⟨hb, hsha, _⟩ := hcarries
  simp only [decide_eq_true_eq]
  constructor
  · intro havailable
    obtain ⟨b', hb', hsha', hstate⟩ := havailable
    have hsame : b' = b := hlawful.blob_digest b' hb' b hb b.sha256
      (congrArg some (hsha'.trans hsha.symm)) rfl
    rw [← hsame]
    exact hstate
  · intro hstate
    exact ⟨b, hb, hsha, hstate⟩

/-! ## Reading the status -/

theorem availableEntries_le (db : Database) (m : Manifest) :
    (availableEntries db m).length ≤ m.fileCount ∧
      ((availableEntries db m).map ManifestEntry.sizeBytes).sum ≤ m.logicalBytes ∧
      (Manifest.digests (availableEntries db m)).length ≤ m.uniqueBlobCount ∧
      ((Manifest.digests (availableEntries db m)).map (Manifest.digestSize m.entries)).sum ≤
        m.uniqueBlobBytes := by
  have hsub : (availableEntries db m).Sublist m.entries := availableEntries_sublist
  obtain ⟨hdigests, hbytes⟩ := digests_mono hsub.subset (Manifest.digestSize m.entries)
  exact ⟨hsub.length_le,
    (hsub.map ManifestEntry.sizeBytes).sum_le_sum fun _ _ => Nat.zero_le _, hdigests, hbytes⟩

theorem Registered.counts (h : Registered db v m) (hlawful : Lawful db) :
    ((entryBlobs db v.id).filter fun b => b.state = .available).length =
        (availableEntries db m).length ∧
      (((entryBlobs db v.id).filter fun b => b.state = .available).map BlobModel.sizeBytes).sum =
        ((availableEntries db m).map ManifestEntry.sizeBytes).sum ∧
      ((((entryBlobs db v.id).filter fun b => b.state = .available).map fun b =>
          (b.id, b.sizeBytes)).dedup).length = (Manifest.digests (availableEntries db m)).length ∧
      (((((entryBlobs db v.id).filter fun b => b.state = .available).map fun b =>
          (b.id, b.sizeBytes)).dedup).map Prod.snd).sum =
        ((Manifest.digests (availableEntries db m)).map (Manifest.digestSize m.entries)).sum := by
  have hready := carries_available hlawful h.carries
  have hbytes := map_eq_of_carries hready fun _ _ hcarries => hcarries.2.2
  obtain ⟨hdistinct, hdistinctBytes⟩ := dedup_of_carries hlawful hready
    (Manifest.digestSize m.entries)
    (fun e he => digestSize_of_carries hlawful h.carries (List.mem_filter.mp he).1)
  exact ⟨hready.length_eq.symm, congrArg List.sum hbytes, hdistinct, hdistinctBytes⟩

/-- The status of a registered Version is read and reports its manifest. -/
theorem run_getStatus {t : TxState} (hlawful : Lawful t.db)
    (hv : t.db.versions.get? v.id = some v) (h : Registered t.db v m) :
    ∃ status d, t.db.datasets.get? v.datasetId = some d ∧
      run (getStatus v.id) t = .ok (status, t) ∧ Reports t.db m status ∧
      status.version = versionRecord v d.name ∧
      status.blockingFailureCode = blockingFailure t v.id := by
  obtain ⟨d, hd⟩ := hlawful.version_dataset.get (Relation.mem_of_get? hv)
  obtain ⟨hcount, hbytes, hdistinct, hdistinctBytes⟩ := h.counts hlawful
  obtain ⟨_, hfiles, hlogical, hblobs, hunique⟩ := h.summaries
  obtain ⟨hcountLe, hbytesLe, hdistinctLe, hdistinctBytesLe⟩ := availableEntries_le t.db m
  rw [← hcount, hfiles] at hcountLe
  rw [← hbytes, hlogical] at hbytesLe
  rw [← hdistinct, hblobs] at hdistinctLe
  rw [← hdistinctBytes, hunique] at hdistinctBytesLe
  refine ⟨⟨versionRecord v d.name, ⟨_, _, _, _, hcountLe, hbytesLe⟩,
    ⟨_, _, _, _, hdistinctLe, hdistinctBytesLe⟩, blockingFailure t v.id⟩, d, hd, ?_, ?_, rfl, rfl⟩
  · unfold getStatus
    refine run_fetch_bind_ok.mpr ⟨v, hv, ?_⟩
    refine run_fetch_bind_ok.mpr ⟨d, hd, ?_⟩
    simp only [run_select_bind]
    refine run_ofExcept_bind_ok.mpr ⟨_, SnapshotStatus.make_of_le hcountLe hbytesLe, ?_⟩
    refine run_ofExcept_bind_ok.mpr ⟨_, ContentStatus.make_of_le hdistinctLe hdistinctBytesLe, ?_⟩
    rfl
  · exact ⟨hfiles.symm, hlogical.symm, hblobs.symm, hunique.symm, hcount, hbytes, hdistinct,
      hdistinctBytes⟩

/-! ## Complete content -/

/-- All files are ready exactly when all distinct Blobs are AVAILABLE, and then all bytes are. -/
theorem Reports.complete {status : VersionStatus} (h : Reports db m status) :
    (status.snapshot.readyFileCount = status.snapshot.fileCount ↔
      status.content.availableBlobCount = status.content.uniqueBlobCount) ∧
    (status.snapshot.readyFileCount = status.snapshot.fileCount →
      status.snapshot.readyLogicalBytes = status.snapshot.logicalBytes ∧
        status.content.availableBlobBytes = status.content.uniqueBlobBytes) := by
  have hsub : (availableEntries db m).Sublist m.entries := availableEntries_sublist
  have hall : status.snapshot.readyFileCount = status.snapshot.fileCount →
      availableEntries db m = m.entries := by
    intro hcount
    rw [h.readyFileCount, h.fileCount] at hcount
    exact hsub.eq_of_length hcount
  refine ⟨⟨?_, ?_⟩, ?_⟩
  · intro hcount
    rw [h.availableBlobCount, h.uniqueBlobCount, hall hcount]
    rfl
  · intro hcount
    rw [h.availableBlobCount, h.uniqueBlobCount] at hcount
    have hdigests : m.entries.map ManifestEntry.sha256 ⊆
        (availableEntries db m).map ManifestEntry.sha256 :=
      Distinct.subset_of_length_dedup (List.map_subset _ hsub.subset) (le_of_eq hcount.symm)
    have hentries : availableEntries db m = m.entries := by
      unfold availableEntries
      rw [List.filter_eq_self]
      intro e he
      obtain ⟨e', he', hsha⟩ := List.mem_map.mp (hdigests (List.mem_map_of_mem he))
      rw [← hsha]
      exact decide_eq_true (mem_availableEntries.mp he').2
    rw [h.readyFileCount, h.fileCount, hentries]
    rfl
  · intro hcount
    rw [h.readyLogicalBytes, h.logicalBytes, h.availableBlobBytes, h.uniqueBlobBytes, hall hcount]
    exact ⟨rfl, rfl⟩

theorem ready_is_complete (h : store.Reachable r) (hv : v ∈ r.db.versions.rows)
    (hready : v.state = .ready) (hregistered : Registered r.db v m) :
    availableEntries r.db m = m.entries ∧
      ∀ b ∈ entryBlobs r.db v.id, b.failureCode = none := by
  have havailable : ∀ b ∈ entryBlobs r.db v.id, b.state = .available := by
    intro b hb
    obtain ⟨e, he, hget⟩ := List.mem_filterMap.mp hb
    obtain ⟨b', hb', hstate⟩ := (readyContent_of_reachable h v hv hready).available e he
    rw [hget] at hb'
    cases hb'
    exact hstate
  have hlawful := (committed_of_reachable h).lawful
  constructor
  · unfold availableEntries
    rw [List.filter_eq_self]
    intro e he
    obtain ⟨b, hb, hmem, hsha, _⟩ := carried_of_mem hregistered.carries he
    exact decide_eq_true ⟨b, hmem, hsha, havailable b hb⟩
  · intro b hb
    obtain ⟨_, _, hmem, _⟩ := mem_of_carries hregistered.carries hb
    have hcoded := failuresCoded_of_reachable h b hmem
    rw [havailable b hb] at hcoded
    exact hcoded.mpr nofun

theorem blockingFailure_eq_none {t : TxState} {versionId : UUID}
    (h : ∀ b ∈ entryBlobs t.db versionId, b.failureCode = none) :
    blockingFailure t versionId = none := by
  have hcodes : (entryBlobs t.db versionId).filterMap BlobModel.failureCode = [] :=
    List.filterMap_eq_nil_iff.mpr h
  unfold blockingFailure
  rw [hcodes]
  rfl

/-! ## Statuses along a run -/

theorem reports_of_getStatus (h : store.Reachable r) (hv : v ∈ r.db.versions.rows)
    (hregistered : Registered r.db v m) {env : Env} {status : VersionStatus}
    (hstatus : (transact (getStatus v.id) env r).1 = .ok status) :
    Reports r.db m status ∧ status.version.state = v.state ∧
      status.blockingFailureCode = blockingFailure (beginTx env r) v.id := by
  have hget : r.db.versions.get? v.id = some v := Relation.get?_of_mem hv
  obtain ⟨status', d, _, hrun, hreports, hversion, hblocking⟩ :=
    run_getStatus (t := beginTx env r) (committed_of_reachable h).lawful hget hregistered
  rw [transact_of_read hrun] at hstatus
  cases hstatus
  exact ⟨hreports, congrArg VersionRecord.state hversion, hblocking⟩

/-- The status of every registered Version is read, counts the AVAILABLE part of its manifest,
and never goes back; a READY Version is complete. -/
theorem progress_is_sound_and_monotone (h : store.Reachable r) (hv : v ∈ r.db.versions.rows) :
    ∃ m, Manifest.fromCanonicalBytes v.manifestBytes = .ok m ∧
      (∀ env, ∃ status, (transact (getStatus v.id) env r).1 = .ok status) ∧
      (∀ env status, (transact (getStatus v.id) env r).1 = .ok status → Reports r.db m status ∧
        (status.snapshot.readyFileCount = status.snapshot.fileCount ↔
          status.content.availableBlobCount = status.content.uniqueBlobCount) ∧
        (status.snapshot.readyFileCount = status.snapshot.fileCount →
          status.snapshot.readyLogicalBytes = status.snapshot.logicalBytes ∧
            status.content.availableBlobBytes = status.content.uniqueBlobBytes) ∧
        (v.state = .ready → status.snapshot.readyFileCount = status.snapshot.fileCount ∧
          status.snapshot.readyLogicalBytes = status.snapshot.logicalBytes ∧
          status.content.availableBlobCount = status.content.uniqueBlobCount ∧
          status.content.availableBlobBytes = status.content.uniqueBlobBytes ∧
          status.nextAction = .none)) ∧
      ∀ calls env env' status status', (transact (getStatus v.id) env r).1 = .ok status →
        (transact (getStatus v.id) env' (store.runFrom r calls)).1 = .ok status' →
        status.snapshot.readyFileCount ≤ status'.snapshot.readyFileCount ∧
          status.snapshot.readyLogicalBytes ≤ status'.snapshot.readyLogicalBytes ∧
          status.content.availableBlobCount ≤ status'.content.availableBlobCount ∧
          status.content.availableBlobBytes ≤ status'.content.availableBlobBytes := by
  obtain ⟨m, hregistered⟩ := registered_of_reachable h v hv
  refine ⟨m, hregistered.loads, ?_, ?_, ?_⟩
  · intro env
    have hget : r.db.versions.get? v.id = some v := Relation.get?_of_mem hv
    obtain ⟨status, _, _, hrun, _⟩ :=
      run_getStatus (t := beginTx env r) (committed_of_reachable h).lawful hget hregistered
    exact ⟨status, by rw [transact_of_read hrun]⟩
  · intro env status hstatus
    obtain ⟨hreports, hstate, hblocking⟩ := reports_of_getStatus h hv hregistered hstatus
    refine ⟨hreports, hreports.complete.1, hreports.complete.2, ?_⟩
    intro hready
    obtain ⟨hentries, hcodes⟩ := ready_is_complete h hv hready hregistered
    have hfiles : status.snapshot.readyFileCount = status.snapshot.fileCount := by
      rw [hreports.readyFileCount, hreports.fileCount, hentries]
      rfl
    obtain ⟨hlogical, hunique⟩ := hreports.complete.2 hfiles
    refine ⟨hfiles, hlogical, hreports.complete.1.mp hfiles, hunique, ?_⟩
    have hnone : status.blockingFailureCode = none :=
      hblocking.trans (blockingFailure_eq_none hcodes)
    unfold VersionStatus.nextAction
    rw [hnone, if_neg nofun, hstate, if_pos hready]
  · intro calls env env' status status' hstatus hstatus'
    have hextends := extends_of_run_store h calls
    have hget : r.db.versions.get? v.id = some v := Relation.get?_of_mem hv
    obtain ⟨v', hv', hlater⟩ := hextends.versions _ v hget
    have hid : v'.id = v.id := Relation.key_of_get? hv'
    have hmem := Relation.mem_of_get? hv'
    have hbytes : v'.manifestBytes = v.manifestBytes :=
      (hlater.content ((committed_of_reachable h).sealed v hv)).2.2.2.1
    obtain ⟨m', hregistered'⟩ := registered_of_reachable (h.runFrom calls) v' hmem
    have hsame : m' = m := by
      have hloads := hregistered'.loads
      rw [hbytes, hregistered.loads] at hloads
      exact (Except.ok.inj hloads).symm
    rw [hsame] at hregistered'
    have hreports := (reports_of_getStatus h hv hregistered hstatus).1
    have hreports' :=
      (reports_of_getStatus (h.runFrom calls) hmem hregistered' (hid.symm ▸ hstatus')).1
    have hmore : (availableEntries r.db m).Sublist
        (availableEntries (store.runFrom r calls).db m) := availableEntries_later hextends
    obtain ⟨hdigests, hdigestBytes⟩ := digests_mono hmore.subset (Manifest.digestSize m.entries)
    rw [hreports.readyFileCount, hreports.readyLogicalBytes, hreports.availableBlobCount,
      hreports.availableBlobBytes, hreports'.readyFileCount, hreports'.readyLogicalBytes,
      hreports'.availableBlobCount, hreports'.availableBlobBytes]
    exact ⟨hmore.length_le,
      (hmore.map ManifestEntry.sizeBytes).sum_le_sum fun _ _ => Nat.zero_le _, hdigests,
      hdigestBytes⟩

end Progress

namespace Sample

set_option maxRecDepth 100000 in
/-- The published Version is read as complete. -/
theorem sample_progress_is_complete :
    ∃ status, (transact (getStatus 200) (env 7) (store.runFrom store.start publication)).1 =
        .ok status ∧ status.snapshot.readyFileCount = status.snapshot.fileCount ∧
      status.nextAction = .none := by
  have hready : ((store.runFrom store.start publication).db.versions.get? 200).any
      (fun v => v.id = 200 ∧ v.state = .ready) = true := by decide +kernel
  obtain ⟨v, hv, hstate⟩ := (Option.any_eq_true _ _).mp hready
  obtain ⟨hid, hpublished⟩ := of_decide_eq_true hstate
  obtain ⟨_, _, hreads, hsound, _⟩ :=
    progress_is_sound_and_monotone ⟨publication, rfl⟩ (Relation.mem_of_get? hv)
  rw [hid] at hreads hsound
  obtain ⟨status, hstatus⟩ := hreads (env 7)
  obtain ⟨_, _, _, hcomplete⟩ := hsound (env 7) status hstatus
  obtain ⟨hfiles, _, _, _, haction⟩ := hcomplete hpublished
  exact ⟨status, hstatus, hfiles, haction⟩

end Sample

end RoboLake
