import RoboLake.Application.Push
import RoboLake.Domain.Collisions
import RoboLake.Foundation.Recorded
import RoboLake.Guarantees.Repairs

/-! # Push accounting

A push is said of its calls and their answers: provided that every call is answered, with
the digest of the manifest and the true size of each Blob, what was created and what was
reused are together the unique content of the manifest.
-/

namespace RoboLake

open Foundation Recorded Store

section Pushes

variable [Platform] {ρ σ : Type}

/-! ## Recorded calls -/

inductive PushCall (ρ : Type)
  | scan (answer : Except Failure (ScannedDataset ρ))
  | createDataset (answer : Except Failure DatasetRecord)
  | registerVersion (answer : Except Failure VersionRecord)
  | prepareUpload (digest : Sha256Digest) (answer : Except Failure UploadPreparation)
  | uploadUrl (sessionId : UUID) (answer : Except Failure PresignedRequest)
  | put (entry : ManifestEntry) (answer : Except Failure PutReceipt)
  | completeUpload (sessionId : UUID) (answer : Except Failure UploadPreparation)
  | finalize (answer : Except Failure VersionRecord)
  | progress (event : ProgressEvent) (answer : Except Failure Unit)

/-- The same ports, with a record of their calls. -/
def PushWorkflow.recorded (workflow : PushWorkflow ρ (Acting Failure σ)) :
    PushWorkflow ρ (Recorded Failure σ (PushCall ρ)) where
  scan := record .scan workflow.scan
  controlPlane := {
    createDataset := fun name key =>
      record .createDataset (workflow.controlPlane.createDataset name key)
    registerVersion := fun datasetId manifest key =>
      record .registerVersion (workflow.controlPlane.registerVersion datasetId manifest key)
    prepareUpload := fun versionId digest key =>
      record (.prepareUpload digest) (workflow.controlPlane.prepareUpload versionId digest key)
    uploadUrl := fun sessionId =>
      record (.uploadUrl sessionId) (workflow.controlPlane.uploadUrl sessionId)
    completeUpload := fun sessionId etag =>
      record (.completeUpload sessionId) (workflow.controlPlane.completeUpload sessionId etag)
    finalize := fun versionId => record .finalize (workflow.controlPlane.finalize versionId) }
  put := fun localRef request entry => record (.put entry) (workflow.put localRef request entry)
  progress := fun event => record (.progress event) (workflow.progress event)

namespace PushCall

def prepared? : PushCall ρ → Option Sha256Digest
  | prepareUpload digest _ => some digest
  | _ => none

def transferred? : PushCall ρ → Option Sha256Digest
  | put entry _ => some entry.sha256
  | _ => none

def finalized? : PushCall ρ → Option (Except Failure VersionRecord)
  | finalize answer => some answer
  | _ => none

def progress? : PushCall ρ → Option ProgressEvent
  | progress event _ => some event
  | _ => none

/-- The call was answered, with the digest of the manifest and the true sizes of its Blobs. A
session belongs to one Blob. -/
def Honest (scanned : ScannedDataset ρ) (blobOf : UUID → Sha256Digest) : PushCall ρ → Prop
  | scan answer => answer = .ok scanned
  | createDataset answer => ∃ record, answer = .ok record
  | registerVersion answer =>
      ∃ version, answer = .ok version ∧ version.manifestSha256 = scanned.manifest.sha256
  | prepareUpload digest answer =>
      ∃ preparation, answer = .ok preparation ∧
        preparation.version.manifestSha256 = scanned.manifest.sha256 ∧
        preparation.sizeBytes = Manifest.digestSize scanned.manifest.entries digest ∧
        (preparation.available = false →
          ∃ sessionId, preparation.sessionId = some sessionId ∧ blobOf sessionId = digest)
  | uploadUrl _ answer => ∃ request, answer = .ok request
  | put _ answer => ∃ receipt, answer = .ok receipt
  | completeUpload sessionId answer =>
      ∃ completed, answer = .ok completed ∧
        completed.version.manifestSha256 = scanned.manifest.sha256 ∧ completed.available = true ∧
        completed.sizeBytes = Manifest.digestSize scanned.manifest.entries (blobOf sessionId)
  | finalize answer =>
      ∃ version, answer = .ok version ∧
        version.manifestSha256 = scanned.manifest.sha256 ∧ version.state = .ready
  | progress _ answer => answer = .ok ()

end PushCall

open PushCall PushWorkflow

/-! ## Progress -/

def ProgressEvent.Le (e e' : ProgressEvent) : Prop :=
  e.resolvedBlobCount ≤ e'.resolvedBlobCount ∧ e.resolvedBlobBytes ≤ e'.resolvedBlobBytes

/-- The events climb from one tally to another, against the totals of the manifest. -/
structure Climbs (manifest : Manifest) (low high : Tally) (events : List ProgressEvent) :
    Prop where
  le : low.resolvedCount ≤ high.resolvedCount ∧ low.resolvedBytes ≤ high.resolvedBytes
  monotone : events.Pairwise ProgressEvent.Le
  above : ∀ e ∈ events, low.resolvedCount ≤ e.resolvedBlobCount ∧
    low.resolvedBytes ≤ e.resolvedBlobBytes
  below : ∀ e ∈ events, e.resolvedBlobCount ≤ high.resolvedCount ∧
    e.resolvedBlobBytes ≤ high.resolvedBytes
  totals : ∀ e ∈ events, e.uniqueBlobCount = manifest.uniqueBlobCount ∧
    e.uniqueBlobBytes = manifest.uniqueBlobBytes

theorem Climbs.append {manifest : Manifest} {low mid high : Tally}
    {events events' : List ProgressEvent} (h : Climbs manifest low mid events)
    (h' : Climbs manifest mid high events') : Climbs manifest low high (events ++ events') := by
  have hle := h.le
  have hle' := h'.le
  refine ⟨by omega, ?_, ?_, ?_, ?_⟩
  · refine List.pairwise_append.mpr ⟨h.monotone, h'.monotone, ?_⟩
    intro e he e' he'
    have hbelow := h.below e he
    have habove := h'.above e' he'
    unfold ProgressEvent.Le
    omega
  · intro e he
    rcases List.mem_append.mp he with he | he
    · exact h.above e he
    · have habove := h'.above e he
      omega
  · intro e he
    rcases List.mem_append.mp he with he | he
    · have hbelow := h.below e he
      omega
    · exact h'.below e he
  · intro e he
    rcases List.mem_append.mp he with he | he
    · exact h.totals e he
    · exact h'.totals e he

theorem climbs_single {manifest : Manifest} {low high : Tally} {e : ProgressEvent}
    (hle : low.resolvedCount ≤ high.resolvedCount ∧ low.resolvedBytes ≤ high.resolvedBytes)
    (habove : low.resolvedCount ≤ e.resolvedBlobCount ∧ low.resolvedBytes ≤ e.resolvedBlobBytes)
    (hbelow : e.resolvedBlobCount ≤ high.resolvedCount ∧
      e.resolvedBlobBytes ≤ high.resolvedBytes)
    (htotals : e.uniqueBlobCount = manifest.uniqueBlobCount ∧
      e.uniqueBlobBytes = manifest.uniqueBlobBytes) : Climbs manifest low high [e] := by
  refine ⟨hle, List.pairwise_singleton _ _, ?_, ?_, ?_⟩ <;>
    · intro x hx
      rw [List.mem_singleton] at hx
      rw [hx]
      assumption

/-! ## One Blob -/

omit [Platform] in
/-- A Blob that is counted is resolved, and it was either created or reused. -/
theorem counted_eq {tally tally' : Tally} {size : Nat}
    (h : tally' = tally.reuse size ∨ tally' = tally.create size) :
    tally'.resolvedCount = tally.resolvedCount + 1 ∧
      tally'.resolvedBytes = tally.resolvedBytes + size ∧
      tally'.createdCount + tally'.reusedCount = tally.createdCount + tally.reusedCount + 1 ∧
      tally'.createdBytes + tally'.reusedBytes = tally.createdBytes + tally.reusedBytes + size := by
  rcases h with rfl | rfl
  · exact ⟨rfl, rfl, rfl, (Nat.add_assoc _ _ _).symm⟩
  · exact ⟨rfl, rfl, Nat.add_right_comm _ _ _, Nat.add_right_comm _ _ _⟩

/-- The calls that resolve the Blob of one file. -/
structure Resolves (manifest : Manifest) (file : ScannedFile ρ) (tally tally' : Tally)
    (calls : List (PushCall ρ)) : Prop where
  prepared : calls.filterMap prepared? = [file.entry.sha256]
  transferred : (calls.filterMap transferred?).Sublist [file.entry.sha256]
  finalized : calls.filterMap finalized? = []
  climbs : Climbs manifest tally tally' (calls.filterMap progress?)
  counted : tally' = tally.reuse file.entry.sizeBytes ∨ tally' = tally.create file.entry.sizeBytes

variable {scanned : ScannedDataset ρ} {blobOf : UUID → Sha256Digest}

variable {workflow : PushWorkflow ρ (Acting Failure σ)} {s : σ} {file : ScannedFile ρ}
  {tally : Tally}

theorem provided_requireManifest {actual expected : Sha256Digest}
    {Q : Unit → List (PushCall ρ) → Prop} (h : actual = expected) (hQ : Q () []) :
    Provided (Honest scanned blobOf)
      (requireManifest actual expected : Recorded Failure σ (PushCall ρ) Unit) s (Returns Q) := by
  unfold requireManifest
  rw [if_neg (not_not.mpr h)]
  exact provided_pure ⟨(), rfl, hQ⟩

def Tally.event (tally : Tally) (kind : ProgressKind) (path : Option RelativePath)
    (manifest : Manifest) : ProgressEvent :=
  ⟨kind, path, tally.resolvedCount, manifest.uniqueBlobCount, tally.resolvedBytes,
    manifest.uniqueBlobBytes⟩

theorem provided_emit {kind : ProgressKind} {path : Option RelativePath} {manifest : Manifest}
    {Q : Unit → List (PushCall ρ) → Prop}
    (hQ : Q () [.progress (tally.event kind path manifest) (.ok ())]) :
    Provided (Honest scanned blobOf) (workflow.recorded.emit kind path tally manifest) s
      (Returns Q) := by
  refine provided_record fun x hx => ?_
  have hok : x = .ok () := hx
  rw [hok]
  exact ⟨(), rfl, hQ⟩

theorem provided_transfer {sessionId : UUID} (hblob : blobOf sessionId = file.entry.sha256)
    (hsize : Manifest.digestSize scanned.manifest.entries file.entry.sha256 =
      file.entry.sizeBytes) :
    Provided (Honest scanned blobOf)
      (workflow.recorded.transfer scanned.manifest file sessionId tally) s
      (Returns fun tally' calls => ∀ x, Resolves scanned.manifest file tally tally'
        (.prepareUpload file.entry.sha256 x :: calls)) := by
  unfold transfer
  refine provided_bind (provided_emit fun w => ?_)
  refine provided_bind (provided_record fun x hrequest => ?_)
  obtain ⟨request, rfl⟩ := hrequest
  refine ⟨request, rfl, fun w => ?_⟩
  refine provided_bind (provided_record fun x hreceipt => ?_)
  obtain ⟨receipt, rfl⟩ := hreceipt
  refine ⟨receipt, rfl, fun w => ?_⟩
  refine provided_bind (provided_record fun x hcompleted => ?_)
  obtain ⟨completed, rfl, hmanifest, havailable, hbytes⟩ := hcompleted
  refine ⟨completed, rfl, fun w => ?_⟩
  refine provided_bind (provided_requireManifest hmanifest fun w => ?_)
  rw [hblob, hsize] at hbytes
  simp only [havailable, reduceCtorEq, if_false, hbytes]
  refine provided_bind (provided_emit fun w => provided_pure ?_)
  refine ⟨_, rfl, fun answer => ?_⟩
  have hcounted : ∀ tally', tally' = (if receipt.outcome = .created then
      tally.create file.entry.sizeBytes else tally.reuse file.entry.sizeBytes) →
      tally' = tally.reuse file.entry.sizeBytes ∨ tally' = tally.create file.entry.sizeBytes := by
    intro tally' htally
    rw [htally]
    split
    · exact .inr rfl
    · exact .inl rfl
  generalize htally : (if receipt.outcome = .created then
    tally.create file.entry.sizeBytes else tally.reuse file.entry.sizeBytes) = tally'
  have hcount := hcounted tally' htally.symm
  obtain ⟨hresolved, hresolvedBytes, _, _⟩ := counted_eq hcount
  refine ⟨rfl, .refl _, rfl, ?_, hcount⟩
  -- The first event stands at the old tally, the second at the new one.
  have hfirst := @climbs_single _ scanned.manifest tally tally
    (tally.event .uploading (some file.entry.relativePath) scanned.manifest)
    ⟨le_rfl, le_rfl⟩ ⟨le_rfl, le_rfl⟩ ⟨le_rfl, le_rfl⟩ ⟨rfl, rfl⟩
  have hsecond := @climbs_single _ scanned.manifest tally tally'
    (tally'.event .verified (some file.entry.relativePath) scanned.manifest)
    (by omega) (by simp only [Tally.event]; omega) ⟨le_rfl, le_rfl⟩ ⟨rfl, rfl⟩
  exact hfirst.append hsecond

theorem provided_resolve {version : VersionRecord}
    (hsize : Manifest.digestSize scanned.manifest.entries file.entry.sha256 =
      file.entry.sizeBytes) :
    Provided (Honest scanned blobOf)
      (workflow.recorded.resolve scanned.manifest version tally file) s
      (Returns fun tally' calls => Resolves scanned.manifest file tally tally' calls) := by
  unfold resolve
  refine provided_bind (provided_record fun x hprepared => ?_)
  obtain ⟨preparation, rfl, hmanifest, hbytes, hsession⟩ := hprepared
  refine ⟨preparation, rfl, fun w => ?_⟩
  refine provided_bind (provided_requireManifest hmanifest fun w => ?_)
  rw [hsize] at hbytes
  rw [if_neg (not_not.mpr hbytes)]
  by_cases havailable : preparation.available = true
  · rw [if_pos havailable, hbytes]
    refine provided_bind (provided_emit fun w => provided_pure ?_)
    refine ⟨_, rfl, rfl, List.nil_sublist _, rfl, ?_, .inl rfl⟩
    refine climbs_single ?_ ?_ ⟨le_rfl, le_rfl⟩ ⟨rfl, rfl⟩ <;>
      · simp only [Tally.event, Tally.reuse]
        omega
  · rw [if_neg havailable]
    obtain ⟨sessionId, hsome, hblob⟩ := hsession (by simpa using havailable)
    rw [hsome]
    refine (provided_transfer hblob hsize).mono fun x calls hreturns => ?_
    obtain ⟨tally', rfl, hresolves⟩ := hreturns
    exact ⟨tally', rfl, hresolves _⟩

/-! ## All Blobs -/

private theorem foldl_addSource (files : List (ScannedFile ρ)) {acc : List (ScannedFile ρ)}
    (hacc : (acc.map fun f => f.entry.sha256).Nodup) :
    ((files.foldl addSource acc).map fun f => f.entry.sha256).Nodup ∧
      (∀ g ∈ files.foldl addSource acc, g ∈ acc ∨ g ∈ files) ∧
      (∀ g ∈ acc, g ∈ files.foldl addSource acc) ∧
      ∀ f ∈ files, ∃ g ∈ files.foldl addSource acc, g.entry.sha256 = f.entry.sha256 := by
  induction files generalizing acc with
  | nil => exact ⟨hacc, fun g hg => .inl hg, fun g hg => hg, nofun⟩
  | cons file files ih =>
      rw [List.foldl_cons]
      by_cases hknown : (acc.any fun f => f.entry.sha256 = file.entry.sha256) = true
      · have hsame : addSource acc file = acc := if_pos hknown
        rw [hsame]
        obtain ⟨hnodup, hmem, hkept, hcover⟩ := ih hacc
        refine ⟨hnodup, fun g hg => (hmem g hg).imp_right (List.mem_cons_of_mem _), hkept, ?_⟩
        intro f hf
        rcases List.mem_cons.mp hf with rfl | hf
        · obtain ⟨g, hg, hsha⟩ := List.any_eq_true.mp hknown
          exact ⟨g, hkept g hg, of_decide_eq_true hsha⟩
        · exact hcover f hf
      · have hnew : addSource acc file = acc ++ [file] := if_neg hknown
        rw [hnew]
        have hnodup' : ((acc ++ [file]).map fun f => f.entry.sha256).Nodup := by
          rw [List.map_append, List.map_singleton]
          refine List.nodup_append.mpr ⟨hacc, List.nodup_singleton _, ?_⟩
          intro d hd d' hd' hsame
          obtain ⟨g, hg, hsha⟩ := List.mem_map.mp hd
          rw [List.mem_singleton] at hd'
          refine hknown (List.any_eq_true.mpr ⟨g, hg, ?_⟩)
          exact decide_eq_true (hsha.trans (hsame.trans hd'))
        obtain ⟨hnodup, hmem, hkept, hcover⟩ := ih hnodup'
        refine ⟨hnodup, ?_, fun g hg => hkept g (List.mem_append_left _ hg), ?_⟩
        · intro g hg
          rcases hmem g hg with hg | hg
          · rcases List.mem_append.mp hg with hg | hg
            · exact .inl hg
            · rw [List.mem_singleton] at hg
              exact .inr (hg ▸ List.mem_cons_self)
          · exact .inr (List.mem_cons_of_mem _ hg)
        · intro f hf
          rcases List.mem_cons.mp hf with rfl | hf
          · exact ⟨f, hkept f (List.mem_append_right _ List.mem_cons_self), rfl⟩
          · exact hcover f hf

/-- The dictionary of sources holds one of the files for each of their digests. -/
theorem sources_spec (files : List (ScannedFile ρ)) :
    ((sources files).map fun f => f.entry.sha256).Nodup ∧ sources files ⊆ files ∧
      ∀ f ∈ files, ∃ g ∈ sources files, g.entry.sha256 = f.entry.sha256 := by
  obtain ⟨hnodup, hmem, _, hcover⟩ := @foldl_addSource _ _ files [] .nil
  refine ⟨hnodup, ?_, hcover⟩
  intro g hg
  rcases hmem g hg with hg | hg
  · cases hg
  · exact hg

/-- The files are the entries of a manifest with one size for each digest. -/
structure Scanned (scanned : ScannedDataset ρ) : Prop where
  files : scanned.files.map ScannedFile.entry = scanned.manifest.entries
  sizes : Manifest.ConsistentSizes scanned.manifest.entries

theorem Scanned.perm_digests (h : Scanned scanned) :
    ((sources scanned.files).map fun f => f.entry.sha256).Perm
      (Manifest.digests scanned.manifest.entries) := by
  obtain ⟨hnodup, hsub, hcover⟩ := sources_spec scanned.files
  refine (List.perm_ext_iff_of_nodup hnodup (List.nodup_dedup _)).mpr ?_
  intro d
  rw [List.mem_dedup, ← h.files, List.map_map]
  constructor
  · intro hd
    obtain ⟨f, hf, rfl⟩ := List.mem_map.mp hd
    exact List.mem_map.mpr ⟨f, hsub hf, rfl⟩
  · intro hd
    obtain ⟨f, hf, rfl⟩ := List.mem_map.mp hd
    obtain ⟨g, hg, hsha⟩ := hcover f hf
    exact List.mem_map.mpr ⟨g, hg, hsha⟩

theorem Scanned.digestSize_eq (h : Scanned scanned) (hf : file ∈ sources scanned.files) :
    Manifest.digestSize scanned.manifest.entries file.entry.sha256 = file.entry.sizeBytes := by
  refine h.sizes.digestSize_eq ?_
  rw [← h.files]
  exact List.mem_map.mpr ⟨file, (sources_spec scanned.files).2.1 hf, rfl⟩

theorem Scanned.totals (h : Scanned scanned) :
    (sources scanned.files).length = scanned.manifest.uniqueBlobCount ∧
      ((sources scanned.files).map fun f => f.entry.sizeBytes).sum =
        scanned.manifest.uniqueBlobBytes := by
  have hperm := h.perm_digests
  constructor
  · have hlength := hperm.length_eq
    rwa [List.length_map] at hlength
  · have hsum := (hperm.map (Manifest.digestSize scanned.manifest.entries)).sum_eq
    rw [List.map_map] at hsum
    unfold Manifest.uniqueBlobBytes
    rw [← hsum]
    exact congrArg List.sum (List.map_congr_left fun f hf => (h.digestSize_eq hf).symm)

/-- The push while its sources are resolved: what is done, and what it has recorded. -/
structure Resolving (scanned : ScannedDataset ρ) (done rest : List (ScannedFile ρ))
    (tally : Tally) (log : List (PushCall ρ)) : Prop where
  split : sources scanned.files = done ++ rest
  prepared : log.filterMap prepared? = done.map fun f => f.entry.sha256
  transferred : (log.filterMap transferred?).Sublist (done.map fun f => f.entry.sha256)
  finalized : log.filterMap finalized? = []
  climbs : Climbs scanned.manifest {} tally (log.filterMap progress?)
  count : tally.resolvedCount = done.length
  bytes : tally.resolvedBytes = (done.map fun f => f.entry.sizeBytes).sum
  balanced : tally.createdCount + tally.reusedCount = tally.resolvedCount ∧
    tally.createdBytes + tally.reusedBytes = tally.resolvedBytes

/-- A round takes one source to the resolved ones. -/
theorem Resolving.step {done rest : List (ScannedFile ρ)} {tally' : Tally}
    {log calls : List (PushCall ρ)} (h : Resolving scanned done (file :: rest) tally log)
    (hround : Resolves scanned.manifest file tally tally' calls) :
    Resolving scanned (done ++ [file]) rest tally' (log ++ calls) := by
  obtain ⟨hcount, hbytes, hbalanced, hbalancedBytes⟩ := counted_eq hround.counted
  have hold := h.count
  have holdBytes := h.bytes
  have holdBalanced := h.balanced
  refine ⟨?_, ?_, ?_, ?_, ?_, ?_, ?_, ?_⟩
  · rw [h.split, List.append_assoc]
    rfl
  · rw [List.filterMap_append, h.prepared, hround.prepared, List.map_append, List.map_singleton]
  · rw [List.filterMap_append, List.map_append, List.map_singleton]
    exact h.transferred.append hround.transferred
  · rw [List.filterMap_append, h.finalized, hround.finalized, List.append_nil]
  · rw [List.filterMap_append]
    exact h.climbs.append hround.climbs
  · rw [List.length_append, List.length_singleton]
    omega
  · rw [List.map_append, List.sum_append, List.map_singleton, List.sum_singleton]
    omega
  · omega

/-! ## The whole push -/

/-- The record of a push that published its Version: every digest is prepared once and at most once
transferred, progress climbs to the totals, and then the Version is finalized. -/
structure Accounts (scanned : ScannedDataset ρ) (log : List (PushCall ρ)) (ready : VersionRecord) :
    Prop where
  prepared : (log.filterMap prepared?).Nodup ∧
    ∀ d, d ∈ log.filterMap prepared? ↔ d ∈ scanned.manifest.entries.map ManifestEntry.sha256
  transferred : (log.filterMap transferred?).Nodup
  monotone : (log.filterMap progress?).Pairwise ProgressEvent.Le
  bounded : ∀ e ∈ log.filterMap progress?,
    e.resolvedBlobCount ≤ scanned.manifest.uniqueBlobCount ∧
      e.resolvedBlobBytes ≤ scanned.manifest.uniqueBlobBytes ∧
      e.uniqueBlobCount = scanned.manifest.uniqueBlobCount ∧
      e.uniqueBlobBytes = scanned.manifest.uniqueBlobBytes
  finalized : ∃ before event,
    log = before ++ [.progress event (.ok ()), .finalize (.ok ready)] ∧
      before.filterMap finalized? = [] ∧ event.kind = .finalizing ∧
      event.resolvedBlobCount = scanned.manifest.uniqueBlobCount ∧
      event.resolvedBlobBytes = scanned.manifest.uniqueBlobBytes

/-- What a push answers of a Version: the manifest's unique content, created or reused, when the
Version has the same totals. Otherwise the totals do not match. -/
def Settles (manifest : Manifest) (version : VersionRecord) (x : Except Failure PushResult) :
    Prop :=
  if version.uniqueBlobCount = manifest.uniqueBlobCount ∧
      version.uniqueBlobBytes = manifest.uniqueBlobBytes then
    ∃ pushed, x = .ok pushed ∧ pushed.reference = version.reference ∧
      pushed.createdBlobCount + pushed.reusedBlobCount = manifest.uniqueBlobCount ∧
      pushed.createdBlobBytes + pushed.reusedBlobBytes = manifest.uniqueBlobBytes
  else x = .error (contentConflict "Push outcome totals do not match unique content totals.")

theorem settles_result {manifest : Manifest} {version : VersionRecord}
    {createdCount createdBytes reusedCount reusedBytes : Nat}
    (hcount : createdCount + reusedCount = manifest.uniqueBlobCount)
    (hbytes : createdBytes + reusedBytes = manifest.uniqueBlobBytes) :
    Settles manifest version
      (result version createdCount createdBytes reusedCount reusedBytes) := by
  unfold Settles result
  rw [hcount, hbytes]
  by_cases hcounts : version.uniqueBlobCount = manifest.uniqueBlobCount
  · by_cases hsizes : version.uniqueBlobBytes = manifest.uniqueBlobBytes
    · rw [if_pos ⟨hcounts, hsizes⟩, if_neg (by simp [hcounts, hsizes])]
      exact ⟨_, rfl, rfl, hcount, hbytes⟩
    · rw [if_neg fun h => hsizes h.2, if_pos (.inr (Ne.symm hsizes))]
  · rw [if_neg fun h => hcounts h.1, if_pos (.inl (Ne.symm hcounts))]

def ReusesAll (manifest : Manifest) (x : Except Failure PushResult) : Prop :=
  ∀ pushed, x = .ok pushed →
    pushed.createdBlobCount = 0 ∧ pushed.createdBlobBytes = 0 ∧
      pushed.reusedBlobCount = manifest.uniqueBlobCount ∧
      pushed.reusedBlobBytes = manifest.uniqueBlobBytes

theorem result_ok {version : VersionRecord}
    {createdCount createdBytes reusedCount reusedBytes : Nat} {pushed : PushResult}
    (h : result version createdCount createdBytes reusedCount reusedBytes = .ok pushed) :
    pushed.createdBlobCount = createdCount ∧ pushed.createdBlobBytes = createdBytes ∧
      pushed.reusedBlobCount = reusedCount ∧ pushed.reusedBlobBytes = reusedBytes := by
  unfold result at h
  split at h
  · cases h
  · cases h
    exact ⟨rfl, rfl, rfl, rfl⟩

/-- The record and the answer of a push, from the state in which its Version was registered. -/
def Balances (scanned : ScannedDataset ρ) (version : VersionRecord) (log : List (PushCall ρ))
    (x : Except Failure PushResult) : Prop :=
  if version.state = .ready then
    log.filterMap prepared? = [] ∧ log.filterMap transferred? = [] ∧
      log.filterMap finalized? = [] ∧ Settles scanned.manifest version x ∧
      ReusesAll scanned.manifest x
  else ∃ ready, Accounts scanned log ready ∧ Settles scanned.manifest ready x

def finalCalls (tally : Tally) (manifest : Manifest) (ready : VersionRecord) :
    List (PushCall ρ) :=
  [.progress (tally.event .finalizing none manifest) (.ok ()), .finalize (.ok ready)]

/-- With all sources resolved, finalizing completes the record. -/
theorem Resolving.accounts {done : List (ScannedFile ρ)} {log : List (PushCall ρ)}
    {ready : VersionRecord} (h : Resolving scanned done [] tally log) (hscanned : Scanned scanned) :
    Accounts scanned (log ++ finalCalls tally scanned.manifest ready) ready := by
  have hdone : sources scanned.files = done := h.split.trans (List.append_nil done)
  obtain ⟨hcount, hbytes⟩ := hscanned.totals
  have hperm := hscanned.perm_digests
  have hnodup := (sources_spec scanned.files).1
  rw [hdone] at hcount hbytes hperm hnodup
  have hresolved : tally.resolvedCount = scanned.manifest.uniqueBlobCount :=
    h.count.trans hcount
  have hresolvedBytes : tally.resolvedBytes = scanned.manifest.uniqueBlobBytes :=
    h.bytes.trans hbytes
  have hclimbs := h.climbs.append (@climbs_single _ scanned.manifest tally tally
    (tally.event .finalizing none scanned.manifest) ⟨le_rfl, le_rfl⟩ ⟨le_rfl, le_rfl⟩
    ⟨le_rfl, le_rfl⟩ ⟨rfl, rfl⟩)
  let final : List (PushCall ρ) := finalCalls tally scanned.manifest ready
  have hprepared : (log ++ final).filterMap prepared? = done.map fun f => f.entry.sha256 := by
    rw [List.filterMap_append, h.prepared]
    exact List.append_nil _
  have htransferred : (log ++ final).filterMap transferred? = log.filterMap transferred? := by
    rw [List.filterMap_append]
    exact List.append_nil _
  have hprogress : (log ++ final).filterMap progress? =
      log.filterMap progress? ++ [tally.event .finalizing none scanned.manifest] := by
    rw [List.filterMap_append]
    rfl
  refine ⟨⟨?_, ?_⟩, ?_, ?_, ?_, ?_⟩
  · rw [hprepared]
    exact hnodup
  · intro d
    rw [hprepared, hperm.mem_iff]
    exact List.mem_dedup
  · rw [htransferred]
    exact hnodup.sublist h.transferred
  · rw [hprogress]
    exact hclimbs.monotone
  · rw [hprogress]
    intro e he
    have hbelow := hclimbs.below e he
    rw [hresolved, hresolvedBytes] at hbelow
    exact ⟨hbelow.1, hbelow.2, hclimbs.totals e he⟩
  · exact ⟨log, _, rfl, h.finalized, rfl, hresolved, hresolvedBytes⟩

theorem provided_publish {version : VersionRecord} {log : List (PushCall ρ)}
    (hscanned : Scanned scanned)
    (h : Resolving scanned [] (sources scanned.files) {} log) :
    Provided (Honest scanned blobOf) (workflow.recorded.publish scanned version) s
      fun x calls => ∃ ready, Accounts scanned (log ++ calls) ready ∧
        Settles scanned.manifest ready x := by
  have hround : ∀ file rest tally log' w,
      (∃ done, Resolving scanned done (file :: rest) tally log') →
      Provided (Honest scanned blobOf)
        (workflow.recorded.resolve scanned.manifest version tally file) w
        (Returns fun tally' calls =>
          ∃ done, Resolving scanned done rest tally' (log' ++ calls)) := by
    intro file rest tally log' w hresolving
    obtain ⟨done, hdone⟩ := hresolving
    have hfile : file ∈ sources scanned.files := by
      rw [hdone.split]
      exact List.mem_append_right _ List.mem_cons_self
    refine (provided_resolve (hscanned.digestSize_eq hfile)).mono fun x calls hreturns => ?_
    obtain ⟨tally', rfl, hresolves⟩ := hreturns
    exact ⟨tally', rfl, done ++ [file], hdone.step hresolves⟩
  unfold publish
  have hloop := provided_foldlM (J := fun rest tally log =>
    ∃ done, Resolving scanned done rest tally log) (s := s) hround ⟨[], h⟩
  refine provided_bind (hloop.mono fun x calls hreturns => ?_)
  obtain ⟨tally, rfl, done, hresolving⟩ := hreturns
  refine ⟨tally, rfl, fun w => ?_⟩
  refine provided_bind (provided_emit fun w => ?_)
  refine provided_bind (provided_record fun x hready => ?_)
  obtain ⟨ready, rfl, hmanifest, hstate⟩ := hready
  refine ⟨ready, rfl, fun w => ?_⟩
  refine provided_bind (provided_requireManifest hmanifest fun w => ?_)
  rw [if_neg (not_not.mpr hstate)]
  refine provided_ofExcept ⟨ready, ?_, ?_⟩
  · have haccounts := @Resolving.accounts _ _ _ _ _ _ ready hresolving hscanned
    rw [List.append_assoc] at haccounts
    exact haccounts
  · obtain ⟨hbalanced, hbalancedBytes⟩ := hresolving.balanced
    obtain ⟨hcount, hbytes⟩ := hscanned.totals
    have hdone : sources scanned.files = done := hresolving.split.trans (List.append_nil done)
    rw [hdone] at hcount hbytes
    exact settles_result (hbalanced.trans (hresolving.count.trans hcount))
      (hbalancedBytes.trans (hresolving.bytes.trans hbytes))

/-- A push whose answers are honest balances. A Version that is READY at its registration has its
content reused and nothing else is called; otherwise the accounts are complete. -/
theorem push_balances {dataset : DatasetName} {supplied : List ManifestEntry}
    (hbuild : Manifest.build supplied = .ok scanned.manifest)
    (hfiles : scanned.files.map ScannedFile.entry = scanned.manifest.entries)
    (honest : ∀ call ∈ (workflow.recorded.run dataset s).2.2, Honest scanned blobOf call) :
    ∃ version, .registerVersion (.ok version) ∈ (workflow.recorded.run dataset s).2.2 ∧
      Balances scanned version (workflow.recorded.run dataset s).2.2
        (workflow.recorded.run dataset s).1 := by
  obtain ⟨_, _, _, _, hsizes⟩ := Manifest.build_spec hbuild
  have hscanned : Scanned scanned := ⟨hfiles, Manifest.hasConflictingSizes_eq_false.mp hsizes⟩
  refine (?_ : Provided (Honest scanned blobOf) (workflow.recorded.run dataset) s
    fun x log => ∃ version, .registerVersion (.ok version) ∈ log ∧
      Balances scanned version log x) honest
  unfold run
  refine provided_bind (provided_record fun x hscan => ?_)
  have hscan : x = .ok scanned := hscan
  rw [hscan]
  refine ⟨scanned, rfl, fun w => ?_⟩
  refine provided_bind (provided_emit fun w => ?_)
  refine provided_bind (provided_record fun x hdataset => ?_)
  obtain ⟨datasetRecord, rfl⟩ := hdataset
  refine ⟨datasetRecord, rfl, fun w => ?_⟩
  refine provided_bind (provided_record fun x hversion => ?_)
  obtain ⟨version, rfl, hmanifest⟩ := hversion
  refine ⟨version, rfl, fun w => ?_⟩
  refine provided_bind (provided_requireManifest hmanifest fun w => ?_)
  unfold Balances
  by_cases hready : version.state = .ready
  · rw [if_pos hready]
    refine provided_ofExcept ⟨version, by simp, ?_⟩
    rw [if_pos hready]
    exact ⟨rfl, rfl, rfl, settles_result (Nat.zero_add _) (Nat.zero_add _), fun _ => result_ok⟩
  · rw [if_neg hready]
    have hstart : Resolving scanned [] (sources scanned.files) {}
        [.scan (.ok scanned), .progress (Tally.event {} .scanned none scanned.manifest) (.ok ()),
          .createDataset (.ok datasetRecord), .registerVersion (.ok version)] := by
      refine ⟨rfl, rfl, .slnil, rfl, ?_, rfl, rfl, ⟨rfl, rfl⟩⟩
      exact climbs_single ⟨le_rfl, le_rfl⟩ ⟨le_rfl, le_rfl⟩ ⟨le_rfl, le_rfl⟩ ⟨rfl, rfl⟩
    refine (provided_publish hscanned hstart).mono fun x calls hpublished => ?_
    refine ⟨version, by simp, ?_⟩
    rw [if_neg hready]
    exact hpublished

end Pushes

end RoboLake

namespace RoboLake.Pair

open Foundation Recorded Store PushCall PushWorkflow

/-! ## Pushes of the pair

The content of the first file is AVAILABLE and session `300` belongs to the second one.
-/

def pairVersion (state : VersionState) (uniqueBlobCount : Nat) : VersionRecord :=
  ⟨200, 100, name, 1, pairDigest, state, 2, 2, uniqueBlobCount, 2, none, none⟩

def prepared (digest : Sha256Digest) (available : Bool) : UploadPreparation :=
  ⟨pairVersion .uploading 2, digest, 1, available, if available then none else some 300⟩

def pairScanned : ScannedDataset Unit :=
  ⟨pair, pair.entries.map fun entry => ⟨entry, ()⟩⟩

/-- A push of the pair whose Version is registered and finalized as given. -/
def pairWorkflow (registered ready : VersionRecord) : PushWorkflow Unit (Acting Failure Unit) where
  scan := pure pairScanned
  controlPlane := {
    createDataset := fun dataset _ => pure ⟨100, dataset⟩
    registerVersion := fun _ _ _ => pure registered
    prepareUpload := fun _ digest _ => pure (prepared digest (digest = firstDigest))
    uploadUrl := fun _ => pure ⟨"https://storage/", []⟩
    completeUpload := fun _ _ => pure (prepared secondDigest true)
    finalize := fun _ => pure ready }
  put := fun _ _ _ => pure ⟨.created, some "etag"⟩
  progress := fun _ => pure ()

def pairStart (registered : VersionRecord) : List (PushCall Unit) :=
  [.scan (.ok pairScanned), .progress (Tally.event {} .scanned none pair) (.ok ()),
    .createDataset (.ok ⟨100, name⟩), .registerVersion (.ok registered)]

def pairTally (reused created : Nat) : Tally :=
  ⟨reused + created, reused + created, created, created, reused, reused⟩

def pairPublished (ready : VersionRecord) : List (PushCall Unit) :=
  [.prepareUpload firstDigest (.ok (prepared firstDigest true)),
    .progress ((pairTally 1 0).event .skipped (some firstPath) pair) (.ok ()),
    .prepareUpload secondDigest (.ok (prepared secondDigest false)),
    .progress ((pairTally 1 0).event .uploading (some secondPath) pair) (.ok ()),
    .uploadUrl 300 (.ok ⟨"https://storage/", []⟩),
    .put ⟨secondPath, 1, secondDigest⟩ (.ok ⟨.created, some "etag"⟩),
    .completeUpload 300 (.ok (prepared secondDigest true)),
    .progress ((pairTally 1 1).event .verified (some secondPath) pair) (.ok ()),
    .progress ((pairTally 1 1).event .finalizing none pair) (.ok ()), .finalize (.ok ready)]

set_option maxRecDepth 100000 in
theorem pairWorkflow_run {count : Nat} (h : count = 2 ∨ count = 3) :
    ((pairWorkflow (pairVersion .uploading 2) (pairVersion .ready count)).recorded.run
      name ()).2.2 =
      pairStart (pairVersion .uploading 2) ++ pairPublished (pairVersion .ready count) := by
  rcases h with rfl | rfl
  · rfl
  · rfl

def pairBlobOf (_ : UUID) : Sha256Digest := secondDigest

theorem pairStart_honest {registered : VersionRecord}
    (h : registered.manifestSha256 = pairDigest) :
    ∀ call ∈ pairStart registered, Honest pairScanned pairBlobOf call := by
  unfold pairStart
  simp only [List.forall_mem_cons, List.not_mem_nil, false_implies, implies_true, and_true]
  exact ⟨rfl, rfl, ⟨_, rfl⟩, _, rfl, h⟩

set_option maxRecDepth 100000 in
theorem pairPublished_honest {ready : VersionRecord} (h : ready.manifestSha256 = pairDigest)
    (hstate : ready.state = .ready) :
    ∀ call ∈ pairPublished ready, Honest pairScanned pairBlobOf call := by
  have hfirst : Manifest.digestSize pair.entries firstDigest = 1 := by decide
  have hsecond : Manifest.digestSize pair.entries secondDigest = 1 := by decide
  unfold pairPublished
  simp only [List.forall_mem_cons, List.not_mem_nil, false_implies, implies_true, and_true]
  refine ⟨⟨_, rfl, rfl, hfirst.symm, nofun⟩, rfl, ⟨_, rfl, rfl, hsecond.symm, ?_⟩, rfl, ⟨_, rfl⟩,
    ⟨_, rfl⟩, ⟨_, rfl, rfl, rfl, hsecond.symm⟩, rfl, rfl, _, rfl, h, hstate⟩
  exact fun _ => ⟨_, rfl, rfl⟩

set_option maxRecDepth 100000 in
/-- A Version that is READY at its registration is not finalized again, and totals of a Version that
are not the manifest's are reported as a mismatch. -/
theorem pair_push_is_replayed :
    (¬∀ (workflow : PushWorkflow Unit (Acting Failure Unit)) scanned blobOf dataset supplied,
      Manifest.build supplied = .ok scanned.manifest →
      scanned.files.map ScannedFile.entry = scanned.manifest.entries →
      (∀ call ∈ (workflow.recorded.run dataset ()).2.2, Honest scanned blobOf call) →
      ∃ ready, Accounts scanned (workflow.recorded.run dataset ()).2.2 ready) ∧
    ∃ workflow : PushWorkflow Unit (Acting Failure Unit),
      (∀ call ∈ (workflow.recorded.run name ()).2.2, Honest pairScanned pairBlobOf call) ∧
      (workflow.recorded.run name ()).1 =
        .error (contentConflict "Push outcome totals do not match unique content totals.") := by
  constructor
  · intro hall
    have hbuild : Manifest.build pair.entries = .ok pair := by decide
    have hlog : ((pairWorkflow (pairVersion .ready 2) (pairVersion .ready 2)).recorded.run
        name ()).2.2 = pairStart (pairVersion .ready 2) := rfl
    have hready := hall (pairWorkflow (pairVersion .ready 2) (pairVersion .ready 2)) pairScanned
      pairBlobOf name pair.entries hbuild rfl
    rw [hlog] at hready
    obtain ⟨ready, haccounts⟩ := hready (pairStart_honest rfl)
    obtain ⟨before, event, hsplit, _⟩ := haccounts.finalized
    have hfinalized := congrArg (List.filterMap finalized?) hsplit
    rw [List.filterMap_append] at hfinalized
    exact List.append_ne_nil_of_right_ne_nil _ (List.cons_ne_nil _ _) hfinalized.symm
  · refine ⟨pairWorkflow (pairVersion .uploading 2) (pairVersion .ready 3), ?_, rfl⟩
    rw [pairWorkflow_run (.inr rfl)]
    exact List.forall_mem_append.mpr ⟨pairStart_honest rfl, pairPublished_honest rfl rfl⟩

def pairRun (state : VersionState) : Except Failure PushResult × Unit × List (PushCall Unit) :=
  (pairWorkflow (pairVersion state 2) (pairVersion .ready 2)).recorded.run name ()

set_option maxRecDepth 100000 in
/-- The push of the pair balances, and so does its repetition. -/
theorem pair_push_balances :
    (∃ version, .registerVersion (.ok version) ∈ (pairRun .uploading).2.2 ∧
      Balances pairScanned version (pairRun .uploading).2.2 (pairRun .uploading).1) ∧
    ∃ version, .registerVersion (.ok version) ∈ (pairRun .ready).2.2 ∧
      Balances pairScanned version (pairRun .ready).2.2 (pairRun .ready).1 := by
  have hbuild : Manifest.build pair.entries = .ok pair := by decide
  have honest : ∀ call ∈ (pairRun .uploading).2.2, Honest pairScanned pairBlobOf call := by
    unfold pairRun
    rw [pairWorkflow_run (.inl rfl)]
    exact List.forall_mem_append.mpr ⟨pairStart_honest rfl, pairPublished_honest rfl rfl⟩
  have hready : (pairRun .ready).2.2 = pairStart (pairVersion .ready 2) := rfl
  have honestReady : ∀ call ∈ (pairRun .ready).2.2, Honest pairScanned pairBlobOf call := by
    rw [hready]
    exact pairStart_honest rfl
  exact ⟨@push_balances _ _ _ pairScanned pairBlobOf _ () name pair.entries hbuild rfl honest,
    @push_balances _ _ _ pairScanned pairBlobOf _ () name pair.entries hbuild rfl honestReady⟩

end RoboLake.Pair
