import RoboLake.Infrastructure.Store.Operations
import RoboLake.Infrastructure.Transactions

/-! # What an operation does

`Effect` lists, for each operation, every change of the tables that one committed
call can make, with the guards under which it makes it. An invariant of the store
is proved by cases on it, and no proof about runs unfolds an operation again.
-/

namespace RoboLake

open Foundation Work Store

variable [Platform]

def Database.bind (db : Database) (record : IdempotencyRecordModel) : Database :=
  { db with idempotency := db.idempotency.insert record }

section Bind

variable (db : Database) (record : IdempotencyRecordModel)

@[simp] theorem datasets_bind : (db.bind record).datasets = db.datasets := rfl
@[simp] theorem versions_bind : (db.bind record).versions = db.versions := rfl
@[simp] theorem blobs_bind : (db.bind record).blobs = db.blobs := rfl
@[simp] theorem entries_bind : (db.bind record).entries = db.entries := rfl
@[simp] theorem sessions_bind : (db.bind record).sessions = db.sessions := rfl
@[simp] theorem parts_bind : (db.bind record).parts = db.parts := rfl
@[simp] theorem admissionLeases_bind : (db.bind record).admissionLeases = db.admissionLeases := rfl
@[simp] theorem completionLeases_bind :
    (db.bind record).completionLeases = db.completionLeases := rfl

end Bind

/-! ## Registration -/

/-- The Blobs after a registration: the stored ones as they were, the others PENDING. -/
structure BlobsGrown (blobs blobs' : Relation BlobModel) : Prop where
  kept : Relation.Later Eq blobs blobs'
  fresh : ∀ b ∈ blobs'.rows, b ∈ blobs.rows ∨
    (blobs.get? b.id = none ∧ b.state = .pending ∧ b.failureCode = none ∧ b.verifiedAt = none)

def EntryOf (versionId : UUID) (blobs : Relation BlobModel) (item : ManifestEntry × Nat)
    (row : DatasetEntryModel) : Prop :=
  row.datasetVersionId = versionId ∧ row.manifestOrdinal = item.2 ∧
    row.relativePath = item.1.relativePath ∧
    ∃ b, blobs.get? row.blobId = some b ∧ b.sha256 = item.1.sha256 ∧ b.sizeBytes = item.1.sizeBytes

/-! ## Parts -/

/-- Every part of the session went through a function; the other parts stayed. -/
def PartsMapped (sessionId : UUID) (g : UploadPartModel → UploadPartModel)
    (parts parts' : Relation UploadPartModel) : Prop :=
  Relation.Mapped (fun p => if p.uploadSessionId = sessionId then g p else p) parts parts'

/-- Flushing every part of a session and then some of them again maps its parts. -/
theorem partsMapped_of_passes {db : Database} {sessionId : UUID} {again : UploadPartModel → Bool}
    {g g' : UploadPartModel → UploadPartModel} {parts : Relation UploadPartModel}
    (h : Relation.Mapped (fun p => if p ∈ (db.partsOf sessionId).filter again then g' p
      else if p ∈ db.partsOf sessionId then g p else id p) db.parts parts) :
    PartsMapped sessionId (fun p => if again p then g' p else g p) db.parts parts := by
  refine h.congr fun p hp => ?_
  by_cases hpu : p.uploadSessionId = sessionId
  · have hmem : p ∈ db.partsOf sessionId := Database.mem_partsOf.mpr ⟨hp, hpu⟩
    by_cases hagain : again p = true
    · rw [if_pos (List.mem_filter.mpr ⟨hmem, hagain⟩), if_pos hpu]
      exact (if_pos hagain).symm
    · rw [if_neg fun hf => hagain (List.mem_filter.mp hf).2, if_pos hmem, if_pos hpu]
      exact (if_neg hagain).symm
  · have hmem : p ∉ db.partsOf sessionId := fun hm => hpu (Database.mem_partsOf.mp hm).2
    rw [if_neg fun hf => hmem (List.mem_filter.mp hf).1, if_neg hmem, if_neg hpu, id]

def reconciledPart (observations : List ProviderPartObservation) (observedAt : Timestamp)
    (part : UploadPartModel) : UploadPartModel :=
  if isNewlyResolved observations observedAt part then resolvedPart observations observedAt part
  else observedPart part (observationOf observations part.partNumber) observedAt

def recoveredOrReset (observations : List ProviderPartObservation) (observedAt : Timestamp)
    (part : UploadPartModel) : UploadPartModel :=
  if isConfirmed part (observationOf observations part.partNumber) observedAt then
    recoveredPart observations observedAt part
  else observedPart part (observationOf observations part.partNumber) observedAt

omit [Platform] in
/-- The columns that an observation may write. -/
theorem applyProviderPartObservation_frame (part : UploadPartModel)
    (observation : Option ProviderPartObservation) (observedAt : Timestamp) :
    ∃ etag checksum size listedAt verifiedAt code,
      (applyProviderPartObservation part observation observedAt).1 = { part with
        listedEtag := etag, listedChecksumSha256Base64 := checksum, listedSizeBytes := size
        providerListedAt := listedAt, verifiedAt := verifiedAt, lastErrorCode := code } := by
  cases observation with
  | none => exact ⟨_, _, _, _, _, _, rfl⟩
  | some o =>
      simp only [applyProviderPartObservation]
      split
      · exact ⟨_, _, _, _, _, _, rfl⟩
      · split
        · exact ⟨_, _, _, _, _, _, rfl⟩
        · split
          · exact ⟨_, _, _, _, _, _, rfl⟩
          · split
            · exact ⟨_, _, _, _, _, _, rfl⟩
            · exact ⟨_, _, _, _, _, _, rfl⟩

omit [Platform] in
theorem observedPart_frame (part : UploadPartModel)
    (observation : Option ProviderPartObservation) (observedAt : Timestamp) :
    ∃ state etag checksum size listedAt verifiedAt code,
      observedPart part observation observedAt = { part with
        state := state
        listedEtag := etag, listedChecksumSha256Base64 := checksum, listedSizeBytes := size
        providerListedAt := listedAt, verifiedAt := verifiedAt, lastErrorCode := code } := by
  obtain ⟨etag, checksum, size, listedAt, verifiedAt, code, hrow⟩ :=
    applyProviderPartObservation_frame part observation observedAt
  simp only [observedPart, hrow]
  split
  · split
    · exact ⟨_, _, _, _, _, _, _, rfl⟩
    · exact ⟨part.state, _, _, _, _, _, _, rfl⟩
  · exact ⟨_, _, _, _, _, _, _, rfl⟩

omit [Platform] in
theorem key_observedPart (part : UploadPartModel)
    (observation : Option ProviderPartObservation) (observedAt : Timestamp) :
    key (observedPart part observation observedAt) = key part := by
  obtain ⟨_, _, _, _, _, _, _, hrow⟩ := observedPart_frame part observation observedAt
  rw [hrow]
  rfl

omit [Platform] in
theorem key_resolvedPart (observations : List ProviderPartObservation) (observedAt : Timestamp)
    (part : UploadPartModel) : key (resolvedPart observations observedAt part) = key part :=
  key_observedPart part _ _

omit [Platform] in
theorem key_recoveredPart (observations : List ProviderPartObservation) (observedAt : Timestamp)
    (part : UploadPartModel) : key (recoveredPart observations observedAt part) = key part :=
  key_observedPart part _ _

/-! ## Fences -/

/-- The caller held the admission lease at some moment of the call. -/
def Admitted (env : Env) (r : Registry) (sessionId ownerId : UUID) (epoch : Nat) : Prop :=
  ∃ t, r.now ≤ t ∧ t ≤ r.later env ∧ HoldsAdmission r.db sessionId ownerId epoch t

/-- The caller held the completion lease at some moment of the call. -/
def Claimed (env : Env) (r : Registry) (sessionId ownerInstanceId : UUID) (epoch : Nat) : Prop :=
  ∃ t, r.now ≤ t ∧ t ≤ r.later env ∧ HoldsCompletion r.db sessionId ownerInstanceId epoch t

/-! ## Effects -/

/-- The tables an operation may commit, called on a registry with its surroundings. -/
inductive Effect (env : Env) (r : Registry) : Operation → Database → Prop
  | idle {op : Operation} : Effect env r op r.db
  | datasetFound {name : DatasetName} {key : String} {sha : Sha256Digest} {d : DatasetModel}
      (hd : r.db.datasets.get? d.id = some d) (hname : d.name = name)
      (hkey : r.db.idempotency.get? (.datasetCreate, key) = none) :
      Effect env r (.createDataset name key sha) (r.db.bind (datasetBinding key sha d))
  | datasetCreated {name : DatasetName} {key : String} {sha : Sha256Digest}
      (hname : ∀ d ∈ r.db.datasets.rows, d.name ≠ name)
      (hfree : r.db.datasets.get? (env.uuids 0) = none)
      (hkey : r.db.idempotency.get? (.datasetCreate, key) = none) :
      Effect env r (.createDataset name key sha)
        (Database.bind { r.db with datasets := r.db.datasets.insert ⟨env.uuids 0, name⟩ }
          (datasetBinding key sha ⟨env.uuids 0, name⟩))
  | versionFound {datasetId : UUID} {manifest : Manifest} {key : String} {sha : Sha256Digest}
      {v : DatasetVersionModel} (hv : r.db.versions.get? v.id = some v)
      (hdataset : v.datasetId = datasetId) (hsha : v.manifestSha256 = manifest.sha256)
      (hkey : r.db.idempotency.get? (.versionRegister, key) = none) :
      Effect env r (.registerVersion datasetId manifest key sha)
        (r.db.bind (versionBinding key sha v))
  | versionRegistered {datasetId : UUID} {manifest canonical : Manifest} {key : String}
      {sha : Sha256Digest} {v : DatasetVersionModel} {sealedAt : Timestamp}
      {blobs : Relation BlobModel} {entries : Relation DatasetEntryModel}
      {news : List DatasetEntryModel}
      (hcanonical : Manifest.fromCanonicalBytes manifest.canonicalBytes = .ok canonical)
      (hsha : canonical.sha256 = manifest.sha256)
      (hv : v = { draftVersion (env.uuids 0) datasetId (nextVersionNumber r.db datasetId)
        canonical with sealedAt := some sealedAt })
      (hfree : r.db.versions.get? v.id = none)
      (hkey : r.db.idempotency.get? (.versionRegister, key) = none)
      (hblobs : BlobsGrown r.db.blobs blobs)
      (hentries : entries.rows = r.db.entries.rows ++ news)
      (hnews : List.Forall₂ (EntryOf v.id blobs) canonical.entries.zipIdx news) :
      Effect env r (.registerVersion datasetId manifest key sha)
        (Database.bind
          { r.db with
            versions := r.db.versions.insert v
            blobs := blobs
            entries := entries }
          (versionBinding key sha v))
  | uploadBound {versionId : UUID} {digest : Sha256Digest} {key : String} {sha : Sha256Digest}
      {b : BlobModel} {u : UploadSessionModel}
      (hb : referencedBlob r.db versionId digest = some b) (hstate : b.state ≠ .available)
      (hu : r.db.sessions.get? u.id = some u) (hub : u.blobId = b.id)
      (hsingle : u.strategy = .singlePut)
      (hkey : r.db.idempotency.get? (.uploadSessionCreate, key) = none) :
      Effect env r (.prepareUpload versionId digest key sha)
        (r.db.bind (uploadBinding key sha u.id))
  | sessionOpened {versionId : UUID} {digest : Sha256Digest} {key : String} {sha : Sha256Digest}
      {v : DatasetVersionModel} {b : BlobModel} {createdAt lastActivityAt : Timestamp}
      (hv : r.db.versions.get? versionId = some v)
      (hb : referencedBlob r.db versionId digest = some b) (hstate : b.state = .pending)
      (hinactive : activeUpload r.db b.id = none)
      (hfree : r.db.sessions.get? (env.uuids 0) = none)
      (hkey : r.db.idempotency.get? (.uploadSessionCreate, key) = none) :
      Effect env r (.prepareUpload versionId digest key sha)
        (Database.bind
          { r.db with
            sessions := r.db.sessions.insert
              (singlePutSession (env.uuids 0) versionId b.id createdAt lastActivityAt) }
          (uploadBinding key sha (env.uuids 0)))
  | uploadStarted {u : UploadSessionModel} {b : BlobModel} {v : DatasetVersionModel}
      {now : Timestamp} (hu : r.db.sessions.get? u.id = some u) (hsingle : u.strategy = .singlePut)
      (hcreated : u.state = .created) (hb : r.db.blobs.get? u.blobId = some b)
      (hv : r.db.versions.get? u.initiatingVersionId = some v) :
      Effect env r (.markUploadInProgress u.id)
        { r.db with
          blobs := r.db.blobs.replace (startedBlob b)
          versions := r.db.versions.replace (startedVersion v)
          sessions := r.db.sessions.replace { u with
            state := .inProgress, lastActivityAt := now } }
  | uploadVerified {u : UploadSessionModel} {b : BlobModel} {v : DatasetVersionModel}
      {etag : Option String} {now : Timestamp} (hu : r.db.sessions.get? u.id = some u)
      (hsingle : u.strategy = .singlePut) (hstate : u.state = .inProgress)
      (hb : r.db.blobs.get? u.blobId = some b) (huploading : b.state = .uploading)
      (hv : r.db.versions.get? u.initiatingVersionId = some v) :
      Effect env r (.markUploadVerified u.id etag)
        { r.db with
          blobs := r.db.blobs.replace { b with state := .available, verifiedAt := some now }
          sessions := r.db.sessions.replace { u with
            state := .completed, etag := etag, completedAt := some now, lastActivityAt := now } }
  | uploadFailed {u : UploadSessionModel} {b : BlobModel} {v : DatasetVersionModel}
      {code : FailureCode} {detail : String} {now : Timestamp}
      (hu : r.db.sessions.get? u.id = some u)
      (hsingle : u.strategy = .singlePut) (hstate : u.state = .inProgress)
      (hb : r.db.blobs.get? u.blobId = some b) (huploading : b.state = .uploading)
      (hv : r.db.versions.get? u.initiatingVersionId = some v) (hversion : v.state = .uploading) :
      Effect env r (.markUploadFailed u.id code detail)
        { r.db with
          blobs := r.db.blobs.replace { b with
            state := .failed, failureCode := some code, failureDetail := some detail }
          versions := r.db.versions.replace { v with
            state := .failed, verifyingAt := some now, failureCode := some code
            failureDetail := some detail }
          sessions := r.db.sessions.replace { u with
            state := .failed, failureCode := some (sessionFailureCode code)
            failureDetail := some detail, completedAt := some now, lastActivityAt := now } }
  | uploadRestarted {v : DatasetVersionModel} {b : BlobModel} {key : String} {sha : Sha256Digest}
      {createdAt lastActivityAt : Timestamp} (hv : r.db.versions.get? v.id = some v)
      (hb : r.db.blobs.get? b.id = some b) (href : r.db.References v.id b.id)
      (hkey : r.db.idempotency.get? (.uploadSessionCreate, key) = none)
      (hversion : v.state = .failed) (hblob : b.state = .failed)
      (hfree : r.db.sessions.get? (env.uuids 0) = none) :
      Effect env r (.restartFailedUpload v.id b.id key sha)
        (Database.bind
          { r.db with
            blobs := r.db.blobs.replace { b with
              state := .uploading, failureCode := none, failureDetail := none }
            versions := r.db.versions.replace { v with
              state := .uploading, failureCode := none, failureDetail := none }
            sessions := r.db.sessions.insert
              (singlePutSession (env.uuids 0) v.id b.id createdAt lastActivityAt) }
          (uploadBinding key sha (env.uuids 0)))
  | versionFinalized {v : DatasetVersionModel} {canonical : Manifest} {now : Timestamp}
      (hv : r.db.versions.get? v.id = some v)
      (hstate : v.state = .draft ∨ v.state = .uploading)
      (hcanonical : Manifest.fromCanonicalBytes v.manifestBytes = .ok canonical)
      (hmatch : SummariesMatch v canonical) (havailable : ¬HasUnavailableBlob r.db v.id) :
      Effect env r (.finalizeVersion v.id)
        { r.db with versions := r.db.versions.replace { v with
          state := .ready, verifyingAt := some now, readyAt := some now } }
  | multipartBound {requestId versionId blobId : UUID} {plan : HashedMultipartPlan}
      {sha : Sha256Digest} {u : UploadSessionModel}
      (hu : r.db.sessions.get? u.id = some u) (hub : u.blobId = blobId)
      (hactive : u.state.isActive = true) (hmultipart : u.strategy = .multipart)
      (hplan : u.partPlanSha256 = some plan.sha256)
      (hkey : r.db.idempotency.get? (.multipartSessionResolve, String.ofList requestId.str) =
        none) :
      Effect env r (.createOrResolveMultipart requestId versionId blobId plan)
        (r.db.bind (sessionBinding requestId sha u.id))
  | multipartCreated {requestId versionId blobId : UUID} {plan : HashedMultipartPlan}
      {sha : Sha256Digest} {b : BlobModel} {now : Timestamp} {parts : Relation UploadPartModel}
      (hb : r.db.blobs.get? blobId = some b) (href : r.db.References versionId blobId)
      (hsize : b.sizeBytes = plan.plan.blobSizeBytes)
      (hinactive : ∀ u ∈ r.db.sessions.rows, u.blobId = blobId → u.state.isActive = false)
      (hfree : r.db.sessions.get? (env.uuids 0) = none)
      (hparts : parts.rows = r.db.parts.rows ++ plan.plan.parts.map (pendingPart (env.uuids 0)))
      (hkey : r.db.idempotency.get? (.multipartSessionResolve, String.ofList requestId.str) =
        none) :
      Effect env r (.createOrResolveMultipart requestId versionId blobId plan)
        (Database.bind
          { r.db with
            sessions := r.db.sessions.insert (plannedSession (env.uuids 0) blobId versionId
              (nextGeneration r.db blobId) plan now)
            parts := parts }
          (sessionBinding requestId sha (env.uuids 0)))
  | admissionGranted {requestId invocationId sessionId : UUID} {ttl capacity : Int}
      {sha : Sha256Digest} {u : UploadSessionModel} {now expiresAt : Timestamp}
      (hu : r.db.sessions.get? sessionId = some u) (hmultipart : u.strategy = .multipart)
      (howned : isUploadOwned u.state = true) (hnow : r.now ≤ now) (hlater : now ≤ r.later env)
      (hexpires : now < expiresAt) (hnone : r.db.admissionLeases.get? sessionId = none)
      (hkey : r.db.idempotency.get? (.multipartAdmissionAcquire, String.ofList requestId.str) =
        none) (hcapacity : (activeAdmissions r.db now : Int) < capacity) :
      Effect env r (.acquireMultipartLease requestId invocationId sessionId ttl capacity)
        (Database.bind
          { r.db with
            admissionLeases := r.db.admissionLeases.insert
              ⟨sessionId, invocationId, env.uuids 0, 1, now, now, expiresAt⟩ }
          (admissionBinding requestId invocationId sha
            ⟨sessionId, invocationId, env.uuids 0, 1, now, now, expiresAt⟩))
  | admissionTaken {requestId invocationId : UUID} {ttl capacity : Int}
      {sha : Sha256Digest} {u : UploadSessionModel} {now expiresAt : Timestamp}
      {l l' : MultipartAdmissionLeaseModel}
      (hu : r.db.sessions.get? l.uploadSessionId = some u) (hmultipart : u.strategy = .multipart)
      (howned : isUploadOwned u.state = true) (hnow : r.now ≤ now) (hlater : now ≤ r.later env)
      (hexpires : now < expiresAt)
      (hl : r.db.admissionLeases.get? l.uploadSessionId = some l) (hexpired : l.expiresAt ≤ now)
      (hl' : l' = { l with
        invocationId := invocationId, ownerId := env.uuids 0, epoch := l.epoch + 1
        acquiredAt := now, renewedAt := now, expiresAt := expiresAt })
      (hkey : r.db.idempotency.get? (.multipartAdmissionAcquire, String.ofList requestId.str) =
        none) (hcapacity : (activeAdmissions r.db now : Int) < capacity) :
      Effect env r (.acquireMultipartLease requestId invocationId l.uploadSessionId ttl capacity)
        (Database.bind { r.db with admissionLeases := r.db.admissionLeases.replace l' }
          (admissionBinding requestId invocationId sha l'))
  | admissionRenewed {requestId : UUID} {ttl capacity : Int}
      {sha : Sha256Digest} {u : UploadSessionModel} {now expiresAt : Timestamp}
      {l l' : MultipartAdmissionLeaseModel}
      (hu : r.db.sessions.get? l.uploadSessionId = some u) (hmultipart : u.strategy = .multipart)
      (howned : isUploadOwned u.state = true) (hnow : r.now ≤ now) (hlater : now ≤ r.later env)
      (hexpires : now < expiresAt)
      (hl : r.db.admissionLeases.get? l.uploadSessionId = some l) (hlive : now < l.expiresAt)
      (hl' : l' = { l with renewedAt := now, expiresAt := expiresAt })
      (hkey : r.db.idempotency.get? (.multipartAdmissionAcquire, String.ofList requestId.str) =
        none) :
      Effect env r (.acquireMultipartLease requestId l.invocationId l.uploadSessionId ttl capacity)
        (Database.bind { r.db with admissionLeases := r.db.admissionLeases.replace l' }
          (admissionBinding requestId l.invocationId sha l'))
  | admissionReleased {l : MultipartAdmissionLeaseModel} {renewedAt expiresAt : Timestamp}
      (hl : r.db.admissionLeases.get? l.uploadSessionId = some l)
      (hfence : Admitted env r l.uploadSessionId l.ownerId l.epoch)
      (hexpires : expiresAt ≤ r.later env) :
      Effect env r (.releaseMultipartLease l.uploadSessionId l.ownerId l.epoch)
        { r.db with admissionLeases := r.db.admissionLeases.replace { l with
          renewedAt := renewedAt, expiresAt := expiresAt } }
  | initiationBegun {u : UploadSessionModel} {ownerId : UUID} {epoch : Nat}
      {startedAt activityAt : Timestamp} (hu : r.db.sessions.get? u.id = some u)
      (hfence : Admitted env r u.id ownerId epoch) (hstate : u.state = .created) :
      Effect env r (.beginProviderInitiation u.id ownerId epoch)
        { r.db with sessions := r.db.sessions.replace { u with
          state := .initiating, initiationStartedAt := some startedAt
          lastActivityAt := activityAt } }
  | providerRecorded {u : UploadSessionModel} {b : BlobModel} {ownerId : UUID} {epoch : Nat}
      {provider : String} {activityAt : Timestamp} (hu : r.db.sessions.get? u.id = some u)
      (hfence : Admitted env r u.id ownerId epoch) (hstate : u.state = .initiating)
      (hprovider : provider ≠ "") (hb : r.db.blobs.get? u.blobId = some b)
      (hblob : b.state = .pending ∨ b.state = .uploading) :
      Effect env r (.recordProviderUpload u.id ownerId epoch provider)
        { r.db with
          sessions := r.db.sessions.replace { u with
            state := .inProgress, providerUploadId := some provider, lastActivityAt := activityAt }
          blobs := r.db.blobs.replace { b with state := .uploading } }
  | initiationAmbiguous {u : UploadSessionModel} {l : MultipartAdmissionLeaseModel}
      {ambiguousAt completedAt activityAt renewedAt expiresAt : Timestamp}
      (hu : r.db.sessions.get? u.id = some u)
      (hl : r.db.admissionLeases.get? u.id = some l)
      (hfence : Admitted env r u.id l.ownerId l.epoch) (hstate : u.state = .initiating)
      (hexpires : expiresAt ≤ r.later env) :
      Effect env r (.markMultipartInitiationAmbiguous u.id l.ownerId l.epoch)
        { r.db with
          sessions := r.db.sessions.replace { u with
            state := .failed, failureCode := some .initiationAmbiguous
            initiationAmbiguousAt := some ambiguousAt, completedAt := some completedAt
            lastActivityAt := activityAt }
          admissionLeases := r.db.admissionLeases.replace { l with
            renewedAt := renewedAt, expiresAt := expiresAt } }
  | partReplayed {u : UploadSessionModel} {ownerId : UUID} {epoch : Nat}
      {receipt : CompletedPartReceipt} {activityAt : Timestamp}
      (hu : r.db.sessions.get? u.id = some u)
      (hfence : Admitted env r u.id ownerId epoch) (hstate : u.state = .inProgress) :
      Effect env r (.recordUploadedPart u.id ownerId epoch receipt)
        { r.db with sessions := r.db.sessions.replace { u with lastActivityAt := activityAt } }
  | partRecorded {u : UploadSessionModel} {ownerId : UUID} {epoch : Nat}
      {receipt : CompletedPartReceipt} {part : UploadPartModel} {activityAt now : Timestamp}
      (hu : r.db.sessions.get? u.id = some u)
      (hfence : Admitted env r u.id ownerId epoch) (hstate : u.state = .inProgress)
      (hpart : r.db.parts.get? (u.id, receipt.partNumber) = some part)
      (hreceipt : receipt.validateFor part.sha256 = .ok receipt)
      (hempty : hasAnyReceiptField part = false) :
      Effect env r (.recordUploadedPart u.id ownerId epoch receipt)
        { r.db with
          sessions := r.db.sessions.replace { u with lastActivityAt := activityAt }
          parts := r.db.parts.replace (withReceipt part receipt now) }
  | partsReconciled {u : UploadSessionModel} {ownerId : UUID} {epoch : Nat}
      {observations : List ProviderPartObservation} {attribution : PartAttribution}
      {reconciledAt activityAt observedAt : Timestamp} {parts : Relation UploadPartModel}
      (hu : r.db.sessions.get? u.id = some u)
      (hfence : Admitted env r u.id ownerId epoch) (hstate : u.state = .inProgress)
      (hparts : PartsMapped u.id (reconciledPart observations observedAt) r.db.parts parts) :
      Effect env r (.reconcileParts u.id ownerId epoch observations attribution)
        { r.db with
          sessions := r.db.sessions.replace { u with
            lastProviderReconciledAt := some reconciledAt, lastActivityAt := activityAt }
          parts := parts }
  | completionAccepted {u : UploadSessionModel} {l : MultipartAdmissionLeaseModel}
      {requestId : UUID} {sha : Sha256Digest} {now : Timestamp}
      (hu : r.db.sessions.get? u.id = some u) (hmultipart : u.strategy = .multipart)
      (hl : r.db.admissionLeases.get? u.id = some l)
      (hfence : Admitted env r u.id l.ownerId l.epoch) (hstate : u.state = .inProgress)
      (hresolved : ¬Migrations.HasUnresolvedPart r.db u.id) (hlater : now ≤ r.later env)
      (hkey : r.db.idempotency.get? (.multipartCompletionAccept, String.ofList requestId.str) =
        none) :
      Effect env r (.acceptCompletion u.id l.ownerId l.epoch requestId)
        (Database.bind
          { r.db with
            sessions := r.db.sessions.replace { u with
              state := .completing, completionRequestedAt := some now
              completionReason := some .partsReady, completionPhase := some .pending
              lastActivityAt := now }
            admissionLeases := r.db.admissionLeases.replace { l with
              renewedAt := now, expiresAt := now } }
          (acceptedBinding requestId sha u.id))
  | completionClaimed {ownerInstanceId : UUID} {ttl capacity : Int} {u : UploadSessionModel}
      {now expiresAt : Timestamp}
      (hu : r.db.sessions.get? u.id = some u) (hmultipart : u.strategy = .multipart)
      (hstate : u.state = .completing) (hnow : r.now ≤ now) (hlater : now ≤ r.later env)
      (hexpires : now < expiresAt) (hnone : r.db.completionLeases.get? u.id = none)
      (hcapacity : (activeCompletions r.db now : Int) < capacity) :
      Effect env r (.claimCompletion ownerInstanceId ttl capacity)
        { r.db with
          completionLeases := r.db.completionLeases.insert
            ⟨u.id, ownerInstanceId, 1, now, now, expiresAt⟩ }
  | completionTaken {ownerInstanceId : UUID} {ttl capacity : Int} {u : UploadSessionModel}
      {l : MultipartCompletionLeaseModel} {now expiresAt : Timestamp}
      (hu : r.db.sessions.get? u.id = some u) (hmultipart : u.strategy = .multipart)
      (hstate : u.state = .completing) (hnow : r.now ≤ now) (hlater : now ≤ r.later env)
      (hexpires : now < expiresAt) (hl : r.db.completionLeases.get? u.id = some l)
      (hexpired : l.expiresAt ≤ now) (hcapacity : (activeCompletions r.db now : Int) < capacity) :
      Effect env r (.claimCompletion ownerInstanceId ttl capacity)
        { r.db with completionLeases := r.db.completionLeases.replace { l with
          ownerInstanceId := ownerInstanceId, epoch := l.epoch + 1, acquiredAt := now
          renewedAt := now, expiresAt := expiresAt } }
  | completionRenewed {l : MultipartCompletionLeaseModel} {ttl : Int}
      {renewedAt expiresAt : Timestamp}
      (hl : r.db.completionLeases.get? l.uploadSessionId = some l)
      (hfence : Claimed env r l.uploadSessionId l.ownerInstanceId l.epoch)
      (hlater : renewedAt ≤ r.later env) :
      Effect env r (.renewCompletionLease l.uploadSessionId l.ownerInstanceId l.epoch ttl)
        { r.db with completionLeases := r.db.completionLeases.replace { l with
          renewedAt := renewedAt, expiresAt := expiresAt } }
  | phaseSet {claim : CompletionClaim} {phase current : CompletionPhase} {f₁ f₂ f₃ : Bool}
      {u : UploadSessionModel} {activityAt : Timestamp}
      (hu : r.db.sessions.get? claim.sessionId = some u)
      (hfence : Claimed env r claim.sessionId claim.lease.leaseOwnerId claim.lease.leaseEpoch)
      (hstate : u.state = .completing) (hcurrent : u.completionPhase = some current)
      (hphase : requireCompletionPhaseTransition current phase f₁ f₂ f₃ = .ok phase) :
      Effect env r (.setCompletionPhase claim phase f₁ f₂ f₃)
        { r.db with sessions := r.db.sessions.replace { u with
          completionPhase := some phase, lastActivityAt := activityAt } }
  | attemptInvalidated {claim : CompletionClaim} {evidence : PartialCompletionEvidence}
      {u : UploadSessionModel} {l : MultipartCompletionLeaseModel} {now : Timestamp}
      (hu : r.db.sessions.get? claim.sessionId = some u) (hstate : u.state = .completing)
      (hl : r.db.completionLeases.get? claim.sessionId = some l)
      (hfence : Claimed env r claim.sessionId claim.lease.leaseOwnerId claim.lease.leaseEpoch)
      (hlater : now ≤ r.later env) :
      Effect env r (.recoverPartialCompletion claim evidence)
        { r.db with
          sessions := r.db.sessions.replace { withRecoveryFacts u evidence with
            providerAttemptInvalidatedAt := some now
            failureCode := some .providerAttemptInvalidated
            state := .failed, completedAt := some now, lastActivityAt := now }
          completionLeases := r.db.completionLeases.replace { l with
            renewedAt := now, expiresAt := now } }
  | partsRecovered {claim : CompletionClaim} {evidence : PartialCompletionEvidence}
      {u : UploadSessionModel} {parts : Relation UploadPartModel}
      (hu : r.db.sessions.get? claim.sessionId = some u) (hstate : u.state = .completing)
      (hfence : Claimed env r claim.sessionId claim.lease.leaseOwnerId claim.lease.leaseEpoch)
      (hparts : PartsMapped u.id (recoveredOrReset evidence.providerParts
        evidence.providerReconciledAt) r.db.parts parts)
      (hconfirmed : ∀ p ∈ r.db.parts.rows, p.uploadSessionId = u.id →
        isConfirmed p (observationOf evidence.providerParts p.partNumber)
          evidence.providerReconciledAt = true) :
      Effect env r (.recoverPartialCompletion claim evidence)
        { r.db with
          sessions := r.db.sessions.replace (withRecoveryFacts u evidence)
          parts := parts }
  | completionResumed {claim : CompletionClaim} {evidence : PartialCompletionEvidence}
      {u : UploadSessionModel} {l : MultipartCompletionLeaseModel}
      {parts : Relation UploadPartModel} {now : Timestamp}
      (hu : r.db.sessions.get? claim.sessionId = some u) (hstate : u.state = .completing)
      (hl : r.db.completionLeases.get? claim.sessionId = some l)
      (hfence : Claimed env r claim.sessionId claim.lease.leaseOwnerId claim.lease.leaseEpoch)
      (hparts : PartsMapped u.id (recoveredOrReset evidence.providerParts
        evidence.providerReconciledAt) r.db.parts parts)
      (hlater : now ≤ r.later env) :
      Effect env r (.recoverPartialCompletion claim evidence)
        { r.db with
          sessions := r.db.sessions.replace { withRecoveryFacts u evidence with
            state := .inProgress, completionReason := none, completionPhase := none
            lastActivityAt := now }
          parts := parts
          completionLeases := r.db.completionLeases.replace { l with
            renewedAt := now, expiresAt := now } }
  | completionVerified {claim : CompletionClaim} {evidence : VerificationEvidence}
      {u : UploadSessionModel} {l : MultipartCompletionLeaseModel} {b : BlobModel}
      {now : Timestamp}
      (hu : r.db.sessions.get? claim.sessionId = some u) (hstate : u.state = .completing)
      (hl : r.db.completionLeases.get? claim.sessionId = some l)
      (hfence : Claimed env r claim.sessionId claim.lease.leaseOwnerId claim.lease.leaseEpoch)
      (hphase : u.completionPhase = some .finalVerification)
      (hb : r.db.blobs.get? u.blobId = some b) (hblob : b.state = .uploading)
      (hevidence : evidence.validateFor b.sha256 b.sizeBytes = .ok ())
      (hlater : now ≤ r.later env) :
      Effect env r (.recordVerifiedCompletion claim evidence)
        { r.db with
          sessions := r.db.sessions.replace { withEvidence u evidence with
            state := .completed, completedAt := some evidence.verificationCompletedAt
            lastActivityAt := now }
          blobs := r.db.blobs.replace { b with
            state := .available, verifiedAt := some evidence.verificationCompletedAt }
          completionLeases := r.db.completionLeases.replace { l with
            renewedAt := now, expiresAt := now } }

end RoboLake
