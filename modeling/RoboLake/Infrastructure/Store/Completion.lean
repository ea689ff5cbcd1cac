import RoboLake.Infrastructure.Store.Multipart

/-! # Completion operations of the store

Acceptance of completion work, its fenced ownership, its phases, recovery and
the publication of verified content.
-/

namespace RoboLake

open Foundation Work

variable [Platform]

namespace Store

/-! ## Acceptance -/

def replayAcceptedCompletion (replay : IdempotencyRecordModel) (requestSha256 : Sha256Digest)
    (requestId : UUID) : Except Failure AcceptedCompletion :=
  if replay.requestSha256 ≠ requestSha256 then
    .error (idempotencyConflict
      "Completion request ID was already used for a different request.")
  else
    match replay.resourceId with
    | none => .error (idempotencyConflict
        "Completion request ID was already used for a different request.")
    | some resourceId =>
        if replay.httpStatus ≠ some 202 then
          .error (idempotencyConflict "Completion replay does not contain the accepted response.")
        else .ok { requestId := requestId, sessionId := resourceId }

def acceptedBinding (requestId : UUID) (requestSha256 : Sha256Digest) (sessionId : UUID) :
    IdempotencyRecordModel where
  scope := .multipartCompletionAccept
  key := String.ofList requestId.str
  requestSha256 := requestSha256
  resourceType := some "upload-session"
  resourceId := some sessionId
  httpStatus := some 202
  responseJson := some (.accepted sessionId)

/-- Durably accept completion, replaying idempotency before lease fencing. The source looks the
key up again under the session lock; in one atomic transaction both lookups read the same. -/
def acceptCompletion (sessionId ownerId : UUID) (epoch : Nat) (requestId : UUID) :
    Tx AcceptedCompletion := do
  let requestSha256 := multipartRequestSha256 "multipart-completion-accept" [sessionId.str]
  let replay ← select fun s =>
    s.db.idempotency.get? (.multipartCompletionAccept, String.ofList requestId.str)
  match replay with
  | some replay => ofExcept (replayAcceptedCompletion replay requestSha256 requestId)
  | none =>
      let upload ← fetch
        (fun s => (s.db.sessions.get? sessionId).filter fun u => u.strategy = .multipart)
        (notFound "Multipart session does not exist.")
      let clock ← clockTimestamp
      let lease ← fetch (fun s => (s.db.admissionLeases.get? sessionId).filter fun l =>
          l.ownerId = ownerId ∧ l.epoch = epoch ∧ clock < l.expiresAt)
        (leaseLost "Completion acceptance lost upload admission.")
      let unresolved ← select fun s => decide (Migrations.HasUnresolvedPart s.db sessionId)
      require (upload.state = .inProgress ∧ unresolved = false)
        (illegalTransition "Completion requires every planned Part VERIFIED.")
      let now ← clockTimestamp
      flushSession { upload with
        state := .completing
        completionRequestedAt := some now
        completionReason := some .partsReady
        completionPhase := some .pending
        lastActivityAt := now }
      flushAdmissionLease { lease with renewedAt := now, expiresAt := now }
      perform (.insertIdempotency (acceptedBinding requestId requestSha256 sessionId))
      pure { requestId := requestId, sessionId := sessionId }

/-! ## Ownership -/

def completionLeaseRecord (model : MultipartCompletionLeaseModel) : CompletionLeaseRecord where
  sessionId := model.uploadSessionId
  leaseOwnerId := model.ownerInstanceId
  leaseEpoch := model.epoch
  expiresAt := model.expiresAt
  lastHeartbeatAt := model.renewedAt

def activeCompletions (db : Database) (now : Timestamp) : Nat :=
  db.completionLeases.rows.countP fun l => l.expiresAt > now

/-- COMPLETING work that no unexpired lease owns. -/
def isClaimable (db : Database) (now : Timestamp) (u : UploadSessionModel) : Bool :=
  u.strategy == .multipart && u.state == .completing &&
    (db.completionLeases.get? u.id).all fun l => l.expiresAt ≤ now

/-- The claim order: request time, a missing one last, then id. -/
def claimLe (a b : UploadSessionModel) : Bool :=
  match a.completionRequestedAt, b.completionRequestedAt with
  | some x, some y => x < y || (x == y && a.id ≤ b.id)
  | some _, none => true
  | none, some _ => false
  | none, none => a.id ≤ b.id

def nextClaimable (db : Database) (now : Timestamp) : Option UploadSessionModel :=
  ((db.sessions.rows.filter (isClaimable db now)).insertionSort
    fun a b => claimLe a b = true).head?

/-- The next lease of a session: its first epoch, or one past its expired lease. -/
def claimedLease (sessionId ownerInstanceId : UUID) (expiresAt now : Timestamp) :
    Option MultipartCompletionLeaseModel → MultipartCompletionLeaseModel
  | none => ⟨sessionId, ownerInstanceId, 1, now, now, expiresAt⟩
  | some lease => { lease with
      ownerInstanceId := ownerInstanceId
      epoch := lease.epoch + 1
      acquiredAt := now
      renewedAt := now
      expiresAt := expiresAt }

/-- Claim one durable completion row with a separate server-side fence. -/
def claimCompletion (ownerInstanceId : UUID) (ttlSeconds capacity : Int) :
    Tx (Option CompletionClaim) := do
  require (0 < ttlSeconds ∧ 0 < capacity)
    (contentConflict "Completion TTL and capacity must be positive.")
  let now ← clockTimestamp
  let activeCount ← select fun s => activeCompletions s.db now
  if capacity ≤ (activeCount : Int) then pure none
  else
    let claimable ← select fun s => nextClaimable s.db now
    match claimable with
    | none => pure none
    | some upload =>
        let lease ← select fun s => s.db.completionLeases.get? upload.id
        let expiresAt ← ofExcept (addSeconds now ttlSeconds)
        let claimed := claimedLease upload.id ownerInstanceId expiresAt now lease
        match lease with
        | none => perform (.insertCompletionLease claimed)
        | some _ => flushCompletionLease claimed
        let phase ← fetch (fun _ => upload.completionPhase)
          (contentConflict "Completion work has no durable phase.")
        pure (some ⟨upload.id, completionLeaseRecord claimed, phase⟩)

def renewCompletionLease (sessionId ownerInstanceId : UUID) (epoch : Nat) (ttlSeconds : Int) :
    Tx CompletionLeaseRecord := do
  require (0 < ttlSeconds) (contentConflict "Completion lease TTL must be positive.")
  let now ← clockTimestamp
  let lease ← fetch (fun s => (s.db.completionLeases.get? sessionId).filter fun l =>
      l.ownerInstanceId = ownerInstanceId ∧ l.epoch = epoch ∧ now < l.expiresAt)
    (leaseLost "Completion lease is no longer current.")
  let renewedAt ← clockTimestamp
  let clock ← clockTimestamp
  let expiresAt ← ofExcept (addSeconds clock ttlSeconds)
  let renewed := { lease with renewedAt := renewedAt, expiresAt := expiresAt }
  perform (.updateCompletionLease renewed)
  pure (completionLeaseRecord renewed)

def HoldsCompletion (db : Database) (sessionId ownerInstanceId : UUID) (epoch : Nat)
    (now : Timestamp) : Prop :=
  ∃ lease, db.completionLeases.get? sessionId = some lease ∧
    lease.ownerInstanceId = ownerInstanceId ∧ lease.epoch = epoch ∧ now < lease.expiresAt

instance (db : Database) (sessionId ownerInstanceId : UUID) (epoch : Nat) (now : Timestamp) :
    Decidable (HoldsCompletion db sessionId ownerInstanceId epoch now) :=
  decidable_of_iff (((db.completionLeases.get? sessionId).any fun lease =>
      lease.ownerInstanceId = ownerInstanceId ∧ lease.epoch = epoch ∧ now < lease.expiresAt) =
        true) (by simp [HoldsCompletion, Option.any_eq_true])

/-! ## Phases -/

/-- Advance durable completion work only under the current runner fence. -/
def setCompletionPhase (claim : CompletionClaim) (phase : CompletionPhase)
    (finalPresentObserved retryableReconciliation transientReadFailure : Bool) : Tx Unit := do
  let upload ← fetch
    (fun s => (s.db.sessions.get? claim.sessionId).filter fun u => u.state = .completing)
    (leaseLost "Stale completion owner cannot mutate work.")
  let currentPhase ← fetch (fun _ => upload.completionPhase)
    (contentConflict "Completion work has no durable phase.")
  let _ ← ofExcept (requireCompletionPhaseTransition currentPhase phase finalPresentObserved
    retryableReconciliation transientReadFailure)
  let now ← clockTimestamp
  let holds ← select fun s => decide
    (HoldsCompletion s.db claim.sessionId claim.lease.leaseOwnerId claim.lease.leaseEpoch now)
  require (holds = true) (leaseLost "Stale completion owner cannot mutate work.")
  let activityAt ← clockTimestamp
  perform (.updateSession { upload with
    completionPhase := some phase
    lastActivityAt := activityAt })

/-! ## Recovery -/

/-- The claimed COMPLETING session with its lease, if the claim is current at `now`. -/
def claimedWork (db : Database) (claim : CompletionClaim) (now : Timestamp) :
    Option (UploadSessionModel × MultipartCompletionLeaseModel) := do
  let upload ← (db.sessions.get? claim.sessionId).filter fun u => u.state = .completing
  let lease ← (db.completionLeases.get? claim.sessionId).filter fun l =>
    l.ownerInstanceId = claim.lease.leaseOwnerId ∧ l.epoch = claim.lease.leaseEpoch ∧
      now < l.expiresAt
  pure (upload, lease)

def withRecoveryFacts (upload : UploadSessionModel) (evidence : PartialCompletionEvidence) :
    UploadSessionModel :=
  { upload with
    finalAbsenceObservedAt := some evidence.finalAbsenceObservedAt
    lastProviderReconciledAt := some evidence.providerReconciledAt
    lastCompletionResult := some evidence.persistedCompletionResult }

def endCompletion (lease : MultipartCompletionLeaseModel) (now : Timestamp) : Tx Unit :=
  flushCompletionLease { lease with renewedAt := now, expiresAt := now }

/-- The invalidation branch: fail the session and end its lease. -/
def invalidateAttempt (upload : UploadSessionModel) (lease : MultipartCompletionLeaseModel)
    (evidence : PartialCompletionEvidence) (now : Timestamp) : Tx CompletionRecoveryResult := do
  let failed := { withRecoveryFacts upload evidence with
    providerAttemptInvalidatedAt := some now
    failureCode := some .providerAttemptInvalidated
    state := .failed
    completedAt := some now
    lastActivityAt := now }
  flushSession failed
  endCompletion lease now
  let context ← loadMultipartContext failed
  pure ⟨.startNewGeneration, context⟩

def recoveredPart (observations : List ProviderPartObservation) (observedAt : Timestamp)
    (part : UploadPartModel) : UploadPartModel :=
  { observedPart part (observationOf observations part.partNumber) observedAt with
    state := .verified
    verifiedAt := some observedAt }

/-- Flush the observations of every part, then the VERIFIED state of the confirmed ones. -/
def reconcileRecovered (parts : List UploadPartModel) (evidence : PartialCompletionEvidence) :
    Tx Bool := do
  let observedAt := evidence.providerReconciledAt
  forEach parts fun part => flushPart
    (observedPart part (observationOf evidence.providerParts part.partNumber) observedAt)
  let candidates := parts.filter fun part =>
    isConfirmed part (observationOf evidence.providerParts part.partNumber) observedAt
  forEach candidates fun part =>
    flushPart (recoveredPart evidence.providerParts observedAt part)
  pure (candidates.length == parts.length)

/-- The same-MPU branch: reconcile the parts, then retry completion or resume their upload. -/
def recoverParts (upload : UploadSessionModel) (lease : MultipartCompletionLeaseModel)
    (parts : List UploadPartModel) (evidence : PartialCompletionEvidence) (now : Timestamp) :
    Tx CompletionRecoveryResult := do
  let recovered := withRecoveryFacts upload evidence
  flushSession recovered
  let allPartsVerified ← reconcileRecovered parts evidence
  if evidence.recoveryReason = .partsReady then
    require (allPartsVerified = true)
      (contentConflict "PARTS_READY recovery requires every planned Part to match.")
    let context ← loadMultipartContext recovered
    pure ⟨.retryCompletion, context⟩
  else
    require (evidence.recoveryReason = .partsPartial)
      (contentConflict "Unsupported completion recovery reason.")
    require (allPartsVerified = false)
      (contentConflict "PARTS_PARTIAL recovery requires at least one unresolved Part.")
    let resumed := { recovered with
      state := .inProgress
      completionReason := none
      completionPhase := none
      lastActivityAt := now }
    flushSession resumed
    endCompletion lease now
    let context ← loadMultipartContext resumed
    pure ⟨.resumePartUpload, context⟩

/-- Reconcile completion facts without reusing an invalidated provider attempt. -/
def recoverPartialCompletion (claim : CompletionClaim) (evidence : PartialCompletionEvidence) :
    Tx CompletionRecoveryResult := do
  require (distinctParts evidence.providerParts)
    (contentConflict "Provider Part observations contain duplicate numbers.")
  let now ← clockTimestamp
  let (upload, lease) ← fetch
    (fun s => (claimedWork s.db claim now).filter fun w => w.1.providerUploadId ≠ none)
    (leaseLost "Stale completion owner cannot recover the provider attempt.")
  let parts ← select fun s => s.db.partsOf upload.id
  require (allPlanned evidence.providerParts parts)
    (.domain (.invalidPartNumber "Provider returned an unplanned Part."))
  if evidence.recoveryReason.sameMpu = true then recoverParts upload lease parts evidence now
  else invalidateAttempt upload lease evidence now

/-! ## Publication -/

def withEvidence (upload : UploadSessionModel) (evidence : VerificationEvidence) :
    UploadSessionModel :=
  { upload with
    verificationMethod := some evidence.verificationMethod
    observedSha256 := some evidence.observedSha256
    observedSizeBytes := some evidence.observedSizeBytes
    verificationReadBytes := some evidence.verificationReadBytes
    verificationCompletedAt := some evidence.verificationCompletedAt
    verifierImplementation := some evidence.verifierVersion }

/-- Commit structural evidence and publication under one completion fence. -/
def recordVerifiedCompletion (claim : CompletionClaim) (evidence : VerificationEvidence) :
    Tx MultipartUploadContext := do
  let now ← clockTimestamp
  let (upload, lease) ← fetch (fun s => claimedWork s.db claim now)
    (leaseLost "Stale completion owner cannot publish verification evidence.")
  require (upload.completionPhase = some .finalVerification)
    (illegalTransition "Multipart publication requires completion phase FINAL_VERIFICATION.")
  let blob ← fetch (fun s => s.db.blobs.get? upload.blobId)
    (contentConflict "Multipart Blob is unavailable.")
  let _ ← ofExcept (evidence.validateFor blob.sha256 blob.sizeBytes)
  require (blob.state = .uploading)
    (illegalTransition "Only an UPLOADING Blob can be published.")
  let evidenced := withEvidence upload evidence
  flushSession evidenced
  flushBlob { blob with state := .verifying }
  flushBlob { blob with
    state := .available
    verifiedAt := some evidence.verificationCompletedAt }
  let completed := { evidenced with
    state := .completed
    completedAt := some evidence.verificationCompletedAt
    lastActivityAt := now }
  flushSession completed
  endCompletion lease now
  loadMultipartContext completed

end Store

end RoboLake
