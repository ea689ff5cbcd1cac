import RoboLake.Infrastructure.Store.Completion
import RoboLake.Foundation.Machine

/-! # The store as a machine

Every public operation with its arguments. A call is an operation with what it
reads from its surroundings; the registry moves by one call at a time.
-/

namespace RoboLake

open Foundation Work

variable [Platform]

inductive Operation
  | createDataset (name : DatasetName) (idempotencyKey : String) (requestSha256 : Sha256Digest)
  | registerVersion (datasetId : UUID) (manifest : Manifest) (idempotencyKey : String)
      (requestSha256 : Sha256Digest)
  | resolveVersion (datasetName : DatasetName) (versionNumber : Nat)
  | getManifest (versionId : UUID)
  | getStatus (versionId : UUID)
  | getDownloadEntry (versionId : UUID) (manifestOrdinal : Nat)
  | prepareUpload (versionId : UUID) (digest : Sha256Digest) (idempotencyKey : String)
      (requestSha256 : Sha256Digest)
  | getUpload (sessionId : UUID)
  | markUploadInProgress (sessionId : UUID)
  | markUploadVerified (sessionId : UUID) (etag : Option String)
  | markUploadFailed (sessionId : UUID) (code : FailureCode) (detail : String)
  | restartFailedUpload (versionId blobId : UUID) (idempotencyKey : String)
      (requestSha256 : Sha256Digest)
  | finalizeVersion (versionId : UUID)
  | createOrResolveMultipart (requestId versionId blobId : UUID) (plan : HashedMultipartPlan)
  | getMultipart (sessionId : UUID)
  | acquireMultipartLease (requestId invocationId sessionId : UUID) (ttlSeconds capacity : Int)
  | releaseMultipartLease (sessionId ownerId : UUID) (epoch : Nat)
  | beginProviderInitiation (sessionId ownerId : UUID) (epoch : Nat)
  | recordProviderUpload (sessionId ownerId : UUID) (epoch : Nat) (providerUploadId : String)
  | recordUploadedPart (sessionId ownerId : UUID) (epoch : Nat) (receipt : CompletedPartReceipt)
  | reconcileParts (sessionId ownerId : UUID) (epoch : Nat)
      (providerParts : List ProviderPartObservation) (attribution : PartAttribution)
  | markMultipartInitiationAmbiguous (sessionId ownerId : UUID) (epoch : Nat)
  | acceptCompletion (sessionId ownerId : UUID) (epoch : Nat) (requestId : UUID)
  | claimCompletion (ownerInstanceId : UUID) (ttlSeconds capacity : Int)
  | renewCompletionLease (sessionId ownerInstanceId : UUID) (epoch : Nat) (ttlSeconds : Int)
  | setCompletionPhase (claim : CompletionClaim) (phase : CompletionPhase)
      (finalPresentObserved retryableReconciliation transientReadFailure : Bool)
  | recoverPartialCompletion (claim : CompletionClaim) (evidence : PartialCompletionEvidence)
  | recordVerifiedCompletion (claim : CompletionClaim) (evidence : VerificationEvidence)

def effect {α : Type} (tx : Tx α) : Tx Unit := tx >>= fun _ => pure ()

/-- The transaction of an operation, its result dropped. -/
def operationTx : Operation → Tx Unit
  | .createDataset name key sha => effect (Store.createDataset name key sha)
  | .registerVersion dataset manifest key sha =>
      effect (Store.registerVersion dataset manifest key sha)
  | .resolveVersion name number => effect (Store.resolveVersion name number)
  | .getManifest version => effect (Store.getManifest version)
  | .getStatus version => effect (Store.getStatus version)
  | .getDownloadEntry version ordinal => effect (Store.getDownloadEntry version ordinal)
  | .prepareUpload version digest key sha => effect (Store.prepareUpload version digest key sha)
  | .getUpload session => effect (Store.getUpload session)
  | .markUploadInProgress session => effect (Store.markUploadInProgress session)
  | .markUploadVerified session etag => effect (Store.markUploadVerified session etag)
  | .markUploadFailed session code detail => effect (Store.markUploadFailed session code detail)
  | .restartFailedUpload version blob key sha =>
      effect (Store.restartFailedUpload version blob key sha)
  | .finalizeVersion version => effect (Store.finalizeVersion version)
  | .createOrResolveMultipart request version blob plan =>
      effect (Store.createOrResolveMultipart request version blob plan)
  | .getMultipart session => effect (Store.getMultipart session)
  | .acquireMultipartLease request invocation session ttl capacity =>
      effect (Store.acquireMultipartLease request invocation session ttl capacity)
  | .releaseMultipartLease session owner epoch => Store.releaseMultipartLease session owner epoch
  | .beginProviderInitiation session owner epoch =>
      Store.beginProviderInitiation session owner epoch
  | .recordProviderUpload session owner epoch provider =>
      Store.recordProviderUpload session owner epoch provider
  | .recordUploadedPart session owner epoch receipt =>
      effect (Store.recordUploadedPart session owner epoch receipt)
  | .reconcileParts session owner epoch parts attribution =>
      effect (Store.reconcileParts session owner epoch parts attribution)
  | .markMultipartInitiationAmbiguous session owner epoch =>
      Store.markMultipartInitiationAmbiguous session owner epoch
  | .acceptCompletion session owner epoch request =>
      effect (Store.acceptCompletion session owner epoch request)
  | .claimCompletion owner ttl capacity => effect (Store.claimCompletion owner ttl capacity)
  | .renewCompletionLease session owner epoch ttl =>
      effect (Store.renewCompletionLease session owner epoch ttl)
  | .setCompletionPhase claim phase final retryable transient =>
      Store.setCompletionPhase claim phase final retryable transient
  | .recoverPartialCompletion claim evidence =>
      effect (Store.recoverPartialCompletion claim evidence)
  | .recordVerifiedCompletion claim evidence =>
      effect (Store.recordVerifiedCompletion claim evidence)

structure Call where
  operation : Operation
  env : Env

/-- The registry after a call. -/
def Call.step (c : Call) (r : Registry) : Registry := (transact (operationTx c.operation) c.env r).2

/-- The registry moved by the calls of its store. -/
def store : Machine Registry Call := ⟨Registry.initial, Call.step⟩

end RoboLake
