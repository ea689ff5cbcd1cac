import RoboLake.Domain.Errors
import Mathlib

/-! # Publication and upload lifecycles

The states of Versions, Blobs, upload sessions, parts and completion work, with
the edges the domain guards accept. The guards of the repository are one shape,
`requireEdge`, at their own edge sets and messages.
-/

namespace RoboLake

/-! ## States -/

inductive VersionState
  | draft | uploading | verifying | ready | failed
  deriving DecidableEq, Repr

inductive BlobState
  | pending | uploading | verifying | available | failed
  deriving DecidableEq, Repr

/-- The session states of both strategies; single-PUT attempts use four of them. -/
inductive SessionState
  | created | initiating | inProgress | completing | completed
  | aborting | aborted | cancelled | failed
  deriving DecidableEq, Repr

/-- Derived safe caller guidance. -/
inductive NextAction
  | none | retryPush | retryStatus | contactOperator
  deriving DecidableEq, Repr

inductive UploadPartState
  | pending | uploaded | verified
  deriving DecidableEq, Repr

inductive CompletionPhase
  | pending | assembling | finalPresent | finalVerification
  deriving DecidableEq, Repr

inductive CompletionReason
  | partsReady | finalPresent
  deriving DecidableEq, Repr

inductive CompletionRecoveryReason
  | partsReady | partsPartial | conditional409 | multipartSessionNotFound
  deriving DecidableEq, Repr

inductive CompletionRecoveryAction
  | retryCompletion | resumePartUpload | startNewGeneration
  deriving DecidableEq, Repr

inductive CompletionResult
  | ambiguous | conflict409 | embeddedError | noSuchUpload
  deriving DecidableEq, Repr

inductive VerificationMethod
  | fullStreamSha256
  deriving DecidableEq, Repr

inductive PartAttribution
  | newlyTransferred | reusedProvider | reconciled
  deriving DecidableEq, Repr

inductive UploadStrategy
  | singlePut | multipart
  deriving DecidableEq, Repr

inductive FailureCode
  | storedObjectMismatch
  deriving DecidableEq, Repr

inductive SessionFailureCode
  | storedObjectMismatch | initiationAmbiguous | providerAttemptInvalidated
  deriving DecidableEq, Repr

def VersionState.str : VersionState → String
  | draft => "DRAFT" | uploading => "UPLOADING" | verifying => "VERIFYING"
  | ready => "READY" | failed => "FAILED"

def BlobState.str : BlobState → String
  | pending => "PENDING" | uploading => "UPLOADING" | verifying => "VERIFYING"
  | available => "AVAILABLE" | failed => "FAILED"

def SessionState.str : SessionState → String
  | created => "CREATED" | initiating => "INITIATING" | inProgress => "IN_PROGRESS"
  | completing => "COMPLETING" | completed => "COMPLETED" | aborting => "ABORTING"
  | aborted => "ABORTED" | cancelled => "CANCELLED" | failed => "FAILED"

def UploadPartState.str : UploadPartState → String
  | pending => "PENDING" | uploaded => "UPLOADED" | verified => "VERIFIED"

def CompletionPhase.str : CompletionPhase → String
  | pending => "PENDING" | assembling => "ASSEMBLING" | finalPresent => "FINAL_PRESENT"
  | finalVerification => "FINAL_VERIFICATION"

/-- The states the partial unique index counts as active. -/
def SessionState.isActive : SessionState → Bool
  | created | initiating | inProgress | completing | aborting => true
  | completed | aborted | cancelled | failed => false

/-! ## Guards -/

/-- Return the target when the transition is idempotent, an edge, or specially admitted. -/
def requireEdge {σ : Type} [DecidableEq σ] (subject : String) (str : σ → String)
    (edges : List (σ × σ)) (admitted : Bool) (current target : σ) : Except Failure σ :=
  if current = target ∨ (current, target) ∈ edges ∨ admitted then .ok target
  else .error (.domain (.illegalTransition
    (subject ++ " cannot transition from " ++ str current ++ " to " ++ str target ++ ".")))

theorem requireEdge_ok {σ : Type} [DecidableEq σ] {subject : String} {str : σ → String}
    {edges : List (σ × σ)} {admitted : Bool} {current target result : σ} :
    requireEdge subject str edges admitted current target = .ok result ↔
      result = target ∧ (current = target ∨ (current, target) ∈ edges ∨ admitted = true) := by
  unfold requireEdge
  split
  · rename_i h
    simp [h, eq_comm]
  · rename_i h
    simp [h]

def VersionState.edges : List (VersionState × VersionState) :=
  [(.draft, .uploading), (.draft, .verifying), (.uploading, .verifying), (.verifying, .ready),
   (.verifying, .failed), (.failed, .uploading)]

def requireVersionTransition (current target : VersionState) : Except Failure VersionState :=
  requireEdge "Version" VersionState.str VersionState.edges false current target

def BlobState.edges : List (BlobState × BlobState) :=
  [(.pending, .uploading), (.uploading, .verifying), (.verifying, .available),
   (.verifying, .failed), (.failed, .uploading)]

def requireBlobTransition (current target : BlobState) : Except Failure BlobState :=
  requireEdge "Blob" BlobState.str BlobState.edges false current target

def SessionState.singlePutEdges : List (SessionState × SessionState) :=
  [(.created, .inProgress), (.inProgress, .completed), (.inProgress, .failed)]

def requireSessionTransition (current target : SessionState) : Except Failure SessionState :=
  requireEdge "UploadSession" SessionState.str SessionState.singlePutEdges false current target

def SessionState.multipartEdges : List (SessionState × SessionState) :=
  [(.created, .initiating), (.created, .cancelled), (.created, .failed),
   (.initiating, .inProgress), (.initiating, .failed),
   (.inProgress, .completing), (.inProgress, .aborting), (.inProgress, .failed),
   (.completing, .completed), (.completing, .failed),
   (.aborting, .aborted), (.aborting, .completing), (.aborting, .failed)]

/-- Return target when the multipart session transition is legal; only guarded recovery reopens
completion work. -/
def requireMultipartSessionTransition (current target : SessionState)
    (guardedCompletionRecovery : Bool) : Except Failure SessionState :=
  requireEdge "Multipart session" SessionState.str SessionState.multipartEdges
    (guardedCompletionRecovery && current == .completing && target == .inProgress) current target

def UploadPartState.edges : List (UploadPartState × UploadPartState) :=
  [(.pending, .uploaded), (.uploaded, .verified)]

/-- Return target when the part transition is legal; only provider reconciliation resets a part. -/
def requireUploadPartTransition (current target : UploadPartState) (providerReconciled : Bool) :
    Except Failure UploadPartState :=
  requireEdge "UploadPart" UploadPartState.str UploadPartState.edges
    (providerReconciled && (current == .uploaded || current == .verified) && target == .pending)
    current target

def completionPhaseEdges : List (CompletionPhase × CompletionPhase) :=
  [(.pending, .assembling), (.assembling, .finalPresent), (.finalPresent, .finalVerification)]

/-- Return target when the completion phase transition is legal under the caller's evidence. -/
def requireCompletionPhaseTransition (current target : CompletionPhase)
    (finalPresentObserved retryableReconciliation transientReadFailure : Bool) :
    Except Failure CompletionPhase :=
  requireEdge "Completion phase" CompletionPhase.str completionPhaseEdges
    ((finalPresentObserved && current == .pending && target == .finalPresent) ||
      (retryableReconciliation && current == .assembling && target == .pending) ||
      (transientReadFailure && current == .finalVerification && target == .finalPresent))
    current target

theorem requireCompletionPhaseTransition_ok {current target result : CompletionPhase}
    {f₁ f₂ f₃ : Bool} :
    requireCompletionPhaseTransition current target f₁ f₂ f₃ = .ok result ↔
      result = target ∧ (current = target ∨ (current, target) ∈ completionPhaseEdges ∨
        (f₁ = true ∧ current = .pending ∧ target = .finalPresent) ∨
        (f₂ = true ∧ current = .assembling ∧ target = .pending) ∨
        (f₃ = true ∧ current = .finalVerification ∧ target = .finalPresent)) := by
  rw [requireCompletionPhaseTransition, requireEdge_ok]
  simp only [Bool.or_eq_true, Bool.and_eq_true, beq_iff_eq, and_assoc, or_assoc]

end RoboLake
