import Mathlib

/-! # Errors

The domain errors with their texts, and the other ways a call can end without a
result: the database refuses a statement, the provider's client raises, or a
built-in exception escapes.
-/

namespace RoboLake

/-- Stable, safe RoboLake domain errors, each with its message. -/
inductive RoboLakeError
  | invalidDatasetName (message : String)
  | invalidDatasetReference (message : String)
  | invalidDigest (message : String)
  | unsafePath (message : String)
  | pathCollision (message : String)
  | unsafeFileType (message : String)
  | unsupportedFileSize (relativePath : String) (sizeBytes : Nat)
  | sourceChanged (relativePath : String)
  | unsupportedPlatform (message : String)
  | manifestMismatch (message : String)
  | contentConflict (message : String)
  | illegalTransition (message : String)
  | idempotencyConflict (message : String)
  | notFound (message : String)
  | storedObjectMismatch (message : String)
  | uploadConflict (message : String)
  | invalidPartNumber (message : String)
  | partChecksumRejected (message : String)
  | admissionLeaseHeld (message : String)
  | admissionCapacityExhausted (message : String)
  | admissionLeaseLost (message : String)
  | apiProtocol (message : String)
  | apiUnavailable (message : String)
  | invalidCursor (message : String)
  | multipartSessionNotFound (message : String)
  | providerContract (message : String)
  | providerOperationRejected (message : String)
  | transientProviderFailure (message : String)
  | outputExists (message : String)
  | retryableTransfer (message : String)
  | transferRejected (message : String)
  deriving DecidableEq, Repr

def RoboLakeError.code : RoboLakeError → String
  | invalidDatasetName _ => "INVALID_DATASET_NAME"
  | invalidDatasetReference _ => "INVALID_DATASET_REFERENCE"
  | invalidDigest _ => "INVALID_DIGEST"
  | unsafePath _ => "UNSAFE_PATH"
  | pathCollision _ => "PATH_COLLISION"
  | unsafeFileType _ => "UNSAFE_FILE_TYPE"
  | unsupportedFileSize _ _ => "UNSUPPORTED_FILE_SIZE"
  | sourceChanged _ => "SOURCE_CHANGED"
  | unsupportedPlatform _ => "UNSUPPORTED_PLATFORM"
  | manifestMismatch _ => "MANIFEST_MISMATCH"
  | contentConflict _ => "CONTENT_CONFLICT"
  | illegalTransition _ => "ILLEGAL_TRANSITION"
  | idempotencyConflict _ => "IDEMPOTENCY_CONFLICT"
  | notFound _ => "NOT_FOUND"
  | storedObjectMismatch _ => "STORED_OBJECT_MISMATCH"
  | uploadConflict _ => "UPLOAD_CONFLICT"
  | invalidPartNumber _ => "INVALID_PART_NUMBER"
  | partChecksumRejected _ => "PART_CHECKSUM_REJECTED"
  | admissionLeaseHeld _ => "ADMISSION_LEASE_HELD"
  | admissionCapacityExhausted _ => "ADMISSION_CAPACITY_EXHAUSTED"
  | admissionLeaseLost _ => "ADMISSION_LEASE_LOST"
  | apiProtocol _ => "API_PROTOCOL_ERROR"
  | apiUnavailable _ => "API_UNAVAILABLE"
  | invalidCursor _ => "INVALID_CURSOR"
  | multipartSessionNotFound _ => "MULTIPART_SESSION_NOT_FOUND"
  | providerContract _ => "PROVIDER_CONTRACT_ERROR"
  | providerOperationRejected _ => "PROVIDER_OPERATION_REJECTED"
  | transientProviderFailure _ => "TRANSIENT_PROVIDER_FAILURE"
  | outputExists _ => "OUTPUT_EXISTS"
  | retryableTransfer _ => "RETRYABLE_TRANSFER"
  | transferRejected _ => "TRANSFER_REJECTED"

def RoboLakeError.str : RoboLakeError → String
  | invalidDatasetName m | invalidDatasetReference m | invalidDigest m | unsafePath m
  | pathCollision m | unsafeFileType m | unsupportedPlatform m | manifestMismatch m
  | contentConflict m | illegalTransition m | idempotencyConflict m | notFound m
  | storedObjectMismatch m | uploadConflict m | invalidPartNumber m | partChecksumRejected m
  | admissionLeaseHeld m | admissionCapacityExhausted m | admissionLeaseLost m | apiProtocol m
  | apiUnavailable m | invalidCursor m | multipartSessionNotFound m | providerContract m
  | providerOperationRejected m | transientProviderFailure m | outputExists m
  | retryableTransfer m | transferRejected m => m
  | unsupportedFileSize path size => s!"{path} is {size} bytes; multipart upload is an M2 feature."
  | sourceChanged path => s!"{path} changed while being read; rescan and rerun."

/-- How the database refuses a statement or a commit. -/
inductive DatabaseError
  | raised (message : String)
  | check (constraint : String)
  | unique (constraint : String)
  | foreignKey (constraint : String)
  | outOfRange (column : String)
  | noRow (table : String)
  deriving DecidableEq, Repr

/-- What the client of the object storage raises: the code of a refusal, or a failure of its own. -/
inductive StorageError
  | clientError (code : String)
  | botoCoreError
  deriving DecidableEq, Repr

/-- Everything a modelled call can raise. -/
inductive Failure
  | domain (error : RoboLakeError)
  | database (error : DatabaseError)
  | notImplemented (message : String)
  | valueError
  | recursionError
  | overflowError
  | osError
  | storage (error : StorageError)
  deriving DecidableEq, Repr

end RoboLake
