import RoboLake.Application.Service

/-! # Upload capabilities

A presigned URL lets its bearer write one object without the service. The library
that signs it is not part of the repository: it is a parameter.
-/

namespace RoboLake

open Foundation Store

structure PresignedRequest where
  url : String
  headers : List (String × String)
  deriving DecidableEq

/-- The signed URL of a create-only PUT with its key, size, checksum and lifetime. -/
abbrev SignPut := (objectKey : List Char) → (sizeBytes : Nat) → (checksumBase64 : List Char) →
  (expiresSeconds : Nat) → String

def presignPut (sign : SignPut) (objectKey : List Char) (sizeBytes : Nat)
    (checksumBase64 : List Char) (expiresSeconds : Nat) : PresignedRequest where
  url := sign objectKey sizeBytes checksumBase64 expiresSeconds
  headers := [("If-None-Match", "*"), ("Content-Length", toString sizeBytes),
    ("x-amz-checksum-sha256", String.ofList checksumBase64)]

structure TransferService where
  sign : SignPut
  presignedUrlTtlSeconds : Nat := 900

namespace TransferService

variable [Platform] (service : TransferService)

def putRequest (blob : BlobRecord) : PresignedRequest :=
  presignPut service.sign blob.objectKey blob.sizeBytes blob.sha256.checksumBase64
    service.presignedUrlTtlSeconds

/-- Start one persisted attempt and issue its exact create-only PUT capability. -/
def issueUploadUrl (sessionId : UUID) : Served PresignedRequest := do
  let context ← Served.call (getUpload sessionId)
  match context.session with
  | none => throw (.notImplemented "Upload session does not exist.")
  | some session =>
      let context ←
        if session.state = .created then Served.call (markUploadInProgress sessionId)
        else pure context
      pure (service.putRequest context.blob)

end TransferService

end RoboLake
