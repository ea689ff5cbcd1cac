import RoboLake.Application.Registration
import RoboLake.Application.Transfers

/-! # Uploads

The service resolves the Blob of a file before its upload and after it. What is stored
under the key of the Blob is compared with its identity, and a mismatch is recorded
before it is raised.
-/

namespace RoboLake

open Foundation Store

variable [Platform]

structure UploadPreparation where
  version : VersionRecord
  blobSha256 : Sha256Digest
  sizeBytes : Nat
  available : Bool
  sessionId : Option UUID
  deriving DecidableEq

def UploadContext.preparation (context : UploadContext) (available : Bool) : UploadPreparation where
  version := context.version
  blobSha256 := context.blob.sha256
  sizeBytes := context.blob.sizeBytes
  available := available
  sessionId := context.session.map UploadSessionRecord.id

omit [Platform] in
def storedObjectMismatch (message : String) : Failure := .domain (.storedObjectMismatch message)

def uploadFingerprint (versionId : UUID) (digest : Sha256Digest) : Sha256Digest :=
  requestFingerprint [versionId.bytes, digest.rawBytes]

abbrev recordMismatch (sessionId : UUID) : Tx UploadContext :=
  markUploadFailed sessionId .storedObjectMismatch
    "Stored object does not match its content address."

namespace TransferService

/-! ## Stored objects -/

/-- Compare a stored object with the identity of its Blob. -/
def verifyObject (blob : BlobRecord) (info : ObjectInfo) : Served Unit :=
  if info.sizeBytes ≠ blob.sizeBytes then
    throw (storedObjectMismatch "Stored object size does not match its Blob identity.")
  else
    match info.checksumSha256 with
    | some checksum =>
        if checksum ≠ blob.sha256 then
          throw (storedObjectMismatch
            "Stored object checksum does not match its Blob identity.")
        else pure ()
    | none => do
        let chunks ← Served.look fun objects => objects.iterBytes blob.objectKey
        if chunks.flatten.length ≠ blob.sizeBytes ∨
            (Platform.sha256 chunks.flatten).value ≠ blob.sha256.value then
          throw (storedObjectMismatch "Stored object bytes do not match its Blob identity.")
        else pure ()

/-- Compare a stored object, and record a mismatch before raising it. -/
def verifyOrFail (sessionId : UUID) (blob : BlobRecord) (info : ObjectInfo) : Served Unit :=
  tryCatch (verifyObject blob info) fun e =>
    match e with
    | .domain (.storedObjectMismatch _) => do
        let _ ← Served.call (markUploadFailed sessionId .storedObjectMismatch
          "Stored object does not match its content address.")
        throw e
    | _ => throw e

/-! ## Operations -/

/-- Reuse an attested Blob or begin resolving a new one. -/
def prepareUpload (versionId : UUID) (sha256 : Sha256Digest) (idempotencyKey : String) :
    Served UploadPreparation := do
  let fingerprint := requestFingerprint [versionId.bytes, sha256.rawBytes]
  let context ← Served.call (Store.prepareUpload versionId sha256 idempotencyKey fingerprint)
  if context.blob.state = .available then
    pure { context.preparation true with sessionId := none }
  else
    let info ← Served.look fun objects => objects.head context.blob.objectKey
    match info with
    | none =>
        let context ←
          if context.blob.state = .failed then
            Served.call (restartFailedUpload versionId context.blob.id idempotencyKey fingerprint)
          else pure context
        pure (context.preparation false)
    | some info =>
        match context.session with
        | none => throw (.notImplemented "Reconciliation requires a persisted session.")
        | some session =>
            let context ←
              if session.state = .created then Served.call (markUploadInProgress session.id)
              else pure context
            match context.session with
            | none => throw (.notImplemented "Started upload lost its persisted session.")
            | some session =>
                verifyOrFail session.id context.blob info
                let verified ← Served.call (markUploadVerified session.id info.etag)
                pure (verified.preparation true)

/-- Reconcile one ambiguous conditional PUT outcome idempotently. -/
def completeUpload (sessionId : UUID) (etag : Option String) : Served UploadPreparation := do
  let context ← Served.call (getUpload sessionId)
  let info ← Served.look fun objects => objects.head context.blob.objectKey
  match info with
  | none => throw (.domain (.uploadConflict "Upload outcome is not visible; rerun push."))
  | some info =>
      verifyOrFail sessionId context.blob info
      let verified ← Served.call (markUploadVerified sessionId etag)
      pure (verified.preparation true)

/-! ## Runs

Each program is inverted once: the paths of its run, with what was called, seen and
returned on each of them.
-/

variable {s : Scene} {versionId sessionId : UUID} {digest : Sha256Digest} {key : String}
  {blob : BlobRecord} {info : ObjectInfo} {etag : Option String}

/-- The comparison looks at the stored bytes once or not at all. -/
theorem verifyObject_scene {x : Except Failure Unit} {s₁ : Scene}
    (h : verifyObject blob info s = (x, s₁)) : s₁ = s ∨ s₁ = s.next := by
  unfold verifyObject at h
  by_cases hsize : info.sizeBytes = blob.sizeBytes
  · rw [if_neg (not_not.mpr hsize)] at h
    cases hchecksum : info.checksumSha256 with
    | some checksum =>
        left
        rw [hchecksum] at h
        by_cases hsame : checksum = blob.sha256
        · simp only [if_neg (not_not.mpr hsame)] at h
          cases h
          rfl
        · simp only [if_pos hsame] at h
          cases h
          rfl
    | none =>
        right
        rw [hchecksum] at h
        cases hbytes : (s.turns 0).objects.iterBytes blob.objectKey with
        | error e =>
            have hraised := h.symm.trans (Served.bind_of_error (Served.look_of_error hbytes))
            cases hraised
            rfl
        | ok chunks =>
            have hcompared := h.symm.trans (Served.bind_of_ok (Served.look_of_ok hbytes))
            split at hcompared
            · cases hcompared
              rfl
            · cases hcompared
              rfl
  · rw [if_pos hsize] at h
    cases h
    exact .inl rfl

/-- A mismatch is recorded before it is raised, and nothing else is done. -/
theorem verifyOrFail_of_mismatch {s₁ s₂ : Scene} {message : String}
    {x : Except Failure UploadContext}
    (hverify : verifyObject blob info s = (.error (storedObjectMismatch message), s₁))
    (hcall : Served.call (recordMismatch sessionId) s₁ = (x, s₂)) :
    verifyOrFail sessionId blob info s =
      (x.bind fun _ => .error (storedObjectMismatch message), s₂) := by
  unfold verifyOrFail
  rw [Served.tryCatch_error hverify]
  cases x with
  | error e => exact Served.bind_of_error hcall
  | ok c => exact Served.bind_of_ok hcall

theorem verifyOrFail_of_error {s₁ : Scene} {e : Failure}
    (hverify : verifyObject blob info s = (.error e, s₁))
    (hother : ∀ message, e ≠ storedObjectMismatch message) :
    verifyOrFail sessionId blob info s = (.error e, s₁) := by
  unfold verifyOrFail
  rw [Served.tryCatch_error hverify]
  split
  · exact absurd rfl (hother _)
  · rfl

/-- What an upload does once its object is reported. -/
def attest (sessionId : UUID) (blob : BlobRecord) (info : ObjectInfo) (etag : Option String) :
    Served UploadPreparation := do
  verifyOrFail sessionId blob info
  let verified ← Served.call (markUploadVerified sessionId etag)
  pure (verified.preparation true)

/-- A reported object is compared, and the outcome is recorded before it is returned. -/
inductive AttestRun (sessionId : UUID) (blob : BlobRecord) (info : ObjectInfo)
    (etag : Option String) (s : Scene) : Except Failure UploadPreparation × Scene → Prop
  | verified {s₁ s₂ : Scene} {x : Except Failure UploadContext}
      (hverify : verifyObject blob info s = (.ok (), s₁))
      (hcall : Served.call (markUploadVerified sessionId etag) s₁ = (x, s₂)) :
      AttestRun sessionId blob info etag s (x.map fun c => c.preparation true, s₂)
  | mismatched {s₁ s₂ : Scene} {message : String} {x : Except Failure UploadContext}
      (hverify : verifyObject blob info s = (.error (storedObjectMismatch message), s₁))
      (hcall : Served.call (recordMismatch sessionId) s₁ = (x, s₂)) :
      AttestRun sessionId blob info etag s
        (x.bind fun _ => .error (storedObjectMismatch message), s₂)
  | unread {s₁ : Scene} {e : Failure} (hverify : verifyObject blob info s = (.error e, s₁))
      (hother : ∀ message, e ≠ storedObjectMismatch message) :
      AttestRun sessionId blob info etag s (.error e, s₁)

theorem call_map {α β : Type} {tx : Tx α} {f : α → β} {s₁ : Scene} {x : Except Failure α}
    (h : Served.call tx s = (x, s₁)) :
    (Served.call tx >>= fun a => pure (f a)) s = (x.map f, s₁) := by
  cases x with
  | error e => exact Served.bind_of_error h
  | ok a =>
      rw [Served.bind_of_ok h]
      rfl

theorem attest_of_verified {s₁ s₂ : Scene} {x : Except Failure UploadContext}
    (hverify : verifyObject blob info s = (.ok (), s₁))
    (hcall : Served.call (markUploadVerified sessionId etag) s₁ = (x, s₂)) :
    attest sessionId blob info etag s = (x.map fun c => c.preparation true, s₂) := by
  have hpass : verifyOrFail sessionId blob info s = (.ok (), s₁) := Served.tryCatch_ok hverify
  unfold attest
  rw [Served.bind_of_ok hpass, call_map hcall]

theorem attest_of_mismatch {s₁ s₂ : Scene} {message : String} {x : Except Failure UploadContext}
    (hverify : verifyObject blob info s = (.error (storedObjectMismatch message), s₁))
    (hcall : Served.call (recordMismatch sessionId) s₁ = (x, s₂)) :
    attest sessionId blob info etag s =
      (x.bind fun _ => .error (storedObjectMismatch message), s₂) := by
  have hraised := verifyOrFail_of_mismatch hverify hcall
  unfold attest
  cases x with
  | error e => exact Served.bind_of_error hraised
  | ok c => exact Served.bind_of_error hraised

theorem attest_run : AttestRun sessionId blob info etag s (attest sessionId blob info etag s) := by
  rcases hverify : verifyObject blob info s with ⟨x, s₁⟩
  cases x with
  | ok u =>
      rcases hcall : Served.call (markUploadVerified sessionId etag) s₁ with ⟨y, s₂⟩
      rw [attest_of_verified hverify hcall]
      exact .verified hverify hcall
  | error e =>
      by_cases hmismatch : ∃ message, e = storedObjectMismatch message
      · obtain ⟨message, rfl⟩ := hmismatch
        rcases hcall : Served.call (recordMismatch sessionId) s₁ with ⟨y, s₂⟩
        rw [attest_of_mismatch hverify hcall]
        exact .mismatched hverify hcall
      · have hother : ∀ message, e ≠ storedObjectMismatch message :=
          fun message h => hmismatch ⟨message, h⟩
        unfold attest
        rw [Served.bind_of_error (verifyOrFail_of_error hverify hother)]
        exact .unread hverify hother

/-- What completing an upload calls, sees and returns. -/
inductive CompleteRun (sessionId : UUID) (etag : Option String) (s : Scene) :
    Except Failure UploadPreparation × Scene → Prop
  | refused {e : Failure} {s₁ : Scene}
      (hcall : Served.call (getUpload sessionId) s = (.error e, s₁)) :
      CompleteRun sessionId etag s (.error e, s₁)
  | unseen {c : UploadContext} {e : StorageError} {s₁ : Scene}
      (hcall : Served.call (getUpload sessionId) s = (.ok c, s₁))
      (hhead : (s₁.turns 0).objects.head c.blob.objectKey = .error e) :
      CompleteRun sessionId etag s (.error (.storage e), s₁.next)
  | absent {c : UploadContext} {s₁ : Scene}
      (hcall : Served.call (getUpload sessionId) s = (.ok c, s₁))
      (hhead : (s₁.turns 0).objects.head c.blob.objectKey = .ok none) :
      CompleteRun sessionId etag s
        (.error (.domain (.uploadConflict "Upload outcome is not visible; rerun push.")), s₁.next)
  | reported {c : UploadContext} {info : ObjectInfo} {s₁ : Scene}
      (hcall : Served.call (getUpload sessionId) s = (.ok c, s₁))
      (hhead : (s₁.turns 0).objects.head c.blob.objectKey = .ok (some info)) :
      CompleteRun sessionId etag s (attest sessionId c.blob info etag s₁.next)

theorem completeUpload_of_reported {c : UploadContext} {s₁ : Scene}
    (hcall : Served.call (getUpload sessionId) s = (.ok c, s₁))
    (hhead : (s₁.turns 0).objects.head c.blob.objectKey = .ok (some info)) :
    completeUpload sessionId etag s = attest sessionId c.blob info etag s₁.next := by
  unfold completeUpload
  rw [Served.bind_of_ok hcall, Served.bind_of_ok (Served.look_of_ok hhead)]
  rfl

theorem completeUpload_run : CompleteRun sessionId etag s (completeUpload sessionId etag s) := by
  rcases hcall : Served.call (getUpload sessionId) s with ⟨x, s₁⟩
  cases x with
  | error e =>
      unfold completeUpload
      rw [Served.bind_of_error hcall]
      exact .refused hcall
  | ok c =>
      cases hhead : (s₁.turns 0).objects.head c.blob.objectKey with
      | error e =>
          unfold completeUpload
          rw [Served.bind_of_ok hcall, Served.bind_of_error (Served.look_of_error hhead)]
          exact .unseen hcall hhead
      | ok found =>
          cases found with
          | none =>
              unfold completeUpload
              rw [Served.bind_of_ok hcall, Served.bind_of_ok (Served.look_of_ok hhead)]
              exact .absent hcall hhead
          | some info =>
              rw [completeUpload_of_reported hcall hhead]
              exact .reported hcall hhead

/-- The first call of a preparation has returned an unavailable Blob, and this is what the look at
its object answers. -/
structure PrepareLook (versionId : UUID) (digest : Sha256Digest) (key : String) (s : Scene)
    (c : UploadContext) (s₁ : Scene) (found : Except StorageError (Option ObjectInfo)) : Prop where
  call : Served.call (Store.prepareUpload versionId digest key (uploadFingerprint versionId digest))
    s = (.ok c, s₁)
  unavailable : c.blob.state ≠ .available
  head : (s₁.turns 0).objects.head c.blob.objectKey = found

/-- What preparing an upload calls, sees and returns. -/
inductive PrepareRun (versionId : UUID) (digest : Sha256Digest) (key : String) (s : Scene) :
    Except Failure UploadPreparation × Scene → Prop
  | refused {e : Failure} {s₁ : Scene}
      (hcall : Served.call (Store.prepareUpload versionId digest key
        (uploadFingerprint versionId digest)) s = (.error e, s₁)) :
      PrepareRun versionId digest key s (.error e, s₁)
  | available {c : UploadContext} {s₁ : Scene}
      (hcall : Served.call (Store.prepareUpload versionId digest key
        (uploadFingerprint versionId digest)) s = (.ok c, s₁))
      (hstate : c.blob.state = .available) :
      PrepareRun versionId digest key s (.ok { c.preparation true with sessionId := none }, s₁)
  | unseen {c : UploadContext} {e : StorageError} {s₁ : Scene}
      (hlook : PrepareLook versionId digest key s c s₁ (.error e)) :
      PrepareRun versionId digest key s (.error (.storage e), s₁.next)
  | absent {c : UploadContext} {s₁ : Scene}
      (hlook : PrepareLook versionId digest key s c s₁ (.ok none))
      (hstate : c.blob.state ≠ .failed) :
      PrepareRun versionId digest key s (.ok (c.preparation false), s₁.next)
  | restarted {c : UploadContext} {s₁ s₂ : Scene} {x : Except Failure UploadContext}
      (hlook : PrepareLook versionId digest key s c s₁ (.ok none))
      (hstate : c.blob.state = .failed)
      (hcall : Served.call (restartFailedUpload versionId c.blob.id key
        (uploadFingerprint versionId digest)) s₁.next = (x, s₂)) :
      PrepareRun versionId digest key s (x.map fun c => c.preparation false, s₂)
  | sessionless {c : UploadContext} {info : ObjectInfo} {s₁ : Scene}
      (hlook : PrepareLook versionId digest key s c s₁ (.ok (some info)))
      (hsession : c.session = none) :
      PrepareRun versionId digest key s
        (.error (.notImplemented "Reconciliation requires a persisted session."), s₁.next)
  | resumed {c : UploadContext} {session : UploadSessionRecord} {info : ObjectInfo} {s₁ : Scene}
      (hlook : PrepareLook versionId digest key s c s₁ (.ok (some info)))
      (hsession : c.session = some session) (hstate : session.state ≠ .created) :
      PrepareRun versionId digest key s (attest session.id c.blob info info.etag s₁.next)
  | unstarted {c : UploadContext} {session : UploadSessionRecord} {info : ObjectInfo}
      {e : Failure} {s₁ s₂ : Scene}
      (hlook : PrepareLook versionId digest key s c s₁ (.ok (some info)))
      (hsession : c.session = some session) (hstate : session.state = .created)
      (hcall : Served.call (markUploadInProgress session.id) s₁.next = (.error e, s₂)) :
      PrepareRun versionId digest key s (.error e, s₂)
  | lost {c c' : UploadContext} {session : UploadSessionRecord} {info : ObjectInfo}
      {s₁ s₂ : Scene}
      (hlook : PrepareLook versionId digest key s c s₁ (.ok (some info)))
      (hsession : c.session = some session) (hstate : session.state = .created)
      (hcall : Served.call (markUploadInProgress session.id) s₁.next = (.ok c', s₂))
      (hstarted : c'.session = none) :
      PrepareRun versionId digest key s
        (.error (.notImplemented "Started upload lost its persisted session."), s₂)
  | started {c c' : UploadContext} {session session' : UploadSessionRecord} {info : ObjectInfo}
      {s₁ s₂ : Scene}
      (hlook : PrepareLook versionId digest key s c s₁ (.ok (some info)))
      (hsession : c.session = some session) (hstate : session.state = .created)
      (hcall : Served.call (markUploadInProgress session.id) s₁.next = (.ok c', s₂))
      (hstarted : c'.session = some session') :
      PrepareRun versionId digest key s (attest session'.id c'.blob info info.etag s₂)

theorem prepareUpload_of_refused {e : Failure} {s₁ : Scene}
    (hcall : Served.call (Store.prepareUpload versionId digest key
      (uploadFingerprint versionId digest)) s = (.error e, s₁)) :
    prepareUpload versionId digest key s = (.error e, s₁) := Served.bind_of_error hcall

theorem prepareUpload_of_available {c : UploadContext} {s₁ : Scene}
    (hcall : Served.call (Store.prepareUpload versionId digest key
      (uploadFingerprint versionId digest)) s = (.ok c, s₁)) (hstate : c.blob.state = .available) :
    prepareUpload versionId digest key s =
      (.ok { c.preparation true with sessionId := none }, s₁) := by
  refine (Served.bind_of_ok hcall).trans ?_
  rw [if_pos hstate]
  rfl

theorem prepareUpload_run :
    PrepareRun versionId digest key s (prepareUpload versionId digest key s) := by
  rcases hcall : Served.call (Store.prepareUpload versionId digest key
    (uploadFingerprint versionId digest)) s with ⟨x, s₁⟩
  cases x with
  | error e =>
      rw [prepareUpload_of_refused hcall]
      exact .refused hcall
  | ok c =>
      by_cases havailable : c.blob.state = .available
      · rw [prepareUpload_of_available hcall havailable]
        exact .available hcall havailable
      unfold prepareUpload
      unfold uploadFingerprint at hcall
      dsimp only
      rw [Served.bind_of_ok hcall, if_neg havailable]
      cases hhead : (s₁.turns 0).objects.head c.blob.objectKey with
      | error e =>
          rw [Served.bind_of_error (Served.look_of_error hhead)]
          exact .unseen ⟨hcall, havailable, hhead⟩
      | ok found =>
          have hlook : PrepareLook versionId digest key s c s₁ (.ok found) :=
            ⟨hcall, havailable, hhead⟩
          rw [Served.bind_of_ok (Served.look_of_ok hhead)]
          cases found with
          | none =>
              dsimp only
              by_cases hfailed : c.blob.state = .failed
              · rw [if_pos hfailed]
                rcases hrestart : Served.call (restartFailedUpload versionId c.blob.id key
                  (uploadFingerprint versionId digest)) s₁.next with ⟨y, s₂⟩
                unfold uploadFingerprint at hrestart
                rw [call_map hrestart]
                exact .restarted hlook hfailed hrestart
              · rw [if_neg hfailed]
                exact .absent hlook hfailed
          | some info =>
              dsimp only
              cases hsession : c.session with
              | none => exact .sessionless hlook hsession
              | some session =>
                  dsimp only
                  by_cases hcreated : session.state = .created
                  · rw [if_pos hcreated]
                    rcases hstart : Served.call (markUploadInProgress session.id) s₁.next with
                      ⟨y, s₂⟩
                    cases y with
                    | error e =>
                        rw [Served.bind_of_error hstart]
                        exact .unstarted hlook hsession hcreated hstart
                    | ok c' =>
                        rw [Served.bind_of_ok hstart]
                        cases hstarted : c'.session with
                        | none => exact .lost hlook hsession hcreated hstart hstarted
                        | some session' =>
                            exact .started hlook hsession hcreated hstart hstarted
                  · have hsame : (pure c : Served UploadContext) s₁.next = (.ok c, s₁.next) := rfl
                    rw [if_neg hcreated, Served.bind_of_ok hsame, hsession]
                    exact .resumed hlook hsession hcreated

theorem prepareUpload_of_absent {c : UploadContext} {s₁ : Scene}
    (h : PrepareLook versionId digest key s c s₁ (.ok none)) :
    (c.blob.state ≠ .failed ∧
      prepareUpload versionId digest key s = (.ok (c.preparation false), s₁.next)) ∨
    (c.blob.state = .failed ∧ ∃ x s₂, Served.call (restartFailedUpload versionId c.blob.id key
        (uploadFingerprint versionId digest)) s₁.next = (x, s₂) ∧
      prepareUpload versionId digest key s = (x.map fun c => c.preparation false, s₂)) := by
  have hfirst : ∀ {x s₂}, Served.call (Store.prepareUpload versionId digest key
      (uploadFingerprint versionId digest)) s = (x, s₂) → x = .ok c ∧ s₂ = s₁ := by
    intro x s₂ hcall
    rw [h.call] at hcall
    cases hcall
    exact ⟨rfl, rfl⟩
  have hfound : ∀ {c' s₂ found}, PrepareLook versionId digest key s c' s₂ found →
      c' = c ∧ s₂ = s₁ ∧ found = .ok none := by
    intro c' s₂ found hlook
    obtain ⟨hsame, rfl⟩ := hfirst hlook.call
    cases hsame
    exact ⟨rfl, rfl, hlook.head.symm.trans h.head⟩
  have hrun := @prepareUpload_run _ s versionId digest key
  generalize prepareUpload versionId digest key s = out at hrun ⊢
  cases hrun with
  | refused hcall => cases (hfirst hcall).1
  | available hcall hstate =>
      obtain ⟨hsame, _⟩ := hfirst hcall
      cases hsame
      exact absurd hstate h.unavailable
  | absent hlook hstate =>
      obtain ⟨rfl, rfl, _⟩ := hfound hlook
      exact .inl ⟨hstate, rfl⟩
  | restarted hlook hstate hcall =>
      obtain ⟨rfl, rfl, _⟩ := hfound hlook
      exact .inr ⟨hstate, _, _, hcall, rfl⟩
  | unseen hlook => cases (hfound hlook).2.2
  | sessionless hlook => cases (hfound hlook).2.2
  | resumed hlook => cases (hfound hlook).2.2
  | unstarted hlook => cases (hfound hlook).2.2
  | lost hlook => cases (hfound hlook).2.2
  | started hlook => cases (hfound hlook).2.2

end TransferService

end RoboLake
