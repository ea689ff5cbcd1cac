import RoboLake.Application.Uploads
import RoboLake.Registry.Accepted.Failures
import RoboLake.Guarantees.Capabilities
import RoboLake.Guarantees.Repairs

/-! # Recorded mismatches

A stored object that differs from its Blob fails the attempt that finds it, together
with the Blob and the initiating Version. The Version may have left UPLOADING with
another Blob: then nothing is recorded and another error is raised.
-/

namespace RoboLake

open Foundation Store Work

section Mismatches

variable [Platform] {s s₁ : Scene} {sessionId : UUID} {etag : Option String}

/-! ## What is recorded -/

def MismatchRecorded (db : Database) (sessionId : UUID) : Prop :=
  ∃ u b, db.sessions.get? sessionId = some u ∧ db.blobs.get? u.blobId = some b ∧
    (u.state = .failed ∧ u.failureCode = some .storedObjectMismatch) ∧
    b.state = .failed ∧ b.failureCode = some .storedObjectMismatch

/-- Completing the upload raises a mismatch and leaves it recorded. -/
def RecordsMismatch (etag : Option String) (s : Scene) (sessionId : UUID) : Prop :=
  ∃ message s', TransferService.completeUpload sessionId etag s =
    (.error (storedObjectMismatch message), s') ∧ MismatchRecorded s'.registry.db sessionId

/-- The mismatch is recorded already, or the session is IN_PROGRESS under an UPLOADING Version. -/
def Recordable (db : Database) (sessionId : UUID) : Prop :=
  MismatchRecorded db sessionId ∨
    ∃ u v, db.sessions.get? sessionId = some u ∧ u.state = .inProgress ∧
      db.versions.get? u.initiatingVersionId = some v ∧ v.state = .uploading

/-- The stream under the key is read to its end and has these bytes. -/
def ObjectStore.Streams (objects : ObjectStore) (objectKey : List Char) (content : Bytes) : Prop :=
  ∃ chunks, objects.iterBytes objectKey = .ok chunks ∧ chunks.flatten = content

/-- Whenever the service looks, this content is stored under the key: HEAD tells its length and no
other SHA-256, and the stream has its bytes. -/
def StoresContent (s : Scene) (objectKey : List Char) (content : Bytes) : Prop :=
  ∀ n, (∃ info, (s.turns n).objects.head objectKey = .ok (some info) ∧
      info.sizeBytes = content.length ∧
      ∀ checksum, info.checksumSha256 = some checksum → checksum = Platform.sha256 content) ∧
    (s.turns n).objects.Streams objectKey content

def Differs (content : Bytes) (b : BlobModel) : Prop :=
  content.length ≠ b.sizeBytes ∨ Platform.sha256 content ≠ b.sha256

/-- What the service does before it records the outcome of the comparison. -/
def compareUpload (sessionId : UUID) : Served Unit := do
  let context ← Served.call (getUpload sessionId)
  let info ← Served.look fun objects => objects.head context.blob.objectKey
  match info with
  | none => pure ()
  | some info => TransferService.verifyObject context.blob info

def Scene.outcome (s : Scene) (sessionId : UUID) : Registry :=
  (compareUpload sessionId s).2.next.registry

/-! ## The comparison -/

omit [Platform] in
theorem Sha256Digest.value_ne {a b : Sha256Digest} (h : a ≠ b) : a.value ≠ b.value := by
  intro hvalue
  exact h (Sha256Digest.ext hvalue)

theorem verifyObject_of_differs {blob : BlobRecord} {info : ObjectInfo} {content : Bytes}
    (hsize : info.sizeBytes = content.length)
    (hchecksum : ∀ c, info.checksumSha256 = some c → c = Platform.sha256 content)
    (hstream : info.checksumSha256 = none → (s.turns 0).objects.Streams blob.objectKey content)
    (hdiffers : content.length ≠ blob.sizeBytes ∨ Platform.sha256 content ≠ blob.sha256) :
    ∃ message s', TransferService.verifyObject blob info s =
      (.error (storedObjectMismatch message), s') ∧ (s' = s ∨ s' = s.next) := by
  by_cases hlength : info.sizeBytes = blob.sizeBytes
  · have hsha : Platform.sha256 content ≠ blob.sha256 :=
      hdiffers.resolve_left fun hne => hne (hsize ▸ hlength)
    cases hhead : info.checksumSha256 with
    | some checksum =>
        have hne : checksum ≠ blob.sha256 := by
          rw [hchecksum checksum hhead]
          exact hsha
        unfold TransferService.verifyObject
        rw [if_neg (not_not.mpr hlength), hhead]
        simp only [if_pos hne]
        exact ⟨_, s, rfl, .inl rfl⟩
    | none =>
        have hvalue := Sha256Digest.value_ne hsha
        obtain ⟨chunks, hchunks, hbytes⟩ := hstream hhead
        unfold TransferService.verifyObject
        rw [if_neg (not_not.mpr hlength), hhead]
        refine ⟨"Stored object bytes do not match its Blob identity.", s.next, ?_, .inr rfl⟩
        refine (Served.bind_of_ok (Served.look_of_ok hchunks)).trans ?_
        rw [hbytes, if_pos (.inr hvalue)]
        rfl
  · unfold TransferService.verifyObject
    rw [if_pos hlength]
    exact ⟨_, s, rfl, .inl rfl⟩

/-- What a service finds of an attempt whose stored object differs. -/
structure Compared (s : Scene) (sessionId : UUID) (etag : Option String) (message : String)
    (s₁ : Scene) : Prop where
  compared : compareUpload sessionId s = (.error (storedObjectMismatch message), s₁)
  completed : ∀ x s₂, Served.call (recordMismatch sessionId) s₁ = (x, s₂) →
    TransferService.completeUpload sessionId etag s =
      (x.bind fun _ => .error (storedObjectMismatch message), s₂)
  later : Extends s.registry.db s₁.registry.db
  reachable : store.Reachable s₁.registry

theorem compared_of_differs {u : UploadSessionModel} {b : BlobModel} {content : Bytes}
    (h : store.Reachable s.registry) (hu : s.registry.db.sessions.get? sessionId = some u)
    (hsingle : u.strategy = .singlePut) (hb : s.registry.db.blobs.get? u.blobId = some b)
    (hstored : StoresContent s b.objectKey content) (hdiffers : Differs content b) :
    ∃ message s₁, Compared s sessionId etag message s₁ := by
  have hnext := Scene.next_reachable h
  have hextends : Extends s.registry.db s.next.registry.db := extends_of_run_store h _
  obtain ⟨u', hu', hlater⟩ := hextends.sessions _ _ hu
  obtain ⟨b', hb', hblobLater⟩ := hextends.blobs _ _ hb
  rw [← hlater.blob] at hb'
  obtain ⟨c, hrun, _, hblob⟩ := run_getUpload hnext
    (t := beginTx (s.turns 0).env s.next.registry) rfl hu' (hlater.strategy.trans hsingle)
  have hrecord := hblob b' hb'
  have hkey : c.blob.objectKey = b.objectKey := by
    rw [hrecord]
    exact hblobLater.objectKey
  obtain ⟨⟨info, hhead, hsize, hchecksum⟩, _⟩ := hstored 1
  obtain ⟨_, hstream⟩ := hstored 2
  let s₁ : Scene := { s.next with
    registry := ⟨s.next.registry.db, s.next.registry.later (s.turns 0).env⟩ }
  have hcall : Served.call (getUpload sessionId) s = (.ok c, s₁) := Served.call_of_read hrun
  rw [← hkey] at hhead hstream
  have hdiffers' : content.length ≠ c.blob.sizeBytes ∨
      Platform.sha256 content ≠ c.blob.sha256 := by
    rw [hrecord]
    change _ ≠ b'.sizeBytes ∨ _ ≠ b'.sha256
    rw [hblobLater.sizeBytes, hblobLater.sha256]
    exact hdiffers
  obtain ⟨message, s₂, hverify, hscene⟩ :=
    @verifyObject_of_differs _ s₁.next _ _ _ hsize hchecksum (fun _ => hstream) hdiffers'
  have hreachable₁ : store.Reachable s₁.registry := by
    have hreads := Served.call_reachable (.getUpload sessionId) rfl h
    rwa [hcall] at hreads
  have hreachable₂ := Scene.next_reachable hreachable₁
  have hlater₁ : Extends s₁.registry.db s₁.next.registry.db := extends_of_run_store hreachable₁ _
  refine ⟨message, s₂, ⟨?_, ?_, ?_, ?_⟩⟩
  · unfold compareUpload
    rw [Served.bind_of_ok hcall, Served.bind_of_ok (Served.look_of_ok hhead)]
    exact hverify
  · intro x s₃ hrecord
    rw [TransferService.completeUpload_of_reported hcall hhead]
    exact TransferService.attest_of_mismatch hverify hrecord
  · rcases hscene with rfl | rfl
    · exact hextends.trans hlater₁
    · exact (hextends.trans hlater₁).trans (extends_of_run_store hreachable₂ _)
  · rcases hscene with rfl | rfl
    · exact hreachable₂
    · exact Scene.next_reachable hreachable₂

/-! ## The record -/

theorem run_markUploadFailed_ok {env : Env} {r : Registry} {code : FailureCode} {detail : String}
    {c : UploadContext} {t : TxState}
    (h : run (markUploadFailed sessionId code detail) (beginTx env r) = .ok (c, t)) :
    t.db = r.db ∨ ∃ u v, r.db.sessions.get? sessionId = some u ∧ u.state = .inProgress ∧
      r.db.versions.get? u.initiatingVersionId = some v ∧ v.state = .uploading := by
  obtain ⟨u, b, v, hu, _, _, hv, hrun⟩ := run_lockUpload_bind_ok h
  simp only at hrun
  by_cases hfailed : u.state = .failed
  · left
    rw [if_pos hfailed] at hrun
    simp only [fetchDataset, run_fetch_bind_ok, run_pure_ok] at hrun
    obtain ⟨_, _, _, rfl⟩ := hrun
    rfl
  · rw [if_neg hfailed, run_require_bind_ok] at hrun
    obtain ⟨⟨hstate, _, huploading⟩, _⟩ := hrun
    exact .inr ⟨u, v, hu, hstate, hv, huploading⟩

theorem run_markUploadFailed_again {r : Registry} {t : TxState} {code : FailureCode}
    {detail : String} {u : UploadSessionModel} (h : store.Reachable r) (ht : t.db = r.db)
    (hu : r.db.sessions.get? sessionId = some u) (hsingle : u.strategy = .singlePut)
    (hfailed : u.state = .failed) :
    ∃ c, run (markUploadFailed sessionId code detail) t = .ok (c, t) := by
  have hlawful := (committed_of_reachable h).lawful
  obtain ⟨b, hb⟩ := hlawful.session_blob.get (Relation.mem_of_get? hu)
  obtain ⟨v, hv⟩ := hlawful.session_version.get (Relation.mem_of_get? hu)
  obtain ⟨d, hd⟩ := hlawful.version_dataset.get (Relation.mem_of_get? hv)
  rw [← ht] at hu hb hv hd
  have hlock : run (lockUpload sessionId) t = .ok ((u, b, v), t) := by
    unfold lockUpload
    refine run_fetch_bind_ok.mpr ⟨u, hu, ?_⟩
    refine run_ofExcept_bind_ok.mpr ⟨(), requireSinglePutSession_ok.mpr hsingle, ?_⟩
    refine run_fetch_bind_ok.mpr ⟨b, hb, ?_⟩
    refine run_fetch_bind_ok.mpr ⟨v, hv, ?_⟩
    rfl
  refine ⟨uploadContext v d.name b (some u), ?_⟩
  unfold markUploadFailed
  refine run_bind_ok.mpr ⟨(u, b, v), t, hlock, ?_⟩
  simp only [if_pos hfailed, fetchDataset]
  exact run_fetch_bind_ok.mpr ⟨d, hd, rfl⟩

/-- A mismatch found on completion is raised and recorded exactly when, in the registry of the
outcome, it is recorded already or the session is IN_PROGRESS under an UPLOADING Version. -/
theorem mismatch_is_recorded_iff {u : UploadSessionModel} {b : BlobModel} {content : Bytes}
    (h : store.Reachable s.registry) (hu : s.registry.db.sessions.get? sessionId = some u)
    (hsingle : u.strategy = .singlePut) (hb : s.registry.db.blobs.get? u.blobId = some b)
    (hstored : StoresContent s b.objectKey content) (hdiffers : Differs content b) :
    RecordsMismatch etag s sessionId ↔ Recordable (s.outcome sessionId).db sessionId := by
  obtain ⟨message, s₁, hcompared⟩ := @compared_of_differs _ _ _ etag _ _ _ h hu hsingle hb hstored
    hdiffers
  have houtcome : s.outcome sessionId = s₁.next.registry := by
    unfold Scene.outcome
    rw [hcompared.compared]
  have hreachable := Scene.next_reachable hcompared.reachable
  have hextends : Extends s.registry.db s₁.next.registry.db :=
    hcompared.later.trans (extends_of_run_store hcompared.reachable _)
  rw [houtcome]
  constructor
  · intro hrecords
    obtain ⟨message', s', hcomplete, hrecorded⟩ := hrecords
    cases hmark : transact (recordMismatch sessionId) (s₁.turns 0).env s₁.next.registry with
    | mk x r' =>
        have hcall := Served.call_of_transact hmark
        cases x with
        | error e =>
            rw [hcompared.completed _ _ hcall] at hcomplete
            cases hcomplete
            left
            have hsame : r'.db = s₁.next.registry.db := by rw [transact_error hmark]
            rw [← hsame]
            exact hrecorded
        | ok context =>
            rw [hcompared.completed _ _ hcall] at hcomplete
            cases hcomplete
            obtain ⟨t, _, hrun, _, rfl⟩ := transact_ok.mp hmark
            rcases run_markUploadFailed_ok hrun with hsame | hactive
            · left
              rw [← hsame]
              exact hrecorded
            · exact .inr hactive
  · intro hrecordable
    obtain ⟨u', hu', hlater⟩ := hextends.sessions _ _ hu
    have hsingle' : u'.strategy = .singlePut := hlater.strategy.trans hsingle
    rcases hrecordable with hrecorded | ⟨x, v, hx, hstate, hv, huploading⟩
    · obtain ⟨x, _, hx, _, ⟨hfailed, _⟩, _⟩ := id hrecorded
      have hsame : x = u' := Option.some.inj (hx.symm.trans hu')
      subst hsame
      have hagain : ∃ c, run (recordMismatch sessionId)
          (beginTx (s₁.turns 0).env s₁.next.registry) =
            .ok (c, beginTx (s₁.turns 0).env s₁.next.registry) :=
        run_markUploadFailed_again hreachable rfl hu' hsingle' hfailed
      obtain ⟨c, hrun⟩ := hagain
      have hcall := Served.call_of_read hrun
      exact ⟨message, _, hcompared.completed _ _ hcall, hrecorded⟩
    · have hsame : x = u' := Option.some.inj (hx.symm.trans hu')
      subst hsame
      obtain rfl : x.id = sessionId := Relation.key_of_get? hu'
      obtain ⟨c, db, hmark, ⟨x', hx', hxfailed, hxblob, hxcode⟩, b', hb', hbfailed, hbcode⟩ :=
        @transact_markUploadFailed _ (s₁.turns 0).env _ _ _ .storedObjectMismatch
          "Stored object does not match its content address." hreachable hu' hsingle' hstate hv
          huploading (by decide)
      have hcall := Served.call_of_transact hmark
      refine ⟨message, _, hcompared.completed _ _ hcall, x', b', hx', ?_,
        ⟨hxfailed, hxcode⟩, hbfailed, hbcode⟩
      rw [hxblob]
      exact hb'

end Mismatches

end RoboLake

namespace RoboLake.Pair

open Foundation Store Work

/-! ## Two attempts of one Version -/

open Sample (env)

/-- Attempts on both Blobs of Version `200` have started. -/
def paired : List Call :=
  orphaned.take 5 ++ [⟨.markUploadInProgress 400, env 6⟩]

def halved : List Call :=
  paired ++ [⟨.markUploadFailed 300 .storedObjectMismatch "The object differs.", env 7⟩]

def poison : ObjectStore where
  head _ := .ok (some ⟨2, none, none⟩)
  iterBytes _ := .ok [[0, 0]]

def poisonedAfter (calls : List Call) : Scene where
  registry := store.runFrom store.start calls
  turns := fun n => ⟨[], env (10 + n), poison⟩

theorem poison_stored (calls : List Call) (objectKey : List Char) :
    StoresContent (poisonedAfter calls) objectKey [0, 0] := by
  intro n
  refine ⟨⟨⟨2, none, none⟩, rfl, rfl, ?_⟩, [[0, 0]], rfl, rfl⟩
  intro checksum hchecksum
  cases hchecksum

def isMismatch : Except Failure UploadPreparation → Bool
  | .error (.domain (.storedObjectMismatch _)) => true
  | _ => false

def SecondAttempt (calls : List Call) : Prop :=
  ((store.runFrom store.start calls).db.sessions.get? 400).any (fun u =>
    (u.strategy = .singlePut ∧ u.state = .inProgress) ∧
      ((store.runFrom store.start calls).db.blobs.get? u.blobId).any fun b =>
        b.sizeBytes = 1) = true

instance (calls : List Call) : Decidable (SecondAttempt calls) :=
  inferInstanceAs (Decidable (_ = true))

set_option maxRecDepth 100000 in
/-- The second attempt finds a poisoned object and cannot record it: its Version has failed. -/
theorem pair_mismatch_is_lost :
    ¬∀ s : Scene, store.Reachable s.registry → ∀ sessionId etag u b content,
      s.registry.db.sessions.get? sessionId = some u → u.strategy = .singlePut →
      u.state = .inProgress → s.registry.db.blobs.get? u.blobId = some b →
      StoresContent s b.objectKey content → Differs content b →
      RecordsMismatch etag s sessionId := by
  intro hall
  have hfacts : SecondAttempt halved ∧
      isMismatch (TransferService.completeUpload 400 none (poisonedAfter halved)).1 = false := by
    decide +kernel
  obtain ⟨hsecond, hlost⟩ := hfacts
  obtain ⟨u, hu, hrow⟩ := (Option.any_eq_true _ _).mp hsecond
  obtain ⟨⟨hsingle, hstate⟩, hblob⟩ := of_decide_eq_true hrow
  obtain ⟨b, hb, hsize⟩ := (Option.any_eq_true _ _).mp hblob
  have hdiffers : Differs [0, 0] b := by
    left
    rw [of_decide_eq_true hsize]
    decide
  obtain ⟨message, s', hcomplete, _⟩ :=
    hall (poisonedAfter halved) ⟨halved, rfl⟩ 400 none u b [0, 0]
    hu hsingle hstate hb (poison_stored halved b.objectKey) hdiffers
  rw [hcomplete] at hlost
  cases hlost

set_option maxRecDepth 100000 in
/-- While both attempts run, the mismatch is recorded. -/
theorem pair_mismatch_is_recorded : RecordsMismatch none (poisonedAfter paired) 400 := by
  have hfacts : SecondAttempt paired ∧
      (((poisonedAfter paired).outcome 400).db.sessions.get? 400).any (fun u =>
        u.state = .inProgress ∧
          (((poisonedAfter paired).outcome 400).db.versions.get? u.initiatingVersionId).any
            fun v => v.state = .uploading) = true := by
    decide +kernel
  obtain ⟨hsecond, houtcome⟩ := hfacts
  obtain ⟨u, hu, hrow⟩ := (Option.any_eq_true _ _).mp hsecond
  obtain ⟨⟨hsingle, hstate⟩, hblob⟩ := of_decide_eq_true hrow
  obtain ⟨b, hb, hsize⟩ := (Option.any_eq_true _ _).mp hblob
  have hdiffers : Differs [0, 0] b := by
    left
    rw [of_decide_eq_true hsize]
    decide
  obtain ⟨x, hx, hactive⟩ := (Option.any_eq_true _ _).mp houtcome
  obtain ⟨hprogress, hversion⟩ := of_decide_eq_true hactive
  obtain ⟨v, hv, huploading⟩ := (Option.any_eq_true _ _).mp hversion
  have hreachable : store.Reachable (poisonedAfter paired).registry := ⟨paired, rfl⟩
  exact (mismatch_is_recorded_iff hreachable hu hsingle hb (poison_stored paired b.objectKey)
    hdiffers).mpr (.inr ⟨x, v, hx, hprogress, hv, of_decide_eq_true huploading⟩)

end RoboLake.Pair
