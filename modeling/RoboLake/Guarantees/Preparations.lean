import RoboLake.Application.Uploads
import RoboLake.Registry.Accepted.Starts
import RoboLake.Guarantees.Mismatches

/-! # Prepared uploads

The service answers the preparation of an absent object with a session. An open one is
started, takes the right bytes and publishes its Blob. But a key stays with the session
it was first bound to, and the preparation of a FAILED Blob binds a new key to the
attempt that failed: what is returned then has ended.
-/

namespace RoboLake

open Foundation Store Work Migrations

section Preparations

variable [Platform] {s : Scene} {r : Registry} {versionId : UUID} {digest : Sha256Digest}
  {key : String} {b : BlobModel}

/-! ## Uninterrupted calls -/

/-- Nobody else acts between the steps of the service. -/
def Scene.Uninterrupted (s : Scene) : Prop := ∀ n, (s.turns n).others = []

/-- The service has read in between, and has written nothing. -/
structure Scene.Reads (s s' : Scene) : Prop where
  db : s'.registry.db = s.registry.db
  reachable : store.Reachable s'.registry
  turns : ∃ k, ∀ n, s'.turns n = s.turns (n + k)

def IsContentOf (content : Bytes) (b : BlobModel) : Prop :=
  content.length = b.sizeBytes ∧ Platform.sha256 content = b.sha256

/-- Once the right bytes are stored through the session, completing it makes its Blob AVAILABLE. -/
def Completable (service : TransferService) (r : Registry) (sessionId blobId : UUID) : Prop :=
  ∀ turns b content etag, Scene.Uninterrupted ⟨r, turns⟩ → r.db.blobs.get? blobId = some b →
    IsContentOf content b → StoresContent ⟨r, turns⟩ b.objectKey content →
    ∃ request s₁ p s₂, service.issueUploadUrl sessionId ⟨r, turns⟩ = (.ok request, s₁) ∧
      TransferService.completeUpload sessionId etag s₁ = (.ok p, s₂) ∧ p.available = true ∧
      ∃ b', s₂.registry.db.blobs.get? blobId = some b' ∧ b'.state = .available

/-- Whenever the service reports the Blob as not available, it returns an open session of the Blob
through which the Blob is made AVAILABLE. -/
def PreparesOpenSession (service : TransferService) (s : Scene) (versionId : UUID)
    (digest : Sha256Digest) (key : String) (blobId : UUID) : Prop :=
  ∀ p s', TransferService.prepareUpload versionId digest key s = (.ok p, s') →
    p.available = false →
    ∃ u, p.sessionId = some u.id ∧ s'.registry.db.sessions.get? u.id = some u ∧
      u.blobId = blobId ∧ (u.state = .created ∨ u.state = .inProgress) ∧
      Completable service s'.registry u.id blobId

/-- The key is bound to an open session of the Blob, or it can be bound and the Blob is not FAILED.
A key that is bound to another request or is too long is refused. -/
def LeadsToOpen (db : Database) (b : BlobModel) (key : String) (fingerprint : Sha256Digest) :
    Prop :=
  match db.idempotency.get? (.uploadSessionCreate, key) with
  | none => b.state = .failed → 255 < key.length
  | some record => record.requestSha256 = fingerprint →
      ∀ id u, record.resourceId = some id → db.sessions.get? id = some u →
        u.strategy = .singlePut →
        u.blobId = b.id ∧ (u.state = .created ∨ u.state = .inProgress)

/-! ## Scenes that are read -/

theorem Scene.Uninterrupted.next_registry (h : s.Uninterrupted) :
    s.next.registry = s.registry := by
  unfold Scene.next
  rw [h 0]
  rfl

namespace Scene.Reads

variable {s' s'' : Scene}

theorem refl (h : store.Reachable s.registry) : Scene.Reads s s := ⟨rfl, h, 0, fun _ => rfl⟩

theorem trans (h : Scene.Reads s s') (h' : Scene.Reads s' s'') : Scene.Reads s s'' := by
  obtain ⟨k, hk⟩ := h.turns
  obtain ⟨k', hk'⟩ := h'.turns
  refine ⟨h'.db.trans h.db, h'.reachable, k' + k, fun n => ?_⟩
  rw [hk', hk, Nat.add_assoc]

theorem uninterrupted (h : Scene.Reads s s') (hquiet : s.Uninterrupted) : s'.Uninterrupted := by
  obtain ⟨k, hk⟩ := h.turns
  intro n
  rw [hk]
  exact hquiet (n + k)

theorem storesContent {objectKey : List Char} {content : Bytes} (h : Scene.Reads s s')
    (hstored : StoresContent s objectKey content) : StoresContent s' objectKey content := by
  obtain ⟨k, hk⟩ := h.turns
  intro n
  rw [hk]
  exact hstored (n + k)

theorem next (h : store.Reachable s.registry) (hquiet : s.Uninterrupted) :
    Scene.Reads s s.next := by
  refine ⟨?_, Scene.next_reachable h, 1, fun _ => rfl⟩
  rw [hquiet.next_registry]

theorem call {α : Type} {tx : Tx α} {a : α} (op : Operation) (hop : operationTx op = effect tx)
    (h : store.Reachable s.registry) (hquiet : s.Uninterrupted)
    (hrun : run tx (beginTx (s.turns 0).env s.registry) =
      .ok (a, beginTx (s.turns 0).env s.registry)) :
    ∃ s', Served.call tx s = (.ok a, s') ∧ Scene.Reads s s' := by
  rw [← hquiet.next_registry] at hrun
  have hcall := Served.call_of_read hrun
  have hreachable := Served.call_reachable op hop h
  rw [hcall] at hreachable
  refine ⟨_, hcall, ?_, hreachable, 1, fun _ => rfl⟩
  rw [hquiet.next_registry]

end Scene.Reads

/-! ## Completed uploads -/

theorem verifyObject_of_matches {blob : BlobRecord} {info : ObjectInfo} {content : Bytes}
    (hsize : info.sizeBytes = content.length)
    (hchecksum : ∀ c, info.checksumSha256 = some c → c = Platform.sha256 content)
    (hstream : info.checksumSha256 = none → (s.turns 0).objects.Streams blob.objectKey content)
    (hcontent : content.length = blob.sizeBytes ∧ Platform.sha256 content = blob.sha256) :
    ∃ s', TransferService.verifyObject blob info s = (.ok (), s') ∧ (s' = s ∨ s' = s.next) := by
  obtain ⟨hlength, hsha⟩ := hcontent
  have hequal : info.sizeBytes = blob.sizeBytes := hsize.trans hlength
  unfold TransferService.verifyObject
  rw [if_neg (not_not.mpr hequal)]
  cases hhead : info.checksumSha256 with
  | some checksum =>
      have hsame : checksum = blob.sha256 := (hchecksum checksum hhead).trans hsha
      refine ⟨s, ?_, .inl rfl⟩
      simp only [if_neg (not_not.mpr hsame)]
      rfl
  | none =>
      obtain ⟨chunks, hchunks, hbytes⟩ := hstream hhead
      refine ⟨s.next, (Served.bind_of_ok (Served.look_of_ok hchunks)).trans ?_, .inr rfl⟩
      rw [hbytes, if_neg (by rw [hlength, hsha]; simp)]
      rfl

theorem verifyObject_of_content {blob : BlobRecord} {info : ObjectInfo} {content : Bytes}
    (h : store.Reachable s.registry) (hquiet : s.Uninterrupted)
    (hsize : info.sizeBytes = content.length)
    (hchecksum : ∀ c, info.checksumSha256 = some c → c = Platform.sha256 content)
    (hstream : info.checksumSha256 = none → (s.turns 0).objects.Streams blob.objectKey content)
    (hcontent : content.length = blob.sizeBytes ∧ Platform.sha256 content = blob.sha256) :
    ∃ s', TransferService.verifyObject blob info s = (.ok (), s') ∧ Scene.Reads s s' := by
  obtain ⟨s', hverify, hscene⟩ := verifyObject_of_matches hsize hchecksum hstream hcontent
  refine ⟨s', hverify, ?_⟩
  rcases hscene with rfl | rfl
  · exact .refl h
  · exact .next h hquiet

theorem completeUpload_of_content {u : UploadSessionModel} {content : Bytes}
    {etag : Option String} (h : store.Reachable s.registry) (hquiet : s.Uninterrupted)
    (hu : s.registry.db.sessions.get? u.id = some u) (hsingle : u.strategy = .singlePut)
    (hstate : u.state = .inProgress) (hb : s.registry.db.blobs.get? u.blobId = some b)
    (hsmall : b.sizeBytes ≤ maxSinglePutBytes) (hcontent : IsContentOf content b)
    (hstored : StoresContent s b.objectKey content) :
    ∃ p s', TransferService.completeUpload u.id etag s = (.ok p, s') ∧ p.available = true ∧
      ∃ b', s'.registry.db.blobs.get? u.blobId = some b' ∧ b'.state = .available := by
  obtain ⟨c, hrun, _, hblob⟩ := run_getUpload h (t := beginTx (s.turns 0).env s.registry) rfl
    hu hsingle
  have hrecord := hblob b hb
  obtain ⟨s₁, hcall, hreads₁⟩ := Scene.Reads.call (.getUpload u.id) rfl h hquiet hrun
  have hquiet₁ := hreads₁.uninterrupted hquiet
  have hreads₂ := hreads₁.trans (.next hreads₁.reachable hquiet₁)
  have hquiet₂ := hreads₂.uninterrupted hquiet
  have hstored₁ := hreads₁.storesContent hstored
  obtain ⟨⟨info, hhead, hsize, hchecksum⟩, _⟩ := hstored₁ 0
  obtain ⟨_, hstream⟩ := hstored₁ 1
  have hkey : c.blob.objectKey = b.objectKey := by
    rw [hrecord]
    rfl
  rw [← hkey] at hhead hstream
  have hcontent' : content.length = c.blob.sizeBytes ∧
      Platform.sha256 content = c.blob.sha256 := by
    rw [hrecord]
    exact hcontent
  obtain ⟨s₂, hverify, hreads₃⟩ := verifyObject_of_content hreads₂.reachable hquiet₂ hsize
    hchecksum (fun _ => hstream) hcontent'
  have hreads := hreads₂.trans hreads₃
  have hquiet' := hreads.uninterrupted hquiet
  have hcommitted := committed_of_reachable hreads.reachable
  rw [← hreads.db] at hu hb
  obtain ⟨v, hv⟩ := hcommitted.lawful.session_version.get (Relation.mem_of_get? hu)
  have huploading : b.state = .uploading := by
    have hfits := (coupled_of_reachable hreads.reachable).fits u (Relation.mem_of_get? hu) b hb
    rw [hstate, hsingle] at hfits
    exact hfits
  have hbid : b.id = u.blobId := Relation.key_of_get? hb
  have hmulti : ¬HasMultipart s₂.registry.db u.blobId := by
    rw [← hbid] at hb ⊢
    exact not_hasMultipart_of_small hreads.reachable hb hsmall
  obtain ⟨context, db, hmark, havailable⟩ := @transact_markUploadVerified _ (s₂.turns 0).env
    s₂.registry u b v etag hcommitted hu hsingle hstate hb huploading hv hmulti
  rw [← hquiet'.next_registry] at hmark
  have hverified := Served.call_of_transact hmark
  have hmade : ∃ b', db.blobs.get? u.blobId = some b' ∧ b'.state = .available :=
    ⟨_, havailable, rfl⟩
  refine ⟨context.preparation true, { s₂.next with
    registry := ⟨db, s₂.next.registry.later (s₂.turns 0).env⟩ }, ?_, rfl, hmade⟩
  rw [TransferService.completeUpload_of_reported hcall hhead,
    TransferService.attest_of_verified hverify hverified]
  rfl

/-! ## Open attempts -/

theorem IsContentOf.later {b' : BlobModel} {content : Bytes} (h : IsContentOf content b)
    (hlater : BlobLater b b') : IsContentOf content b' := by
  obtain ⟨hsize, hsha⟩ := h
  rw [IsContentOf, hlater.sizeBytes, hlater.sha256]
  exact ⟨hsize, hsha⟩

theorem completable_of_open {service : TransferService} {u : UploadSessionModel}
    (h : store.Reachable r) (hu : r.db.sessions.get? u.id = some u)
    (hsingle : u.strategy = .singlePut) (hopen : u.state = .created ∨ u.state = .inProgress)
    (hb : r.db.blobs.get? u.blobId = some b) (hsmall : b.sizeBytes ≤ maxSinglePutBytes) :
    Completable service r u.id u.blobId := by
  intro turns b' content etag hquiet hb' hcontent hstored
  have hsame : b' = b := Option.some.inj (hb'.symm.trans hb)
  subst hsame
  let s : Scene := ⟨r, turns⟩
  obtain ⟨c, hrun, hsession, _⟩ := run_getUpload h (t := beginTx (s.turns 0).env s.registry) rfl
    hu hsingle
  obtain ⟨s₁, hcall, hreads⟩ := Scene.Reads.call (s := s) (.getUpload u.id) rfl h hquiet hrun
  have hquiet₁ := hreads.uninterrupted hquiet
  have hstored₁ := hreads.storesContent hstored
  have hstate : (uploadSessionRecord u).state = u.state := rfl
  rcases hopen with hcreated | hprogress
  · -- The attempt is started before its URL is issued.
    have hu₁ : s₁.registry.db.sessions.get? u.id = some u := by
      rw [hreads.db]
      exact hu
    have hb₁ : s₁.registry.db.blobs.get? u.blobId = some b' := by
      rw [hreads.db]
      exact hb
    obtain ⟨context, db, hstart, hstarted⟩ := @transact_markUploadInProgress _ (s₁.turns 0).env
      s₁.registry u b' hreads.reachable hu₁ hsingle hcreated hb₁ hsmall
    have hextends : Extends s₁.registry.db db := by
      have hlater := @extends_of_transact _ _ (markUploadInProgress u.id) (s₁.turns 0).env
        s₁.registry (committed_of_reachable hreads.reachable).lawful
      rwa [hstart] at hlater
    obtain ⟨b₂, hb₂, hlater⟩ := hextends.blobs _ _ hb₁
    let started : UploadSessionModel := { u with
      state := .inProgress, lastActivityAt := (s₁.turns 0).env.wall 0 }
    rw [← hquiet₁.next_registry] at hstart
    have hmark := Served.call_of_transact hstart
    have hreachable := Served.call_reachable (.markUploadInProgress u.id) rfl hreads.reachable
    rw [hmark] at hreachable
    let s₂ : Scene := { s₁.next with registry := ⟨db, s₁.next.registry.later (s₁.turns 0).env⟩ }
    have hquiet₂ : s₂.Uninterrupted := fun n => hquiet₁ (n + 1)
    have hstored₂ : StoresContent s₂ b₂.objectKey content := by
      rw [hlater.objectKey]
      exact fun n => hstored₁ (n + 1)
    have hsmall₂ : b₂.sizeBytes ≤ maxSinglePutBytes := by
      rw [hlater.sizeBytes]
      exact hsmall
    obtain ⟨p, s₃, hcomplete, hp, hmade⟩ := @completeUpload_of_content _ s₂ b₂ started content etag
      hreachable hquiet₂ hstarted hsingle rfl hb₂ hsmall₂ (hcontent.later hlater) hstored₂
    refine ⟨service.putRequest context.blob, s₂, p, s₃, ?_, hcomplete, hp, hmade⟩
    unfold TransferService.issueUploadUrl
    rw [Served.bind_of_ok hcall, hsession]
    simp only [hstate, if_pos hcreated]
    rw [Served.bind_of_ok hmark]
    rfl
  · have hopened : ¬u.state = .created := by
      rw [hprogress]
      nofun
    obtain ⟨p, s₃, hcomplete, hp, hmade⟩ := @completeUpload_of_content _ s₁ b' u content etag
      hreads.reachable hquiet₁ (hreads.db ▸ hu) hsingle hprogress (hreads.db ▸ hb) hsmall hcontent
      hstored₁
    refine ⟨service.putRequest c.blob, s₁, p, s₃, ?_, hcomplete, hp, hmade⟩
    unfold TransferService.issueUploadUrl
    rw [Served.bind_of_ok hcall, hsession]
    simp only [hstate, if_neg hopened]
    rfl

/-! ## The prepared attempt -/

/-- How a preparation comes by the attempt it returns: from the record of its key, as an open
attempt, or as the latest one. -/
inductive PreparedFrom (db : Database) (b : BlobModel) (key : String) (fingerprint : Sha256Digest)
    (u : UploadSessionModel) : Prop
  | replayed {record : IdempotencyRecordModel}
      (hkey : db.idempotency.get? (.uploadSessionCreate, key) = some record)
      (hsha : record.requestSha256 = fingerprint) (hid : record.resourceId = some u.id)
      (hu : db.sessions.get? u.id = some u)
  | opened (hkey : db.idempotency.get? (.uploadSessionCreate, key) = none)
      (hlength : key.length ≤ 255) (hblob : u.blobId = b.id)
      (hopen : u.state = .created ∨ u.state = .inProgress)
  | latest (hkey : db.idempotency.get? (.uploadSessionCreate, key) = none)
      (hlength : key.length ≤ 255) (hblob : u.blobId = b.id)
      (hinactive : activeUpload db b.id = none) (hstate : b.state ≠ .pending)

theorem length_of_bindUpload {α : Type} {sha : Sha256Digest} {id : UUID} {f : Unit → Tx α}
    {t t' : TxState} {a : α} (h : run (bindUpload key sha id >>= f) t = .ok (a, t')) :
    key.length ≤ 255 := by
  rw [bindUpload, run_perform_bind_ok] at h
  obtain ⟨_, hw, _⟩ := h
  obtain ⟨hrules, _⟩ := exec_insertIdempotency_ok.mp hw
  simp only [idempotencyRules, satisfied_cons, Rule.violated_range] at hrules
  exact hrules.2.1

theorem run_prepareUpload_ok {env : Env} {sha : Sha256Digest} {c : UploadContext} {t : TxState}
    (h : run (Store.prepareUpload versionId digest key sha) (beginTx env r) = .ok (c, t))
    (hb : referencedBlob r.db versionId digest = some b) (hunavailable : b.state ≠ .available) :
    ∃ u, c.blob = blobRecord b ∧ c.session = some (uploadSessionRecord u) ∧
      t.db.sessions.get? u.id = some u ∧ u.strategy = .singlePut ∧ t.db.blobs = r.db.blobs ∧
      PreparedFrom r.db b key sha u := by
  simp only [Store.prepareUpload, fetchDataset, run_fetch_bind_ok] at h
  obtain ⟨v, hv, _, _, b', hb', h⟩ := h
  have hsame : b' = b := Option.some.inj (hb'.symm.trans hb)
  subst hsame
  rw [if_neg hunavailable, run_select_bind] at h
  cases hkey : (beginTx env r).db.idempotency.get? (.uploadSessionCreate, key) with
  | some record =>
      simp only [hkey, run_require_bind_ok, run_fetch_bind_ok, run_ofExcept_bind_ok,
        requireSinglePutSession_ok, run_pure_ok] at h
      obtain ⟨hsha, id, hid, u, hu, _, hsingle, rfl, rfl⟩ := h
      obtain rfl : u.id = id := Relation.key_of_get? hu
      exact ⟨u, rfl, rfl, hu, hsingle, rfl, .replayed hkey hsha hid hu⟩
  | none =>
      simp only [hkey, run_select_bind] at h
      cases hactive : activeUpload (beginTx env r).db b'.id with
      | some u =>
          simp only [hactive, uploadToBind, run_pure_bind, run_ofExcept_bind_ok,
            requireSinglePutSession_ok] at h
          obtain ⟨_, hsingle, h⟩ := h
          have hlength := length_of_bindUpload h
          obtain ⟨t₁, hdb, h⟩ := run_bindUpload_bind_ok h
          obtain ⟨rfl, rfl⟩ := run_pure_ok.mp h
          obtain ⟨hu, hub, hopen⟩ := mem_of_activeUpload hactive
          rw [hdb]
          exact ⟨u, rfl, rfl, Relation.get?_of_mem hu, hsingle, rfl,
            .opened hkey hlength hub hopen⟩
      | none =>
          by_cases hpending : b'.state = .pending
          · simp only [hactive, uploadToBind, if_pos hpending] at h
            obtain ⟨t₁, createdAt, activityAt, hfree, hdb₁, h⟩ := run_createSinglePut_bind_ok h
            simp only [run_ofExcept_bind_ok] at h
            obtain ⟨_, _, h⟩ := h
            have hlength := length_of_bindUpload h
            obtain ⟨t₂, hdb₂, h⟩ := run_bindUpload_bind_ok h
            obtain ⟨rfl, rfl⟩ := run_pure_ok.mp h
            rw [hdb₂]
            refine ⟨_, rfl, rfl, ?_, rfl, ?_, .opened hkey hlength rfl (.inl rfl)⟩
            · change t₁.db.sessions.get? _ = _
              rw [hdb₁]
              exact Relation.get?_insert_self hfree
            · change t₁.db.blobs = _
              rw [hdb₁]
              rfl
          · simp only [hactive, uploadToBind, if_neg hpending, run_fetch_bind_ok,
              run_ofExcept_bind_ok, requireSinglePutSession_ok] at h
            obtain ⟨u, hlatest, _, hsingle, h⟩ := h
            have hlength := length_of_bindUpload h
            obtain ⟨t₁, hdb, h⟩ := run_bindUpload_bind_ok h
            obtain ⟨rfl, rfl⟩ := run_pure_ok.mp h
            obtain ⟨hu, hub⟩ := mem_of_latestUpload hlatest
            rw [hdb]
            exact ⟨u, rfl, rfl, Relation.get?_of_mem hu, hsingle, rfl,
              .latest hkey hlength hub hactive hpending⟩

theorem activeUpload_of_open {db : Database} {u : UploadSessionModel}
    (hu : u ∈ db.sessions.rows) (hopen : u.state = .created ∨ u.state = .inProgress) :
    activeUpload db u.blobId ≠ none := by
  intro hnone
  have hmem : u ∈ db.sessionsOf u.blobId := Database.mem_sessionsOf.mpr ⟨hu, rfl⟩
  have hidle := List.find?_eq_none.mp hnone u hmem
  exact hidle (by simpa using hopen)

theorem open_of_preparedFrom {u : UploadSessionModel} (h : store.Reachable r)
    (hb : r.db.blobs.get? b.id = some b) (hsmall : b.sizeBytes ≤ maxSinglePutBytes)
    (hunavailable : b.state ≠ .available) (hsingle : u.strategy = .singlePut)
    {fingerprint : Sha256Digest} (hprepared : PreparedFrom r.db b key fingerprint u)
    (hleads : LeadsToOpen r.db b key fingerprint) :
    b.state ≠ .failed ∧ u.blobId = b.id ∧ (u.state = .created ∨ u.state = .inProgress) := by
  unfold LeadsToOpen at hleads
  cases hprepared with
  | replayed hkey hsha hid hu =>
      rw [hkey] at hleads
      obtain ⟨hblob, hopen⟩ := hleads hsha _ u hid hu hsingle
      refine ⟨?_, hblob, hopen⟩
      intro hfailed
      have hidle := inactive_of_failed h (Relation.mem_of_get? hu) hsingle (hblob ▸ hb) hfailed
      rcases hopen with hstate | hstate
      · rw [hstate] at hidle
        cases hidle
      · rw [hstate] at hidle
        cases hidle
  | opened hkey hlength hblob hopen =>
      rw [hkey] at hleads
      refine ⟨fun hfailed => ?_, hblob, hopen⟩
      have hlong := hleads hfailed
      omega
  | latest hkey hlength _ hinactive hstate =>
      rw [hkey] at hleads
      exfalso
      have hsettled := settled_of_reachable h b (Relation.mem_of_get? hb)
      have huploading : b.state = .uploading := by
        cases hcase : b.state with
        | pending => exact absurd hcase hstate
        | uploading => rfl
        | verifying => exact absurd hcase hsettled
        | available => exact absurd hcase hunavailable
        | failed =>
            have hlong := hleads hcase
            omega
      obtain ⟨x, hx, hxb, _, hopen⟩ := open_of_uploading h hb hsmall huploading
      rw [← hxb] at hinactive
      exact activeUpload_of_open hx hopen hinactive

/-! ## Replayed attempts -/

/-- Both calls of a preparation return the attempt their key is bound to. -/
structure BoundTo (db : Database) (key : String) (fingerprint : Sha256Digest)
    (u : UploadSessionModel) : Prop where
  record : ∃ record, db.idempotency.get? (.uploadSessionCreate, key) = some record ∧
    record.requestSha256 = fingerprint ∧ record.resourceId = some u.id
  session : db.sessions.get? u.id = some u
  strategy : u.strategy = .singlePut

theorem version_of_referencedBlob (h : store.Reachable r)
    (hb : referencedBlob r.db versionId digest = some b) :
    ∃ v d, r.db.versions.get? versionId = some v ∧ r.db.datasets.get? v.datasetId = some d := by
  have hlawful := (committed_of_reachable h).lawful
  obtain ⟨_, _, e, he, hversion, _⟩ := references_of_referencedBlob hb
  obtain ⟨v, hv⟩ := hlawful.entry_version.get he
  obtain ⟨d, hd⟩ := hlawful.version_dataset.get (Relation.mem_of_get? hv)
  rw [hversion] at hv
  exact ⟨v, d, hv, hd⟩

theorem run_prepareUpload_bound {fingerprint : Sha256Digest} {u : UploadSessionModel}
    {t : TxState} (h : store.Reachable r) (ht : t.db = r.db)
    (hb : referencedBlob r.db versionId digest = some b) (hunavailable : b.state ≠ .available)
    (hbound : BoundTo r.db key fingerprint u) :
    ∃ c, run (Store.prepareUpload versionId digest key fingerprint) t = .ok (c, t) ∧
      c.blob = blobRecord b ∧ c.session = some (uploadSessionRecord u) := by
  obtain ⟨v, d, hv, hd⟩ := version_of_referencedBlob h hb
  obtain ⟨⟨record, hkey, hsha, hid⟩, hu, hsingle⟩ := hbound
  rw [← ht] at hv hd hb hkey hu
  refine ⟨uploadContext v d.name b (some u), ?_, rfl, rfl⟩
  unfold Store.prepareUpload fetchDataset
  refine run_fetch_bind_ok.mpr ⟨v, hv, ?_⟩
  refine run_fetch_bind_ok.mpr ⟨d, hd, ?_⟩
  refine run_fetch_bind_ok.mpr ⟨b, hb, ?_⟩
  rw [if_neg hunavailable, run_select_bind, hkey]
  refine run_require_bind_ok.mpr ⟨hsha, ?_⟩
  refine run_fetch_bind_ok.mpr ⟨u.id, hid, ?_⟩
  refine run_fetch_bind_ok.mpr ⟨u, hu, ?_⟩
  exact run_ofExcept_bind_ok.mpr ⟨(), requireSinglePutSession_ok.mpr hsingle, rfl⟩

theorem run_restartFailedUpload_bound {fingerprint : Sha256Digest} {u : UploadSessionModel}
    {t : TxState} (h : store.Reachable r) (ht : t.db = r.db)
    (hb : referencedBlob r.db versionId digest = some b)
    (hbound : BoundTo r.db key fingerprint u) :
    ∃ c, run (restartFailedUpload versionId b.id key fingerprint) t = .ok (c, t) ∧
      c.session = some (uploadSessionRecord u) := by
  obtain ⟨v, d, hv, hd⟩ := version_of_referencedBlob h hb
  obtain ⟨hblob, _, href⟩ := references_of_referencedBlob hb
  obtain ⟨⟨record, hkey, hsha, hid⟩, hu, hsingle⟩ := hbound
  rw [← ht] at hv hd hblob href hkey hu
  refine ⟨uploadContext v d.name b (some u), ?_, rfl⟩
  unfold restartFailedUpload fetchDataset
  refine run_fetch_bind_ok.mpr ⟨v, hv, ?_⟩
  refine run_fetch_bind_ok.mpr ⟨b, hblob, ?_⟩
  refine run_fetch_bind_ok.mpr ⟨d, hd, ?_⟩
  rw [run_select_bind]
  refine run_require_bind_ok.mpr ⟨decide_eq_true href, ?_⟩
  rw [run_select_bind, hkey]
  refine run_require_bind_ok.mpr ⟨hsha, ?_⟩
  refine run_fetch_bind_ok.mpr ⟨u.id, hid, ?_⟩
  refine run_fetch_bind_ok.mpr ⟨u, hu, ?_⟩
  exact run_ofExcept_bind_ok.mpr ⟨(), requireSinglePutSession_ok.mpr hsingle, rfl⟩

/-- What its first call has bound is what a preparation returns for an absent object. -/
theorem prepareUpload_of_bound {c : UploadContext} {s₁ : Scene} {u : UploadSessionModel}
    (hcall : Served.call (Store.prepareUpload versionId digest key
      (uploadFingerprint versionId digest)) s = (.ok c, s₁))
    (h : store.Reachable s₁.registry) (hquiet : s₁.Uninterrupted)
    (hblob : c.blob = blobRecord b) (hsession : c.session = some (uploadSessionRecord u))
    (hb : referencedBlob s₁.registry.db versionId digest = some b)
    (hunavailable : b.state ≠ .available)
    (habsent : (s₁.turns 0).objects.head b.objectKey = .ok none)
    (hbound : BoundTo s₁.registry.db key (uploadFingerprint versionId digest) u) :
    ∃ p s', TransferService.prepareUpload versionId digest key s = (.ok p, s') ∧
      p.available = false ∧ p.sessionId = some u.id ∧ s'.registry.db = s₁.registry.db := by
  have hstate : c.blob.state = b.state := by
    rw [hblob]
    rfl
  have hid : c.blob.id = b.id := by
    rw [hblob]
    rfl
  have hlook : TransferService.PrepareLook versionId digest key s c s₁ (.ok none) := by
    refine ⟨hcall, hstate ▸ hunavailable, ?_⟩
    rw [hblob]
    exact habsent
  have hnext := Scene.Reads.next h hquiet
  rcases TransferService.prepareUpload_of_absent hlook with
    ⟨_, hanswer⟩ | ⟨hfailed, x, s₂, hrestart, hanswer⟩
  · refine ⟨c.preparation false, s₁.next, hanswer, rfl, ?_, hnext.db⟩
    unfold UploadContext.preparation
    rw [hsession]
    rfl
  · rw [← hnext.db] at hb hbound
    obtain ⟨c', hrun, hsession'⟩ := run_restartFailedUpload_bound
      (t := beginTx (s₁.next.turns 0).env s₁.next.registry) hnext.reachable rfl hb hbound
    obtain ⟨s₃, hreturns, hreads⟩ := Scene.Reads.call
      (.restartFailedUpload versionId b.id key (uploadFingerprint versionId digest)) rfl
      hnext.reachable (hnext.uninterrupted hquiet) hrun
    rw [hid, hreturns] at hrestart
    cases hrestart
    refine ⟨c'.preparation false, s₂, hanswer, rfl, ?_, (hnext.trans hreads).db⟩
    unfold UploadContext.preparation
    rw [hsession']
    rfl

/-! ## The latest attempt -/

theorem exists_latestUpload {t : TxState} {u : UploadSessionModel} (hu : u ∈ t.db.sessions.rows) :
    ∃ x, latestUpload t u.blobId = some x := by
  have hmem : u ∈ t.db.sessionsOf u.blobId := Database.mem_sessionsOf.mpr ⟨hu, rfl⟩
  obtain ⟨m, hm⟩ := Option.ne_none_iff_exists'.mp
    (mt List.argmax_eq_none.mp (List.ne_nil_of_mem hmem) :
      List.argmax UploadSessionModel.createdAt (t.db.sessionsOf u.blobId) ≠ none)
  have hgreatest : m ∈ (t.db.sessionsOf u.blobId).filter fun y =>
      (t.db.sessionsOf u.blobId).all fun x => x.createdAt ≤ y.createdAt := by
    refine List.mem_filter.mpr ⟨List.argmax_mem hm, ?_⟩
    refine List.all_eq_true.mpr fun x hx => decide_eq_true ?_
    exact not_lt.mp (List.not_lt_of_mem_argmax hx hm)
  refine ⟨_, List.getElem?_eq_getElem (Nat.mod_lt _ (List.length_pos_of_mem hgreatest))⟩

/-- A fresh key of a FAILED Blob is bound to an attempt that has ended. -/
theorem transact_prepareUpload_failed {env : Env} {fingerprint : Sha256Digest}
    (h : store.Reachable r) (hb : referencedBlob r.db versionId digest = some b)
    (hsmall : b.sizeBytes ≤ maxSinglePutBytes) (hfailed : b.state = .failed)
    (hkey : FreshKey r.db key) :
    ∃ c db, transact (Store.prepareUpload versionId digest key fingerprint) env r =
        (.ok c, ⟨db, r.later env⟩) ∧
      ∃ u, c.blob = blobRecord b ∧ c.session = some (uploadSessionRecord u) ∧
        u ∈ r.db.sessions.rows ∧ u.strategy = .singlePut ∧ u.state.isActive = false ∧
        db = r.db.bind (uploadBinding key fingerprint u.id) := by
  obtain ⟨v, d, hv, hd⟩ := version_of_referencedBlob h hb
  obtain ⟨hblob, _, _⟩ := references_of_referencedBlob hb
  have hended : ∀ u ∈ r.db.sessions.rows, u.blobId = b.id →
      u.strategy = .singlePut ∧ u.state.isActive = false := by
    intro u hu hub
    have hsingle : u.strategy = .singlePut := by
      cases hstrategy : u.strategy with
      | singlePut => rfl
      | multipart =>
          exact absurd ⟨u, hu, hub, hstrategy⟩ (not_hasMultipart_of_small h hblob hsmall)
    exact ⟨hsingle, inactive_of_failed h hu hsingle (hub ▸ hblob) hfailed⟩
  have hactive : activeUpload r.db b.id = none := by
    refine List.find?_eq_none.mpr fun u hu => ?_
    obtain ⟨hu, hub⟩ := Database.mem_sessionsOf.mp hu
    obtain ⟨_, hidle⟩ := hended u hu hub
    cases hstate : u.state <;> simp_all [SessionState.isActive]
  obtain ⟨x, hx, hxb, _⟩ := attended_of_reachable h b (Relation.mem_of_get? hblob)
    (by rw [hfailed]; intro hclash; cases hclash) (by rw [hfailed]; intro hclash; cases hclash)
  refine transact_of_ends ?_
  obtain ⟨u, hlatest⟩ := @exists_latestUpload _ (beginTx env r) x hx
  rw [hxb] at hlatest
  obtain ⟨hu, hub⟩ := mem_of_latestUpload hlatest
  obtain ⟨hsingle, hidle⟩ := hended u hu hub
  have hunavailable : b.state ≠ .available := by
    rw [hfailed]
    intro hclash
    cases hclash
  have hstarted : b.state ≠ .pending := by
    rw [hfailed]
    intro hclash
    cases hclash
  simp only [Store.prepareUpload, fetchDataset, ends_bind, ends_fetch]
  refine ⟨v, hv, d, hd, b, hb, ?_⟩
  rw [if_neg hunavailable]
  simp only [ends_bind, ends_select]
  rw [db_beginTx, hkey.2]
  simp only [ends_bind, ends_select, db_beginTx, hactive, uploadToBind, if_neg hstarted,
    ends_fetch, ends_ofExcept]
  refine ⟨u, hlatest, (), requireSinglePutSession_ok.mpr hsingle, ?_⟩
  refine ends_bindUpload hkey fun t ht htouched => ?_
  rw [ends_pure]
  refine ⟨⟨u, rfl, rfl, hu, hsingle, hidle, ht⟩, ?_⟩
  intro touched hmem
  rw [htouched] at hmem
  cases hmem

/-! ## The prepared session -/

theorem available_of_prepareUpload {p : UploadPreparation} {s' : Scene}
    (hquiet : s.Uninterrupted) (hb : referencedBlob s.registry.db versionId digest = some b)
    (havailable : b.state = .available)
    (hprepare : TransferService.prepareUpload versionId digest key s = (.ok p, s')) :
    p.available = true := by
  cases hcall : Served.call (Store.prepareUpload versionId digest key
      (uploadFingerprint versionId digest)) s with
  | mk x s₁ =>
      cases x with
      | error e =>
          rw [TransferService.prepareUpload_of_refused hcall] at hprepare
          cases hprepare
      | ok c =>
          obtain ⟨htransact, _⟩ := Served.call_ok.mp hcall
          rw [hquiet.next_registry] at htransact
          obtain ⟨t, _, hrun, _⟩ := transact_ok.mp (Prod.ext htransact rfl)
          simp only [Store.prepareUpload, fetchDataset, run_fetch_bind_ok] at hrun
          obtain ⟨v, _, d, _, b', hb', hrun⟩ := hrun
          have hsame : b' = b := Option.some.inj (hb'.symm.trans hb)
          subst hsame
          rw [if_pos havailable] at hrun
          obtain ⟨rfl, _⟩ := run_pure_ok.mp hrun
          rw [TransferService.prepareUpload_of_available hcall havailable] at hprepare
          cases hprepare
          rfl

/-- A preparation that reports its Blob as not available returns the attempt of its first call. -/
theorem prepareUpload_ok {p : UploadPreparation} {s' : Scene} (h : store.Reachable s.registry)
    (hquiet : s.Uninterrupted) (hb : referencedBlob s.registry.db versionId digest = some b)
    (hunavailable : b.state ≠ .available) (hfailed : ∀ u, u.strategy = .singlePut →
      PreparedFrom s.registry.db b key (uploadFingerprint versionId digest) u → b.state ≠ .failed)
    (habsent : (s.turns 1).objects.head b.objectKey = .ok none)
    (hprepare : TransferService.prepareUpload versionId digest key s = (.ok p, s')) :
    ∃ u, p.sessionId = some u.id ∧ s'.registry.db.sessions.get? u.id = some u ∧
      u.strategy = .singlePut ∧ s'.registry.db.blobs = s.registry.db.blobs ∧
      store.Reachable s'.registry ∧
      PreparedFrom s.registry.db b key (uploadFingerprint versionId digest) u := by
  cases hcall : Served.call (Store.prepareUpload versionId digest key
      (uploadFingerprint versionId digest)) s with
  | mk x s₁ =>
      have hreachable := Served.call_reachable
        (.prepareUpload versionId digest key (uploadFingerprint versionId digest)) rfl h
      rw [hcall] at hreachable
      cases x with
      | error e =>
          rw [TransferService.prepareUpload_of_refused hcall] at hprepare
          cases hprepare
      | ok c =>
          obtain ⟨htransact, hscene⟩ := Served.call_ok.mp hcall
          rw [hquiet.next_registry] at htransact hscene
          obtain ⟨t, _, hrun, _, hafter⟩ := transact_ok.mp (Prod.ext htransact rfl)
          obtain ⟨u, hblob, hsession, hu, hsingle, hblobs, hprepared⟩ :=
            run_prepareUpload_ok hrun hb hunavailable
          have hstate : c.blob.state = b.state := by
            rw [hblob]
            rfl
          have hdb : s₁.registry.db = t.db := by
            rw [hscene]
            exact congrArg Registry.db hafter
          have hquiet₁ : s₁.Uninterrupted := by
            rw [hscene]
            exact fun n => hquiet (n + 1)
          have hnext : Scene.Reads s₁ s₁.next := .next hreachable hquiet₁
          have hlook : TransferService.PrepareLook versionId digest key s c s₁ (.ok none) := by
            refine ⟨hcall, hstate ▸ hunavailable, ?_⟩
            rw [hblob, hscene]
            exact habsent
          rcases TransferService.prepareUpload_of_absent hlook with
            ⟨_, hanswer⟩ | ⟨hrestarts, _⟩
          · rw [hanswer] at hprepare
            cases hprepare
            refine ⟨u, ?_, ?_, hsingle, ?_, hnext.reachable, hprepared⟩
            · unfold UploadContext.preparation
              rw [hsession]
              rfl
            · rw [hnext.db, hdb]
              exact hu
            · rw [hnext.db, hdb]
              exact hblobs
          · exact absurd (hstate.symm.trans hrestarts) (hfailed u hsingle hprepared)

theorem not_prepares_of_bound {service : TransferService} {c : UploadContext} {s₁ : Scene}
    {u : UploadSessionModel}
    (hcall : Served.call (Store.prepareUpload versionId digest key
      (uploadFingerprint versionId digest)) s = (.ok c, s₁))
    (h : store.Reachable s₁.registry) (hquiet : s₁.Uninterrupted)
    (hblob : c.blob = blobRecord b) (hsession : c.session = some (uploadSessionRecord u))
    (hb : referencedBlob s₁.registry.db versionId digest = some b)
    (hunavailable : b.state ≠ .available)
    (habsent : (s₁.turns 0).objects.head b.objectKey = .ok none)
    (hbound : BoundTo s₁.registry.db key (uploadFingerprint versionId digest) u)
    (hclosed : ¬(u.blobId = b.id ∧ (u.state = .created ∨ u.state = .inProgress))) :
    ¬PreparesOpenSession service s versionId digest key b.id := by
  intro hall
  obtain ⟨p, s', hprepare, hp, hid, hdb⟩ := prepareUpload_of_bound hcall h hquiet hblob hsession hb
    hunavailable habsent hbound
  obtain ⟨x, hx, hget, hxb, hopen, _⟩ := hall p s' hprepare hp
  have hsame : u.id = x.id := Option.some.inj (hid.symm.trans hx)
  rw [hdb, ← hsame, hbound.session] at hget
  cases hget
  exact hclosed ⟨hxb, hopen⟩

end Preparations

end RoboLake

namespace RoboLake.Pair

open Foundation Store Work

def removedAfter (calls : List Call) : Scene where
  registry := store.runFrom store.start calls
  turns := fun n => ⟨[], Sample.env (10 + n), .vacant⟩

def ReturnsFailed : Except Failure UploadPreparation × Scene → Prop
  | (.ok p, s) => p.available = false ∧ p.sessionId.any (fun id =>
      (s.registry.db.sessions.get? id).any fun u => u.state = .failed) = true
  | (.error _, _) => False

instance (result : Except Failure UploadPreparation × Scene) : Decidable (ReturnsFailed result) :=
  match result with
  | (.ok p, s) => inferInstanceAs (Decidable (p.available = false ∧ p.sessionId.any (fun id =>
      (s.registry.db.sessions.get? id).any fun u => u.state = .failed) = true))
  | (.error _, _) => inferInstanceAs (Decidable False)

end RoboLake.Pair
