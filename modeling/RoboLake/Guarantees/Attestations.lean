import RoboLake.Guarantees.Preparations
import RoboLake.Infrastructure.ObjectStorage
import RoboLake.Registry.Decisions

/-! # Attested content

A stored object is compared with its Blob by size, by the provider's checksum where that
is usable, and by its bytes otherwise. The three ways decide alike, so a Blob becomes
AVAILABLE through a call only where the bytes it saw are the right ones, and FAILED only
where they are not.
-/

namespace RoboLake

open Foundation Store Work Migrations

section Keys

variable [Platform] {calls : List Call}

/-! ## Keys of uploads -/

/-- Some call of the run prepares or restarts the upload of the digest in the Version. -/
def RequestsUpload (calls : List Call) (versionId : UUID) (digest : Sha256Digest) : Prop :=
  ∃ c ∈ calls, ∃ key sha, c.operation = .prepareUpload versionId digest key sha ∨
    ∃ b ∈ (store.runFrom store.start calls).db.blobs.rows, b.sha256 = digest ∧
      c.operation = .restartFailedUpload versionId b.id key sha

/-- Every upload of the run is prepared and restarted with the fingerprint of its fields. -/
def ThroughTransfers (calls : List Call) : Prop :=
  ∀ c ∈ calls, ∀ versionId key sha,
    (∀ digest, c.operation = .prepareUpload versionId digest key sha →
      sha = uploadFingerprint versionId digest) ∧
    ∀ b ∈ (store.runFrom store.start calls).db.blobs.rows,
      c.operation = .restartFailedUpload versionId b.id key sha →
        sha = uploadFingerprint versionId b.sha256

/-- The texts that are hashed for the uploads of a run. -/
def uploadTexts (calls : List Call) : Set Bytes :=
  {x | ∃ versionId digest, RequestsUpload calls versionId digest ∧
    x = framed [versionId.bytes, digest.rawBytes]}

/-- A record of the upload scope after a step was there before, or the step bound it to a session
of the Blob it names. -/
theorem uploadRecord_of_effect {env : Env} {r : Registry} {op : Operation} {db : Database}
    (heffect : Effect env r op db) {record : IdempotencyRecordModel}
    (hrecord : record ∈ db.idempotency.rows) (hscope : record.scope = .uploadSessionCreate) :
    record ∈ r.db.idempotency.rows ∨ ∃ versionId key sha u b,
      (op = .prepareUpload versionId b.sha256 key sha ∨
        op = .restartFailedUpload versionId b.id key sha) ∧
      record = uploadBinding key sha u.id ∧ db.sessions.get? u.id = some u ∧
      u.blobId = b.id ∧ db.blobs.get? b.id = some b := by
  have hother : ∀ {record' : IdempotencyRecordModel},
      record ∈ (r.db.idempotency.insert record').rows → record'.scope ≠ .uploadSessionCreate →
        record ∈ r.db.idempotency.rows := by
    intro record' hmem hne
    rcases Relation.mem_of_mem_insert hmem with hold | hnew
    · exact hold
    · rw [hnew] at hscope
      exact absurd hscope hne
  cases heffect with
  | datasetFound => exact .inl (hother hrecord nofun)
  | datasetCreated => exact .inl (hother hrecord nofun)
  | versionFound => exact .inl (hother hrecord nofun)
  | versionRegistered => exact .inl (hother hrecord nofun)
  | uploadBound hb hstate hu hub =>
      obtain ⟨hb, hdigest, _⟩ := references_of_referencedBlob hb
      rcases Relation.mem_of_mem_insert hrecord with hold | hnew
      · exact .inl hold
      · exact .inr ⟨_, _, _, _, _, .inl (by rw [hdigest]), hnew, hu, hub, hb⟩
  | sessionOpened hv hb hstate hinactive hfree =>
      obtain ⟨hb, hdigest, _⟩ := references_of_referencedBlob hb
      rcases Relation.mem_of_mem_insert hrecord with hold | hnew
      · exact .inl hold
      · exact .inr ⟨_, _, _, _, _, .inl (by rw [hdigest]), hnew,
          Relation.get?_insert_self hfree, rfl, hb⟩
  | @uploadRestarted _ b _ _ _ _ hv hb href hkey hversion hblob hfree =>
      let restarted : BlobModel := { b with
        state := .uploading, failureCode := none, failureDetail := none }
      have hrestarted : (r.db.blobs.replace restarted).get? b.id = some restarted :=
        Relation.get?_replace_self (r := restarted) hb
      rcases Relation.mem_of_mem_insert hrecord with hold | hnew
      · exact .inl hold
      · exact .inr ⟨_, _, _, _, restarted, .inr rfl, hnew, Relation.get?_insert_self hfree, rfl,
          hrestarted⟩
  | multipartBound => exact .inl (hother hrecord nofun)
  | multipartCreated => exact .inl (hother hrecord nofun)
  | admissionGranted => exact .inl (hother hrecord nofun)
  | admissionTaken => exact .inl (hother hrecord nofun)
  | admissionRenewed => exact .inl (hother hrecord nofun)
  | completionAccepted => exact .inl (hother hrecord nofun)
  | _ => exact .inl hrecord

/-- After a run of the service, a key whose record has this fingerprint is bound to a session of
the Blob with this digest. -/
theorem blob_of_uploadRecord (hservice : ThroughTransfers calls) {versionId : UUID}
    {digest : Sha256Digest} (hsha : Set.InjOn Platform.sha256
      (uploadTexts calls ∪ {framed [versionId.bytes, digest.rawBytes]}))
    {record : IdempotencyRecordModel} {id : UUID} {u : UploadSessionModel} {b : BlobModel}
    (hrecord : record ∈ (store.runFrom store.start calls).db.idempotency.rows)
    (hscope : record.scope = .uploadSessionCreate)
    (hfingerprint : record.requestSha256 = uploadFingerprint versionId digest)
    (hid : record.resourceId = some id)
    (hu : (store.runFrom store.start calls).db.sessions.get? id = some u)
    (hb : (store.runFrom store.start calls).db.blobs.get? b.id = some b)
    (hdigest : b.sha256 = digest) : u.blobId = b.id := by
  have hstart : record ∉ store.start.db.idempotency.rows := by
    intro hmem
    cases hmem
  rcases Machine.exists_step_of_runFrom (M := store)
      (P := fun r : Registry => record ∈ r.db.idempotency.rows) hrecord with
    hold | ⟨e, he, hfresh, hbound⟩
  · exact absurd hold hstart
  · obtain ⟨_, hcall⟩ := Machine.mem_of_mem_steps he
    obtain ⟨before, after, hcalls, hstate⟩ := Machine.split_of_mem_steps he
    rcases uploadRecord_of_effect (effect_of_step e.2 e.1) hbound hscope with
      hold | ⟨versionId', key, sha, x, y, hop, hnew, hx, hxy, hy⟩
    · exact absurd hold hfresh
    · have hreachable : store.Reachable (e.2.step e.1) := by
        refine ⟨before ++ [e.2], ?_⟩
        rw [Machine.runFrom_append, ← hstate]
        rfl
      have hextends : Extends (e.2.step e.1).db (store.runFrom store.start calls).db := by
        have hlater := extends_of_run_store hreachable after
        rw [hcalls, Machine.runFrom_append, Machine.runFrom_cons, ← hstate]
        exact hlater
      obtain ⟨x', hx', hxlater⟩ := hextends.sessions _ _ hx
      obtain ⟨y', hy', hylater⟩ := hextends.blobs _ _ hy
      have hyid : y'.id = y.id := Relation.key_of_get? hy'
      -- The call requested this digest, with the fingerprint that the record has.
      have hrequest : RequestsUpload calls versionId' y.sha256 ∧
          sha = uploadFingerprint versionId' y.sha256 := by
        obtain ⟨hprepare, hrestart⟩ := hservice e.2 hcall versionId' key sha
        rcases hop with hop | hop
        · exact ⟨⟨e.2, hcall, key, sha, .inl hop⟩, hprepare _ hop⟩
        · rw [← hyid] at hop
          have hmem := Relation.mem_of_get? hy'
          refine ⟨⟨e.2, hcall, key, sha, .inr ⟨y', hmem, hylater.sha256, hop⟩⟩, ?_⟩
          rw [← hylater.sha256]
          exact hrestart y' hmem hop
      obtain ⟨hrequests, hsha'⟩ := hrequest
      have hsame : uploadFingerprint versionId' y.sha256 = uploadFingerprint versionId digest := by
        rw [← hsha', ← hfingerprint, hnew]
        rfl
      have htext := hsha (.inl ⟨versionId', y.sha256, hrequests, rfl⟩) (.inr rfl) hsame
      have hfits : ∀ (v : UUID) (d : Sha256Digest),
          fieldHeader.Fits [v.bytes, d.rawBytes] := by
        intro v d field hfield
        have hlength : field.length = 16 ∨ field.length = 32 := by
          rcases List.mem_cons.mp hfield with rfl | hfield
          · exact .inl (length_bigEndian 16 v.toNat)
          · obtain rfl := List.mem_singleton.mp hfield
            exact .inr d.decode_value.2.2
        simp only [fieldHeader]
        omega
      have hfields := fieldHeader.frames_injective (hfits _ _) (hfits _ _) htext
      have hraw := (List.cons.inj (List.cons.inj hfields).2).1
      have hy'digest : y'.sha256 = b.sha256 := by
        rw [hylater.sha256, hdigest]
        exact Sha256Digest.rawBytes_injective hraw
      have hlawful := (committed_of_reachable (r := store.runFrom store.start calls)
        ⟨calls, rfl⟩).lawful
      have hyb : y' = b := hlawful.blob_digest y' (Relation.mem_of_get? hy') b
        (Relation.mem_of_get? hb) _ (congrArg some hy'digest) rfl
      rw [hnew] at hid
      have hxid : x.id = id := Option.some.inj hid
      rw [← hxid, hx'] at hu
      cases hu
      rw [hxlater.blob, hxy, ← hyid, hyb]

end Keys

section Attestations

variable [Platform] {s s' : Scene} {seen : List Char → Prop} {stored : List Char → Bytes}
  {id sessionId : UUID} {state : BlobState}

/-! ## Scenes that move on -/

/-- A service has come from one scene to another. -/
structure Scene.Follows (s s' : Scene) : Prop where
  later : Extends s.registry.db s'.registry.db
  reachable : store.Reachable s'.registry
  turns : ∃ k, ∀ n, s'.turns n = s.turns (n + k)

/-- Once an object is reported, these bytes are what the provider stores under its key, and the
service reads them through the adapter or fails to. -/
def Scene.Provides (s : Scene) (stored : List Char → Bytes) : Prop :=
  ∀ n objectKey, (∃ info, (s.turns n).objects.head objectKey = .ok (some info)) → ∀ m, n ≤ m →
    ∃ client chunkSize, client.Stores objectKey (stored objectKey) ∧
      S3ObjectStore.Shows client chunkSize objectKey (s.turns m).objects

/-- Some step of the service finds an object under the key. -/
def Scene.Sees (s : Scene) (objectKey : List Char) : Prop :=
  ∃ n info, (s.turns n).objects.head objectKey = .ok (some info)

/-- Nobody but the service puts the Blob into the state. -/
def Scene.Leaves (s : Scene) (id : UUID) (state : BlobState) : Prop :=
  ∀ n r, store.Reachable r → InState (store.runFrom r (s.turns n).others).db id state →
    InState r.db id state

/-- The object of the Blob has been seen, and its bytes are right for AVAILABLE and wrong for
FAILED. -/
def Attested (seen : List Char → Prop) (stored : List Char → Bytes) (db : Database) (id : UUID)
    (state : BlobState) : Prop :=
  ∃ b, db.blobs.get? id = some b ∧ seen b.objectKey ∧
    (state = .available → IsContentOf (stored b.objectKey) b) ∧
    (state = .failed → ¬IsContentOf (stored b.objectKey) b)

def NamesContent (blob : BlobRecord) (b : BlobModel) : Prop :=
  blob.objectKey = b.objectKey ∧ blob.sizeBytes = b.sizeBytes ∧ blob.sha256 = b.sha256

def Attempts (db : Database) (sessionId : UUID) (blob : BlobRecord) : Prop :=
  ∃ u b, db.sessions.get? sessionId = some u ∧ db.blobs.get? u.blobId = some b ∧ NamesContent blob b

namespace Scene.Follows

variable {s'' : Scene}

theorem refl (h : store.Reachable s.registry) : Scene.Follows s s :=
  ⟨.refl _, h, 0, fun _ => rfl⟩

theorem trans (h : Scene.Follows s s') (h' : Scene.Follows s' s'') : Scene.Follows s s'' := by
  obtain ⟨k, hk⟩ := h.turns
  obtain ⟨k', hk'⟩ := h'.turns
  refine ⟨h.later.trans h'.later, h'.reachable, k' + k, fun n => ?_⟩
  rw [hk', hk, Nat.add_assoc]

theorem next (h : store.Reachable s.registry) : Scene.Follows s s.next :=
  ⟨extends_of_run_store h _, Scene.next_reachable h, 1, fun _ => rfl⟩

theorem call {α : Type} {tx : Tx α} {x : Except Failure α} (op : Operation)
    (hop : operationTx op = effect tx) (h : Scene.Follows s s')
    (hcall : Served.call tx s' = (x, s'')) : Scene.Follows s s'' := by
  have hothers : Extends s'.registry.db s'.next.registry.db := extends_of_run_store h.reachable _
  have hown := @extends_of_transact _ _ tx (s'.turns 0).env _
    (committed_of_reachable (Scene.next_reachable h.reachable)).lawful
  have hfollows : Scene.Follows s' (Served.call tx s').2 :=
    ⟨hothers.trans hown, Served.call_reachable op hop h.reachable, 1, fun _ => rfl⟩
  rw [hcall] at hfollows
  exact h.trans hfollows

theorem leaves (h : Scene.Follows s s') (hleaves : s.Leaves id state) : s'.Leaves id state := by
  obtain ⟨k, hk⟩ := h.turns
  intro n r hr hstate
  rw [hk] at hstate
  exact hleaves (n + k) r hr hstate

end Scene.Follows

omit [Platform] in
theorem NamesContent.later {blob : BlobRecord} {b b' : BlobModel} (h : NamesContent blob b)
    (hlater : BlobLater b b') : NamesContent blob b' := by
  obtain ⟨hkey, hsize, hsha⟩ := h
  exact ⟨hkey.trans hlater.objectKey.symm, hsize.trans hlater.sizeBytes.symm,
    hsha.trans hlater.sha256.symm⟩

theorem Attempts.later {db db' : Database} {blob : BlobRecord} (h : Attempts db sessionId blob)
    (hextends : Extends db db') : Attempts db' sessionId blob := by
  obtain ⟨u, b, hu, hb, hnames⟩ := h
  obtain ⟨u', hu', hlater⟩ := hextends.sessions _ _ hu
  obtain ⟨b', hb', hblobLater⟩ := hextends.blobs _ _ hb
  exact ⟨u', b', hu', hlater.blob ▸ hb', hnames.later hblobLater⟩

theorem Attempts.objectKey_eq {db : Database} {blob blob' : BlobRecord}
    (h : Attempts db sessionId blob) (h' : Attempts db sessionId blob') :
    blob.objectKey = blob'.objectKey := by
  obtain ⟨u, b, hu, hb, hkey, _⟩ := h
  obtain ⟨u', b', hu', hb', hkey', _⟩ := h'
  rw [hu] at hu'
  cases hu'
  rw [hb] at hb'
  cases hb'
  exact hkey.trans hkey'.symm

theorem Attested.later {db db' : Database} (h : Attested seen stored db id state)
    (hextends : Extends db db') : Attested seen stored db' id state := by
  obtain ⟨b, hb, hseen, havailable, hfailed⟩ := h
  obtain ⟨b', hb', hlater⟩ := hextends.blobs _ _ hb
  refine ⟨b', hb', hlater.objectKey ▸ hseen, ?_, ?_⟩
  · intro hstate
    rw [hlater.objectKey]
    exact (havailable hstate).later hlater
  · intro hstate hcontent
    rw [hlater.objectKey] at hcontent
    refine hfailed hstate ?_
    unfold IsContentOf at hcontent ⊢
    rwa [hlater.sizeBytes, hlater.sha256] at hcontent

/-! ## The comparison -/

/-- What is reported of an object is true of these bytes: their length, and no other digest. -/
def DescribesContent (info : ObjectInfo) (content : Bytes) : Prop :=
  info.sizeBytes = content.length ∧
    ∀ checksum, info.checksumSha256 = some checksum → checksum = Platform.sha256 content

/-- The bytes have the identity that the record tells. -/
def Matches (content : Bytes) (blob : BlobRecord) : Prop :=
  content.length = blob.sizeBytes ∧ Platform.sha256 content = blob.sha256

theorem describes_of_stores {client : S3Client} {objectKey : List Char} {content : Bytes}
    {info : ObjectInfo} (hstores : client.Stores objectKey content)
    (hhead : S3ObjectStore.head client objectKey = .ok (some info)) :
    DescribesContent info content := by
  obtain ⟨response, hresponse, hlength, hspells⟩ := hstores.head
  unfold S3ObjectStore.head at hhead
  rw [hresponse] at hhead
  cases hhead
  refine ⟨hlength, ?_⟩
  intro checksum hchecksum
  obtain ⟨text, raw, htext, hraw, h32, hdigest⟩ := parseProviderChecksum_some hchecksum
  exact Sha256Digest.rawBytes_injective (hdigest.trans (hspells text raw htext hraw h32))

theorem flatten_of_stores {client : S3Client} {objectKey : List Char} {content : Bytes}
    {chunkSize : Nat} {chunks : List Bytes} (hstores : client.Stores objectKey content)
    (hchunks : S3ObjectStore.iterBytes client objectKey chunkSize = .ok chunks) :
    chunks.flatten = content := by
  obtain ⟨sent, hsent, hbytes⟩ := hstores.body chunkSize
  unfold S3ObjectStore.iterBytes at hchunks
  rw [hsent] at hchunks
  cases hchunks
  rw [List.flatten_filter_ne_nil]
  exact hbytes

theorem streams_of_stores {client : S3Client} {objectKey : List Char} {content : Bytes}
    {chunkSize : Nat} {objects : ObjectStore} (hstores : client.Stores objectKey content)
    (hstream : objects.iterBytes objectKey = S3ObjectStore.iterBytes client objectKey chunkSize) :
    objects.Streams objectKey content := by
  obtain ⟨sent, hsent, _⟩ := hstores.body chunkSize
  have hchunks : S3ObjectStore.iterBytes client objectKey chunkSize =
      .ok (sent.filter fun chunk => chunk ≠ []) := by
    unfold S3ObjectStore.iterBytes
    rw [hsent]
    rfl
  exact ⟨_, hstream.trans hchunks, flatten_of_stores hstores hchunks⟩

/-- The comparison accepts exactly the right bytes and raises a mismatch for all others, unless it
cannot read them. -/
theorem verifyObject_decides {blob : BlobRecord} {info : ObjectInfo} {content : Bytes}
    (hdescribes : DescribesContent info content)
    (hstream : ∀ chunks, (s.turns 0).objects.iterBytes blob.objectKey = .ok chunks →
      chunks.flatten = content)
    {x : Except Failure Unit} (h : TransferService.verifyObject blob info s = (x, s')) :
    (Matches content blob ∧ x = .ok ()) ∨
      (¬Matches content blob ∧ ∃ message, x = .error (storedObjectMismatch message)) ∨
      ∃ e, x = .error (.storage e) := by
  obtain ⟨hsize, hchecksum⟩ := hdescribes
  by_cases hreadable : info.checksumSha256 = none →
      (s.turns 0).objects.Streams blob.objectKey content
  · by_cases hmatches : Matches content blob
    · obtain ⟨_, hverify, _⟩ := verifyObject_of_matches hsize hchecksum hreadable hmatches
      rw [hverify] at h
      cases h
      exact .inl ⟨hmatches, rfl⟩
    · obtain ⟨message, _, hverify, _⟩ := verifyObject_of_differs hsize hchecksum hreadable
        (Decidable.not_and_iff_not_or_not.mp hmatches)
      rw [hverify] at h
      cases h
      exact .inr (.inl ⟨hmatches, message, rfl⟩)
  · obtain ⟨hnone, hunread⟩ := Classical.not_imp.mp hreadable
    unfold TransferService.verifyObject at h
    by_cases hlength : info.sizeBytes = blob.sizeBytes
    · rw [if_neg (not_not.mpr hlength), hnone] at h
      cases hbytes : (s.turns 0).objects.iterBytes blob.objectKey with
      | error e =>
          have hraised := h.symm.trans (Served.bind_of_error (Served.look_of_error hbytes))
          cases hraised
          exact .inr (.inr ⟨e, rfl⟩)
      | ok chunks => exact absurd ⟨chunks, hbytes, hstream chunks hbytes⟩ hunread
    · rw [if_pos hlength] at h
      cases h
      exact .inr (.inl ⟨fun hmatches => hlength (hsize.trans hmatches.1), _, rfl⟩)

/-! ## Steps of the service -/

theorem run_of_call {α : Type} {tx : Tx α} {a : α} {s₁ : Scene}
    (h : Served.call tx s = (.ok a, s₁)) :
    (∃ t, run tx (beginTx (s.turns 0).env s.next.registry) = .ok (a, t) ∧
      s₁.registry.db = t.db) ∧ ∀ n, s₁.turns n = s.turns (n + 1) := by
  obtain ⟨htransact, rfl⟩ := Served.call_ok.mp h
  have hcommits : transact tx (s.turns 0).env s.next.registry = (.ok a, _) :=
    Prod.ext htransact rfl
  obtain ⟨t, _, hrun, _, hafter⟩ := transact_ok.mp hcommits
  exact ⟨⟨t, hrun, congrArg Registry.db hafter⟩, fun _ => rfl⟩

theorem decided_of_call {α : Type} {tx : Tx α} (op : Operation) (hop : operationTx op = effect tx)
    (h : store.Reachable s.registry) (hdecided : state.isDecided = true)
    (hleaves : s.Leaves id state) (hafter : InState (Served.call tx s).2.registry.db id state) :
    InState s.registry.db id state ∨ Decides op s.next.registry.db id state := by
  rcases decided_of_transact hop hdecided hafter with hbefore | hdecides
  · exact .inl (hleaves 0 s.registry h hbefore)
  · exact .inr hdecides

/-- The service has come from one scene to another and has not decided the Blob. -/
structure Undecided (s s₁ : Scene) (id : UUID) (state : BlobState) : Prop where
  follows : Scene.Follows s s₁
  before : InState s₁.registry.db id state → InState s.registry.db id state

namespace Undecided

variable {s₁ : Scene}

theorem refl (h : store.Reachable s.registry) : Undecided s s id state :=
  ⟨.refl h, fun hstate => hstate⟩

theorem next (h : Undecided s s₁ id state) (hleaves : s.Leaves id state) :
    Undecided s s₁.next id state :=
  ⟨h.follows.trans (.next h.follows.reachable),
    fun hstate => h.before (h.follows.leaves hleaves 0 _ h.follows.reachable hstate)⟩

theorem call {α : Type} {tx : Tx α} {x : Except Failure α} {s₂ : Scene} (op : Operation)
    (hop : operationTx op = effect tx) (hquiet : op.decides = none)
    (h : Undecided s s₁ id state) (hdecided : state.isDecided = true)
    (hleaves : s.Leaves id state) (hcall : Served.call tx s₁ = (x, s₂)) :
    Undecided s s₂ id state := by
  refine ⟨h.follows.call op hop hcall, fun hafter => h.before ?_⟩
  have hstate : InState (Served.call tx s₁).2.registry.db id state := by
    rw [hcall]
    exact hafter
  rcases decided_of_call op hop h.follows.reachable hdecided (h.follows.leaves hleaves) hstate with
    hbefore | ⟨u, _, hdecides, _⟩
  · exact hbefore
  · rw [hquiet] at hdecides
    cases hdecides

theorem verify {blob : BlobRecord} {info : ObjectInfo} {x : Except Failure Unit} {s₂ : Scene}
    (h : Undecided s s₁ id state) (hleaves : s.Leaves id state)
    (hverify : TransferService.verifyObject blob info s₁ = (x, s₂)) : Undecided s s₂ id state := by
  rcases TransferService.verifyObject_scene hverify with rfl | rfl
  · exact h
  · exact h.next hleaves

end Undecided

/-- What a call records of an attempt decides the Blob of that attempt. -/
theorem attested_of_call {α : Type} {tx : Tx α} {blob : BlobRecord} {recorded : BlobState}
    (op : Operation) (hop : operationTx op = effect tx)
    (hrecords : op.decides = some (sessionId, recorded))
    (h : store.Reachable s.registry) (hdecided : state.isDecided = true)
    (hleaves : s.Leaves id state) (hattempts : Attempts s.registry.db sessionId blob)
    (hseen : seen blob.objectKey)
    (hmatches : (recorded = .available → Matches (stored blob.objectKey) blob) ∧
      (recorded = .failed → ¬Matches (stored blob.objectKey) blob))
    (hafter : InState (Served.call tx s).2.registry.db id state) :
    InState s.registry.db id state ∨
      Attested seen stored (Served.call tx s).2.registry.db id state := by
  rcases decided_of_call op hop h hdecided hleaves hafter with hold | ⟨x, hx, hdecides, hid⟩
  · exact .inl hold
  · right
    rw [hrecords] at hdecides
    cases hdecides
    have hnext : Extends s.registry.db s.next.registry.db := extends_of_run_store h _
    obtain ⟨u, b, hu, hb, hkey, hsize, hsha⟩ := hattempts.later hnext
    rw [hx] at hu
    cases hu
    have hattested : Attested seen stored s.next.registry.db id state := by
      rw [← hid]
      refine ⟨b, hb, hkey ▸ hseen, ?_⟩
      unfold IsContentOf
      unfold Matches at hmatches
      rwa [hkey, hsize, hsha] at hmatches
    have hlawful := (committed_of_reachable (Scene.next_reachable h)).lawful
    exact hattested.later (extends_of_transact hlawful)

/-! ## The recorded outcome -/

theorem decided_of_attest {blob : BlobRecord} {info : ObjectInfo} {etag : Option String}
    (h : store.Reachable s.registry) (hdecided : state.isDecided = true)
    (hleaves : s.Leaves id state) (hattempts : Attempts s.registry.db sessionId blob)
    (hseen : seen blob.objectKey) (hdescribes : DescribesContent info (stored blob.objectKey))
    (hstream : ∀ chunks, (s.turns 0).objects.iterBytes blob.objectKey = .ok chunks →
      chunks.flatten = stored blob.objectKey)
    (hafter : InState (TransferService.attest sessionId blob info etag s).2.registry.db id state) :
    InState s.registry.db id state ∨
      Attested seen stored (TransferService.attest sessionId blob info etag s).2.registry.db id
        state := by
  have hcompared : ∀ {x s₁}, TransferService.verifyObject blob info s = (x, s₁) →
      Undecided s s₁ id state :=
    fun hverify => (Undecided.refl h).verify hleaves hverify
  have hrun := @TransferService.attest_run _ s sessionId blob info etag
  generalize TransferService.attest sessionId blob info etag s = out at hrun hafter ⊢
  cases hrun with
  | unread hverify _ => exact .inl ((hcompared hverify).before hafter)
  | verified hverify hcall =>
      have hundecided := hcompared hverify
      have hmatches : Matches (stored blob.objectKey) blob := by
        rcases verifyObject_decides hdescribes hstream hverify with
          ⟨hmatches, _⟩ | ⟨_, _, hraised⟩ | ⟨_, hraised⟩
        · exact hmatches
        · cases hraised
        · cases hraised
      have hrecorded := @attested_of_call _ _ seen stored id sessionId state _ _ blob .available
        (.markUploadVerified sessionId etag) rfl rfl hundecided.follows.reachable hdecided
        (hundecided.follows.leaves hleaves) (hattempts.later hundecided.follows.later) hseen
        ⟨fun _ => hmatches, nofun⟩
      rw [hcall] at hrecorded
      exact (hrecorded hafter).imp_left hundecided.before
  | mismatched hverify hcall =>
      have hundecided := hcompared hverify
      have hdiffers : ¬Matches (stored blob.objectKey) blob := by
        rcases verifyObject_decides hdescribes hstream hverify with
          ⟨_, hreturned⟩ | ⟨hdiffers, _⟩ | ⟨_, hraised⟩
        · cases hreturned
        · exact hdiffers
        · cases hraised
      have hrecorded := @attested_of_call _ _ seen stored id sessionId state _ _ blob .failed
        (.markUploadFailed sessionId .storedObjectMismatch
          "Stored object does not match its content address.") rfl rfl
        hundecided.follows.reachable hdecided (hundecided.follows.leaves hleaves)
        (hattempts.later hundecided.follows.later) hseen ⟨nofun, fun _ => hdiffers⟩
      rw [hcall] at hrecorded
      exact (hrecorded hafter).imp_left hundecided.before

/-! ## Completion and preparation -/

theorem decided_of_reported {s₁ : Scene} {blob : BlobRecord} {info : ObjectInfo}
    {etag : Option String} {n m : ℕ} (hnm : n ≤ m) (hundecided : Undecided s s₁ id state)
    (hturns : s₁.turns 0 = s.turns m) (hdecided : state.isDecided = true)
    (hleaves : s.Leaves id state) (hprovides : s.Provides stored)
    (hhead : (s.turns n).objects.head blob.objectKey = .ok (some info))
    (hattempts : Attempts s₁.registry.db sessionId blob)
    (hafter : InState (TransferService.attest sessionId blob info etag s₁).2.registry.db id
      state) :
    InState s.registry.db id state ∨
      Attested s.Sees stored
        (TransferService.attest sessionId blob info etag s₁).2.registry.db id state := by
  obtain ⟨client, chunkSize, hstores, hshows⟩ := hprovides n _ ⟨info, hhead⟩ n le_rfl
  have hdescribes := describes_of_stores hstores (hshows.head _ hhead)
  obtain ⟨client', chunkSize', hstores', hshows'⟩ := hprovides n _ ⟨info, hhead⟩ m hnm
  rw [← hturns] at hshows'
  have hstream : ∀ chunks, (s₁.turns 0).objects.iterBytes blob.objectKey = .ok chunks →
      chunks.flatten = stored blob.objectKey :=
    fun chunks hchunks => flatten_of_stores hstores' (hshows'.iterBytes chunks hchunks)
  exact (decided_of_attest hundecided.follows.reachable hdecided
    (hundecided.follows.leaves hleaves) hattempts ⟨n, info, hhead⟩ hdescribes hstream
    hafter).imp_left hundecided.before

theorem attempts_of_getUpload {t t' : TxState} {c : UploadContext}
    (h : run (getUpload sessionId) t = .ok (c, t')) :
    Attempts t.db sessionId c.blob ∧ t' = t := by
  simp only [getUpload, fetchDataset, run_fetch_bind_ok, run_ofExcept_bind_ok,
    requireSinglePutSession_ok, run_pure_ok] at h
  obtain ⟨u, hu, _, _, b, hb, v, _, d, _, rfl, rfl⟩ := h
  exact ⟨⟨u, b, hu, hb, rfl, rfl, rfl⟩, rfl⟩

/-- Completing an upload decides its Blob alone, and as the bytes it saw decide. -/
theorem decided_of_completeUpload {etag : Option String} (h : store.Reachable s.registry)
    (hdecided : state.isDecided = true) (hleaves : s.Leaves id state)
    (hprovides : s.Provides stored)
    (hafter : InState (TransferService.completeUpload sessionId etag s).2.registry.db id state) :
    InState s.registry.db id state ∨ Attested s.Sees stored
      (TransferService.completeUpload sessionId etag s).2.registry.db id state := by
  have hread : ∀ {x s₁}, Served.call (getUpload sessionId) s = (x, s₁) →
      Undecided s s₁ id state :=
    fun hcall => (Undecided.refl h).call (.getUpload sessionId) rfl rfl hdecided hleaves hcall
  have hrun := @TransferService.completeUpload_run _ s sessionId etag
  generalize TransferService.completeUpload sessionId etag s = out at hrun hafter ⊢
  cases hrun with
  | refused hcall => exact .inl ((hread hcall).before hafter)
  | unseen hcall _ => exact .inl (((hread hcall).next hleaves).before hafter)
  | absent hcall _ => exact .inl (((hread hcall).next hleaves).before hafter)
  | @reported c _ s₁ hcall hhead =>
      obtain ⟨⟨t, hrun, hdb⟩, hturns⟩ := run_of_call hcall
      have hattempts : Attempts s₁.next.registry.db sessionId c.blob := by
        obtain ⟨hattempts, rfl⟩ := attempts_of_getUpload hrun
        rw [← hdb] at hattempts
        exact hattempts.later (Scene.Follows.next (hread hcall).follows.reachable).later
      rw [hturns] at hhead
      exact decided_of_reported (Nat.le_succ 1) ((hread hcall).next hleaves) (hturns 1) hdecided
        hleaves hprovides hhead hattempts hafter

theorem attempts_of_markUploadInProgress {t t' : TxState} {c : UploadContext}
    (h : run (markUploadInProgress sessionId) t = .ok (c, t')) :
    Attempts t.db sessionId c.blob ∧ ∃ session, c.session = some session ∧
      session.id = sessionId := by
  obtain ⟨u, b, v, hu, _, hb, _, hrun⟩ := run_lockUpload_bind_ok h
  have hid : u.id = sessionId := Relation.key_of_get? hu
  simp only at hrun
  by_cases hcreated : u.state = .created
  · rw [if_pos hcreated] at hrun
    simp only [run_utcNow_bind] at hrun
    obtain ⟨_, hrun⟩ := run_flushBlob_bind_ok hrun
    obtain ⟨_, hrun⟩ := run_flushVersion_bind_ok hrun
    obtain ⟨_, hrun⟩ := run_flushSession_bind_ok hrun
    simp only [run_pure_bind, fetchDataset, run_fetch_bind_ok, run_pure_ok] at hrun
    obtain ⟨_, _, rfl, _⟩ := hrun
    have hnames : NamesContent (blobRecord (startedBlob b)) b := by
      unfold startedBlob
      split
      · exact ⟨rfl, rfl, rfl⟩
      · exact ⟨rfl, rfl, rfl⟩
    exact ⟨⟨u, b, hu, hb, hnames⟩, _, rfl, hid⟩
  · rw [if_neg hcreated] at hrun
    simp only [run_require_bind_ok, run_pure_bind, fetchDataset, run_fetch_bind_ok,
      run_pure_ok] at hrun
    obtain ⟨_, _, _, rfl, _⟩ := hrun
    exact ⟨⟨u, b, hu, hb, rfl, rfl, rfl⟩, _, rfl, hid⟩

theorem attempts_of_prepareUpload {calls : List Call} (hservice : ThroughTransfers calls)
    {versionId : UUID} {digest : Sha256Digest} (hsha : Set.InjOn Platform.sha256
      (uploadTexts calls ∪ {framed [versionId.bytes, digest.rawBytes]}))
    {env : Env} {key : String} {t : TxState} {c : UploadContext} {session : UploadSessionRecord}
    (h : run (Store.prepareUpload versionId digest key (uploadFingerprint versionId digest))
      (beginTx env (store.runFrom store.start calls)) = .ok (c, t))
    (hunavailable : c.blob.state ≠ .available) (hsession : c.session = some session) :
    Attempts t.db session.id c.blob := by
  have hfile : ∃ b, referencedBlob (store.runFrom store.start calls).db versionId digest = some b ∧
      b.state ≠ .available := by
    simp only [Store.prepareUpload, fetchDataset, run_fetch_bind_ok] at h
    obtain ⟨v, _, d, _, b, hb, hrun⟩ := h
    refine ⟨b, hb, fun havailable => hunavailable ?_⟩
    rw [if_pos havailable] at hrun
    obtain ⟨rfl, _⟩ := run_pure_ok.mp hrun
    exact havailable
  obtain ⟨b, hb, hstate⟩ := hfile
  obtain ⟨hblob, hdigest, _⟩ := references_of_referencedBlob hb
  obtain ⟨u, hrecord, hreturned, hu, _, hblobs, hprepared⟩ := run_prepareUpload_ok h hb hstate
  have hub : u.blobId = b.id := by
    cases hprepared with
    | replayed hkey hfingerprint hid hu =>
        have hscope := (Prod.mk.inj (Relation.key_of_get? hkey)).1
        exact blob_of_uploadRecord hservice hsha (Relation.mem_of_get? hkey) hscope hfingerprint hid
          hu hblob hdigest
    | opened _ _ hub _ => exact hub
    | latest _ _ hub _ _ => exact hub
  rw [hreturned] at hsession
  cases hsession
  refine ⟨u, b, hu, ?_, ?_⟩
  · rw [hblobs, hub]
    exact hblob
  · rw [hrecord]
    exact ⟨rfl, rfl, rfl⟩

/-- Preparing an upload decides the Blob of the file alone, and as the bytes it saw decide. -/
theorem decided_of_prepareUpload {calls : List Call} {key : String} {versionId : UUID}
    {digest : Sha256Digest} (hregistry : s.registry = store.runFrom store.start calls)
    (hservice : ThroughTransfers (calls ++ (s.turns 0).others))
    (hsha : Set.InjOn Platform.sha256 (uploadTexts (calls ++ (s.turns 0).others) ∪
      {framed [versionId.bytes, digest.rawBytes]}))
    (hdecided : state.isDecided = true) (hleaves : s.Leaves id state)
    (hprovides : s.Provides stored) (hafter : InState
      (TransferService.prepareUpload versionId digest key s).2.registry.db id state) :
    InState s.registry.db id state ∨
      Attested s.Sees stored
        (TransferService.prepareUpload versionId digest key s).2.registry.db id state := by
  have h : store.Reachable s.registry := ⟨calls, hregistry.symm⟩
  have hnext : s.next.registry = store.runFrom store.start (calls ++ (s.turns 0).others) := by
    rw [Machine.runFrom_append, ← hregistry]
    rfl
  have hfirst : ∀ {x s₁}, Served.call (Store.prepareUpload versionId digest key
      (uploadFingerprint versionId digest)) s = (x, s₁) → Undecided s s₁ id state :=
    fun hcall => (Undecided.refl h).call (.prepareUpload versionId digest key _) rfl rfl hdecided
      hleaves hcall
  have hlooked : ∀ {c s₁ found}, TransferService.PrepareLook versionId digest key s c s₁ found →
      Undecided s s₁.next id state :=
    fun hlook => (hfirst hlook.call).next hleaves
  have hattempts : ∀ {c s₁ found session},
      TransferService.PrepareLook versionId digest key s c s₁ found → c.session = some session →
      Attempts s₁.next.registry.db session.id c.blob := by
    intro c s₁ found session hlook hsession
    obtain ⟨⟨t, hrun, hdb⟩, _⟩ := run_of_call hlook.call
    rw [hnext] at hrun
    have hattempts := attempts_of_prepareUpload hservice hsha hrun hlook.unavailable hsession
    rw [← hdb] at hattempts
    exact hattempts.later (Scene.Follows.next (hfirst hlook.call).follows.reachable).later
  have hstarted : ∀ {c s₁ found session x s₂},
      TransferService.PrepareLook versionId digest key s c s₁ found →
      Served.call (markUploadInProgress session) s₁.next = (x, s₂) → Undecided s s₂ id state :=
    fun hlook hcall => (hlooked hlook).call (.markUploadInProgress _) rfl rfl hdecided hleaves hcall
  have hrun := @TransferService.prepareUpload_run _ s versionId digest key
  generalize TransferService.prepareUpload versionId digest key s = out at hrun hafter ⊢
  cases hrun with
  | refused hcall => exact .inl ((hfirst hcall).before hafter)
  | available hcall _ => exact .inl ((hfirst hcall).before hafter)
  | unseen hlook => exact .inl ((hlooked hlook).before hafter)
  | absent hlook _ => exact .inl ((hlooked hlook).before hafter)
  | restarted hlook _ hcall =>
      exact .inl (((hlooked hlook).call (.restartFailedUpload versionId _ key _) rfl rfl hdecided
        hleaves hcall).before hafter)
  | sessionless hlook _ => exact .inl ((hlooked hlook).before hafter)
  | unstarted hlook _ _ hcall => exact .inl ((hstarted hlook hcall).before hafter)
  | lost hlook _ _ hcall _ => exact .inl ((hstarted hlook hcall).before hafter)
  | resumed hlook hsession _ =>
      have hturns := (run_of_call hlook.call).2
      have hhead := hlook.head
      rw [hturns] at hhead
      exact decided_of_reported (Nat.le_succ 1) (hlooked hlook) (hturns 1) hdecided hleaves
        hprovides hhead (hattempts hlook hsession) hafter
  | @started c c' session session' info s₁ s₂ hlook hsession _ hcall hresumed =>
      have hturns := (run_of_call hlook.call).2
      obtain ⟨⟨t, hrun, hdb⟩, hturns'⟩ := run_of_call hcall
      obtain ⟨hattempts', started, hsession', hid⟩ := attempts_of_markUploadInProgress hrun
      rw [hsession'] at hresumed
      cases hresumed
      have hreachable := (hlooked hlook).follows.reachable
      have hothers := (Scene.Follows.next hreachable).later
      have hown : Extends s₁.next.next.registry.db s₂.registry.db := by
        rw [hdb]
        exact extends_of_run (committed_of_reachable (Scene.next_reachable hreachable)).lawful hrun
      have hkey : c.blob.objectKey = c'.blob.objectKey :=
        ((hattempts hlook hsession).later hothers).objectKey_eq hattempts'
      have hhead := hlook.head
      rw [hturns, hkey] at hhead
      refine decided_of_reported (n := 1) (m := 3) (by omega) (hstarted hlook hcall) ?_ hdecided
        hleaves hprovides hhead ?_ hafter
      · rw [hturns']
        exact hturns 2
      · rw [hid]
        exact hattempts'.later hown

/-! ## Decided Blobs -/

/-- A call decided Blobs by their bytes: one that it left AVAILABLE or FAILED, where neither the
registry before it nor the others account for that, was seen stored with the right bytes or with
wrong ones. -/
structure DecidedByContent (stored : List Char → Bytes) (s s' : Scene) : Prop where
  available : ∀ b ∈ s'.registry.db.blobs.rows, b.state = .available → s.Leaves b.id .available →
    InState s.registry.db b.id .available ∨
      (s.Sees b.objectKey ∧ IsContentOf (stored b.objectKey) b)
  failed : ∀ b ∈ s'.registry.db.blobs.rows, b.state = .failed → s.Leaves b.id .failed →
    InState s.registry.db b.id .failed ∨
      (s.Sees b.objectKey ∧ ¬IsContentOf (stored b.objectKey) b)

theorem decidedByContent_of_attested (hattested : ∀ id state, state.isDecided = true →
      s.Leaves id state → InState s'.registry.db id state →
      InState s.registry.db id state ∨ Attested s.Sees stored s'.registry.db id state) :
    DecidedByContent stored s s' := by
  have hrow : ∀ b ∈ s'.registry.db.blobs.rows, b.state.isDecided = true →
      s.Leaves b.id b.state → InState s.registry.db b.id b.state ∨
        (s.Sees b.objectKey ∧ (b.state = .available → IsContentOf (stored b.objectKey) b) ∧
          (b.state = .failed → ¬IsContentOf (stored b.objectKey) b)) := by
    intro b hb hdecided hleaves
    rcases hattested b.id b.state hdecided hleaves ⟨b, hb, rfl, rfl⟩ with
      hbefore | ⟨x, hx, hdecides⟩
    · exact .inl hbefore
    · have hstored : s'.registry.db.blobs.get? b.id = some b := Relation.get?_of_mem hb
      rw [hstored] at hx
      cases hx
      exact .inr hdecides
  constructor
  · intro b hb hstate hleaves
    rw [← hstate] at hleaves ⊢
    refine (hrow b hb (by rw [hstate]; rfl) hleaves).imp_right fun hdecides => ?_
    exact ⟨hdecides.1, hdecides.2.1 hstate⟩
  · intro b hb hstate hleaves
    rw [← hstate] at hleaves ⊢
    refine (hrow b hb (by rw [hstate]; rfl) hleaves).imp_right fun hdecides => ?_
    exact ⟨hdecides.1, hdecides.2.2 hstate⟩

end Attestations

end RoboLake

namespace RoboLake.Pair

open Foundation Store
open Sample (env)

/-- The checksum of an object that was composed from parts. -/
def compositeText : List Char := "47DEQpj8HBSa+/TImW+5JCeuQeRkm5NMpJWZG3hSuFU=-2".toList

/-- The content of the file `a` is stored under every key, reported with that text. -/
def compositeClient : S3Client where
  headObject _ := .ok ⟨1, some compositeText, none⟩
  iterChunks _ _ := .ok [[97], []]

/-- Both files of Version `200` are prepared through the service and started. -/
def transfers : List Call :=
  [⟨.createDataset name "dataset" pairDigest, env 1⟩,
   ⟨.registerVersion 100 pair "version" pairDigest, env 2⟩,
   ⟨.prepareUpload 200 firstDigest "first" (uploadFingerprint 200 firstDigest), env 3⟩,
   ⟨.prepareUpload 200 secondDigest "second" (uploadFingerprint 200 secondDigest), env 4⟩,
   ⟨.markUploadInProgress 300, env 5⟩,
   ⟨.markUploadInProgress 400, env 6⟩]

def compositeAfter (calls : List Call) : Scene where
  registry := store.runFrom store.start calls
  turns := fun n => ⟨[], env (10 + n), ⟨fun _ => .ok (some ⟨1, none, none⟩), fun _ => .ok [[97]]⟩⟩

theorem decode_compositeText : Base64.decode compositeText = none := by
  decide +kernel

theorem compositeClient_stores (objectKey : List Char) :
    compositeClient.Stores objectKey [97] := by
  refine ⟨⟨_, rfl, rfl, ?_⟩, fun _ => ⟨_, rfl, rfl⟩⟩
  intro value raw hvalue hraw _
  cases hvalue
  rw [decode_compositeText] at hraw
  cases hraw

theorem compositeClient_head (objectKey : List Char) :
    S3ObjectStore.head compositeClient objectKey = .ok (some ⟨1, none, none⟩) := by
  have hchecksum : parseProviderChecksum (some compositeText) = none := by
    simp only [parseProviderChecksum, decode_compositeText]
  unfold S3ObjectStore.head compositeClient
  simp only [hchecksum]

theorem compositeClient_iterBytes (objectKey : List Char) :
    S3ObjectStore.iterBytes compositeClient objectKey 1 = .ok [[97]] := rfl

theorem compositeAfter_registry (calls : List Call) :
    (compositeAfter calls).registry = store.runFrom store.start calls := rfl

theorem compositeAfter_provides (calls : List Call) :
    (compositeAfter calls).Provides fun _ => [97] := by
  intro n objectKey _ m _
  refine ⟨compositeClient, 1, compositeClient_stores objectKey, ?_, ?_⟩
  · intro info hinfo
    rw [compositeClient_head]
    exact hinfo
  · intro chunks hchunks
    rw [compositeClient_iterBytes]
    exact hchunks

theorem compositeAfter_leaves (calls : List Call) (id : UUID) (state : BlobState) :
    (compositeAfter calls).Leaves id state := fun _ _ _ h => h

theorem transfers_through : ThroughTransfers transfers := by
  intro c hc versionId key sha
  simp only [transfers, List.mem_cons, List.not_mem_nil, or_false] at hc
  constructor
  · intro digest hop
    rcases hc with rfl | rfl | rfl | rfl | rfl | rfl <;> cases hop <;> rfl
  · intro b _ hop
    rcases hc with rfl | rfl | rfl | rfl | rfl | rfl <;> cases hop

theorem uploadTexts_transfers {x : Bytes} (h : x ∈ uploadTexts transfers) :
    x = framed [UUID.bytes 200, firstDigest.rawBytes] ∨
      x = framed [UUID.bytes 200, secondDigest.rawBytes] := by
  obtain ⟨versionId, digest, ⟨c, hc, key, sha, hrequest⟩, rfl⟩ := h
  simp only [transfers, List.mem_cons, List.not_mem_nil, or_false] at hc
  rcases hrequest with hop | ⟨b, _, _, hop⟩
  · rcases hc with rfl | rfl | rfl | rfl | rfl | rfl <;> cases hop
    · exact .inl rfl
    · exact .inr rfl
  · rcases hc with rfl | rfl | rfl | rfl | rfl | rfl <;> cases hop

theorem sha256_transfers : Set.InjOn Platform.sha256
    (uploadTexts (transfers ++ []) ∪ {framed [UUID.bytes 200, secondDigest.rawBytes]}) := by
  have htexts : ∀ x ∈ uploadTexts (transfers ++ []) ∪
      {framed [UUID.bytes 200, secondDigest.rawBytes]},
      x = framed [UUID.bytes 200, firstDigest.rawBytes] ∨
        x = framed [UUID.bytes 200, secondDigest.rawBytes] := by
    rw [List.append_nil]
    intro x hx
    rcases hx with hx | hx
    · exact uploadTexts_transfers hx
    · exact .inr hx
  have hne : Platform.sha256 (framed [UUID.bytes 200, firstDigest.rawBytes]) ≠
      Platform.sha256 (framed [UUID.bytes 200, secondDigest.rawBytes]) := by
    decide +kernel
  intro x hx y hy hsha
  rcases htexts x hx with rfl | rfl <;> rcases htexts y hy with rfl | rfl
  · rfl
  · exact absurd hsha hne
  · exact absurd hsha.symm hne
  · rfl

def fileRecord (digest : Sha256Digest) : BlobRecord := ⟨201, digest, 1, [], .uploading, none⟩

end RoboLake.Pair
