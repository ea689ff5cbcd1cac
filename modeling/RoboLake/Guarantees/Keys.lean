import RoboLake.Domain.Canonical
import RoboLake.Registry.Accepted
import RoboLake.Registry.Reachable

/-! # Keys of single-PUT requests

A key that is bound to another request is refused, with one exception: the upload of
AVAILABLE content is answered before its key is looked up.
-/

namespace RoboLake

open Foundation Store Work

section Keys

variable [Platform] {env : Env} {r : Registry} {s : TxState}

/-! ## Refusals -/

/-- The call raises `IdempotencyConflictError` and changes no table. -/
def Conflicts {α : Type} (tx : Tx α) (env : Env) (r : Registry) : Prop :=
  ∃ message, transact tx env r = (.error (idempotencyConflict message), ⟨r.db, r.later env⟩)

theorem conflicts_of_raised {α : Type} {tx : Tx α} {message : String}
    (h : run tx (beginTx env r) = .error (idempotencyConflict message)) : Conflicts tx env r :=
  ⟨message, transact_of_raised h⟩

theorem run_createDataset_conflict {name : DatasetName} {key : String} {sha : Sha256Digest}
    {record : IdempotencyRecordModel}
    (hkey : s.db.idempotency.get? (.datasetCreate, key) = some record)
    (hsha : record.requestSha256 ≠ sha) :
    run (createDataset name key sha) s = .error (idempotencyConflict
      "Idempotency key was already used for a different Dataset request.") := by
  unfold createDataset
  rw [run_select_bind, hkey]
  exact run_require_bind_error.mpr (.inl ⟨hsha, rfl⟩)

theorem run_registerVersion_conflict {datasetId : UUID} {manifest canonical : Manifest}
    {key : String} {sha : Sha256Digest} {dataset : DatasetModel} {record : IdempotencyRecordModel}
    (hcanonical : Manifest.fromCanonicalBytes manifest.canonicalBytes = .ok canonical)
    (hdigest : canonical.sha256 = manifest.sha256)
    (hdataset : s.db.datasets.get? datasetId = some dataset)
    (hkey : s.db.idempotency.get? (.versionRegister, key) = some record)
    (hsha : record.requestSha256 ≠ sha) :
    run (registerVersion datasetId manifest key sha) s = .error (idempotencyConflict
      "Idempotency key was already used for a different Version request.") := by
  unfold registerVersion
  refine run_ofExcept_bind_error.mpr (.inr ⟨canonical, hcanonical, ?_⟩)
  refine run_require_bind_error.mpr (.inr ⟨hdigest, ?_⟩)
  refine run_fetch_bind_error.mpr (.inr ⟨dataset, hdataset, ?_⟩)
  rw [run_select_bind, hkey]
  exact run_require_bind_error.mpr (.inl ⟨hsha, rfl⟩)

theorem run_prepareUpload_conflict {versionId : UUID} {digest : Sha256Digest} {key : String}
    {sha : Sha256Digest} {v : DatasetVersionModel} {d : DatasetModel} {b : BlobModel}
    {record : IdempotencyRecordModel} (hv : s.db.versions.get? versionId = some v)
    (hd : s.db.datasets.get? v.datasetId = some d)
    (hb : referencedBlob s.db versionId digest = some b) (hstate : b.state ≠ .available)
    (hkey : s.db.idempotency.get? (.uploadSessionCreate, key) = some record)
    (hsha : record.requestSha256 ≠ sha) :
    run (prepareUpload versionId digest key sha) s = .error (idempotencyConflict
      "Idempotency key was already used for a different upload request.") := by
  unfold prepareUpload fetchDataset
  refine run_fetch_bind_error.mpr (.inr ⟨v, hv, ?_⟩)
  refine run_fetch_bind_error.mpr (.inr ⟨d, hd, ?_⟩)
  refine run_fetch_bind_error.mpr (.inr ⟨b, hb, ?_⟩)
  rw [if_neg hstate, run_select_bind, hkey]
  exact run_require_bind_error.mpr (.inl ⟨hsha, rfl⟩)

theorem run_prepareUpload_available {versionId : UUID} {digest : Sha256Digest} {key : String}
    {sha : Sha256Digest} {v : DatasetVersionModel} {d : DatasetModel} {b : BlobModel}
    (hv : s.db.versions.get? versionId = some v) (hd : s.db.datasets.get? v.datasetId = some d)
    (hb : referencedBlob s.db versionId digest = some b) (hstate : b.state = .available) :
    run (prepareUpload versionId digest key sha) s = .ok (uploadContext v d.name b none, s) := by
  unfold prepareUpload fetchDataset
  refine run_fetch_bind_ok.mpr ⟨v, hv, ?_⟩
  refine run_fetch_bind_ok.mpr ⟨d, hd, ?_⟩
  refine run_fetch_bind_ok.mpr ⟨b, hb, ?_⟩
  rw [if_pos hstate]
  rfl

/-! ## Bound keys -/

/-- The call names stored rows, and its key is bound to another request of its scope. -/
inductive Rebinds (r : Registry) : Operation → Prop
  | createDataset {name : DatasetName} {key : String} {sha : Sha256Digest}
      {record : IdempotencyRecordModel}
      (hkey : r.db.idempotency.get? (.datasetCreate, key) = some record)
      (hsha : record.requestSha256 ≠ sha) : Rebinds r (.createDataset name key sha)
  | registerVersion {datasetId : UUID} {supplied : List ManifestEntry} {manifest : Manifest}
      {key : String} {sha : Sha256Digest} {dataset : DatasetModel}
      {record : IdempotencyRecordModel} (hbuilt : Manifest.build supplied = .ok manifest)
      (hloads : manifest.LoadsDumped) (hdataset : r.db.datasets.get? datasetId = some dataset)
      (hkey : r.db.idempotency.get? (.versionRegister, key) = some record)
      (hsha : record.requestSha256 ≠ sha) : Rebinds r (.registerVersion datasetId manifest key sha)
  | prepareUpload {versionId : UUID} {digest : Sha256Digest} {key : String} {sha : Sha256Digest}
      {v : DatasetVersionModel} {b : BlobModel} {record : IdempotencyRecordModel}
      (hv : r.db.versions.get? versionId = some v)
      (hb : referencedBlob r.db versionId digest = some b)
      (hkey : r.db.idempotency.get? (.uploadSessionCreate, key) = some record)
      (hsha : record.requestSha256 ≠ sha) : Rebinds r (.prepareUpload versionId digest key sha)

/-- The call prepares the upload of content that is AVAILABLE already. -/
def PreparesAvailable (r : Registry) (op : Operation) : Prop :=
  ∃ versionId digest key sha b, op = .prepareUpload versionId digest key sha ∧
    referencedBlob r.db versionId digest = some b ∧ b.state = .available

theorem Conflicts.effect {α : Type} {tx : Tx α} (h : Conflicts tx env r) :
    Conflicts (effect tx) env r := by
  obtain ⟨message, hcall⟩ := h
  refine ⟨message, ?_⟩
  rw [transact_effect, hcall]
  rfl

theorem not_conflicts_of_returned {α : Type} {tx : Tx α} {a : α}
    (h : run tx (beginTx env r) = .ok (a, beginTx env r)) : ¬Conflicts (effect tx) env r := by
  intro hconflict
  obtain ⟨message, hcall⟩ := hconflict
  rw [transact_effect, transact_of_read h] at hcall
  cases hcall

/-- A key bound to another request is refused exactly when no AVAILABLE content is prepared. -/
theorem bound_keys_conflict_iff (h : store.Reachable r) {op : Operation} (hrebinds : Rebinds r op)
    (env : Env) : Conflicts (operationTx op) env r ↔ ¬PreparesAvailable r op := by
  cases hrebinds with
  | createDataset hkey hsha =>
      refine iff_of_true ?_ ?_
      · exact (conflicts_of_raised (run_createDataset_conflict hkey hsha)).effect
      · intro havailable
        obtain ⟨_, _, _, _, _, hop, _⟩ := havailable
        cases hop
  | registerVersion hbuilt hloads hdataset hkey hsha =>
      have hcanonical := Manifest.fromCanonicalBytes_of_build hbuilt hloads
      refine iff_of_true ?_ ?_
      · exact (conflicts_of_raised
          (run_registerVersion_conflict hcanonical rfl hdataset hkey hsha)).effect
      · intro havailable
        obtain ⟨_, _, _, _, _, hop, _⟩ := havailable
        cases hop
  | @prepareUpload versionId digest key sha v b record hv hb hkey hsha =>
      obtain ⟨d, hd⟩ := (committed_of_reachable h).lawful.version_dataset.get
        (Relation.mem_of_get? hv)
      by_cases hstate : b.state = .available
      · refine iff_of_false ?_ ?_
        · exact not_conflicts_of_returned (run_prepareUpload_available hv hd hb hstate)
        · intro hnone
          exact hnone ⟨versionId, digest, key, sha, b, rfl, hb, hstate⟩
      · refine iff_of_true ?_ ?_
        · exact (conflicts_of_raised
            (run_prepareUpload_conflict hv hd hb hstate hkey hsha)).effect
        · intro havailable
          obtain ⟨_, _, _, _, b', hop, hb', hstate'⟩ := havailable
          cases hop
          rw [hb] at hb'
          cases hb'
          exact hstate hstate'

end Keys

namespace Sample

def verified : List Call := started ++ [⟨.markUploadVerified 700 none, env 9⟩]

set_option maxRecDepth 100000 in
/-- The key of the attempt is accepted for another request once its content is AVAILABLE. -/
theorem sample_bound_key_is_accepted :
    ¬∀ r, store.Reachable r → ∀ op, Rebinds r op → ∀ env, Conflicts (operationTx op) env r := by
  intro hall
  have hfacts : ((store.runFrom store.start verified).db.versions.get? 200).isSome = true ∧
      (referencedBlob (store.runFrom store.start verified).db 200 fileDigest).isSome = true ∧
      ((store.runFrom store.start verified).db.idempotency.get?
        (.uploadSessionCreate, "put")).any (fun record => record.requestSha256 ≠ planDigest) =
          true ∧
      (transact (operationTx (.prepareUpload 200 fileDigest "put" planDigest)) (env 10)
        (store.runFrom store.start verified)).1.isOk = true := by
    decide +kernel
  obtain ⟨hversion, hblob, hrecord, hreturned⟩ := hfacts
  obtain ⟨v, hv⟩ := Option.isSome_iff_exists.mp hversion
  obtain ⟨b, hb⟩ := Option.isSome_iff_exists.mp hblob
  obtain ⟨record, hkey, hsha⟩ := (Option.any_eq_true _ _).mp hrecord
  obtain ⟨message, hraised⟩ := hall _ ⟨verified, rfl⟩ _
    (.prepareUpload hv hb hkey (of_decide_eq_true hsha)) (env 10)
  rw [hraised] at hreturned
  cases hreturned

set_option maxRecDepth 100000 in
/-- While the content is UPLOADING the key is refused for another request. -/
theorem sample_bound_key_conflicts :
    Conflicts (operationTx (.prepareUpload 200 fileDigest "put" planDigest)) (env 10)
      (store.runFrom store.start started) := by
  have hfacts : ((store.runFrom store.start started).db.versions.get? 200).isSome = true ∧
      (referencedBlob (store.runFrom store.start started).db 200 fileDigest).any
        (fun b => b.state ≠ .available) = true ∧
      ((store.runFrom store.start started).db.idempotency.get?
        (.uploadSessionCreate, "put")).any (fun record => record.requestSha256 ≠ planDigest) =
          true := by
    decide +kernel
  obtain ⟨hversion, hblob, hrecord⟩ := hfacts
  obtain ⟨v, hv⟩ := Option.isSome_iff_exists.mp hversion
  obtain ⟨b, hb, hstate⟩ := (Option.any_eq_true _ _).mp hblob
  obtain ⟨record, hkey, hsha⟩ := (Option.any_eq_true _ _).mp hrecord
  refine (bound_keys_conflict_iff ⟨started, rfl⟩
    (.prepareUpload hv hb hkey (of_decide_eq_true hsha)) (env 10)).mpr ?_
  intro havailable
  obtain ⟨_, _, _, _, b', hop, hb', hstate'⟩ := havailable
  cases hop
  rw [hb] at hb'
  cases hb'
  exact of_decide_eq_true hstate hstate'

end Sample

end RoboLake
