import RoboLake.Registry.Committed
import RoboLake.Registry.Effects

/-! # Reachable registries

The rules that turn facts about one effect into facts about every registry the
store can reach.
-/

namespace RoboLake

open Foundation

variable [Platform] {r : Registry}

theorem committed_of_step (c : Call) (h : Committed r.db) : Committed (c.step r).db :=
  h.transact

theorem extends_of_step (c : Call) (h : Committed r.db) : Extends r.db (c.step r).db :=
  extends_of_transact h.lawful

theorem committed_of_reachable (h : store.Reachable r) : Committed r.db :=
  h.induction (I := fun r => Committed r.db) committed_empty
    fun _ c _ hr => committed_of_step c hr

theorem now_step (c : Call) (r : Registry) : (c.step r).now = r.later c.env := transact_now

theorem now_le_later (r : Registry) (env : Env) : r.now ≤ r.later env := Nat.le_add_right _ _

theorem reachable_of_transact {α : Type} {tx : Tx α} {env : Env} {op : Operation}
    (hop : operationTx op = effect tx) (h : store.Reachable r) :
    store.Reachable (transact tx env r).2 := by
  have hstep := h.step ⟨op, env⟩
  have hcall : store.step ⟨op, env⟩ r = (transact tx env r).2 := by
    change (transact (operationTx op) env r).2 = (transact tx env r).2
    rw [hop, transact_effect]
  rwa [hcall] at hstep

theorem extends_of_run_store (h : store.Reachable r) (calls : List Call) :
    Extends r.db (store.runFrom r calls).db :=
  Machine.runFrom_relates (R := fun r r' => Extends r.db r'.db) (fun r => Extends.refl r.db)
    (fun _ _ _ => Extends.trans)
    (fun _ c hr => extends_of_step c (committed_of_reachable hr)) h calls

/-- What the effects of the operations keep holds of every reachable registry. -/
theorem reachable_induction {I : Registry → Prop} (h₀ : I Registry.initial)
    (hstep : ∀ env r op db, Committed r.db → Committed db → Extends r.db db →
      Effect env r op db → I r → I ⟨db, r.later env⟩) (h : store.Reachable r) : I r := by
  refine h.induction h₀ fun r c hr hI => ?_
  have hcommitted := committed_of_reachable hr
  have hnext := hstep c.env r c.operation (c.step r).db hcommitted (committed_of_step c hcommitted)
    (extends_of_step c hcommitted) (effect_of_step c r) hI
  rw [← now_step c r] at hnext
  exact hnext

end RoboLake

namespace RoboLake.Sample

open Foundation

/-! ## A sample registry

One file of 5,000,000,001 zero bytes at the path `a`, in 75 parts. The platform
gives SHA-256 on the texts that the calls below hash: the manifest, its registration,
the upload of the file, the part plan and one request of each multipart scope.
-/

def digest (n : Nat) : Sha256Digest :=
  ⟨Hex.encode (bigEndian 32 n), Sha256Digest.isCanonical_encode (by simp [bigEndian])⟩

def fileSize : Nat := 5000000001

def fileDigest : Sha256Digest :=
  digest 0xae9fd3925375ae14a46deff72adf3dab28e753dbf14759922119af386b7bdc68

def manifestDigest : Sha256Digest :=
  digest 0x10616e21e45478f41fda41bdb39b1fad36e63eab39e42151d509a7e6df31dd88

def planDigest : Sha256Digest :=
  digest 0x57d7c5d97da17f51a96681b8bbaedc103fa0b7f5401affaaca24584f846e5d86

def registrationDigest : Sha256Digest :=
  digest 0xf071c740a71195b2117889fcbac822e29dfec345fddf42f5999becc642eabfd9

def uploadDigest : Sha256Digest :=
  digest 0x2ba3235a5e3d3fe14063ac93dd3b660507faf7136c780bde355abb6b4b15219a

/-- The scope letter of a request, the second key of a canonical document, or the zeros of an
id behind its length. -/
def hashText (data : Bytes) : Sha256Digest :=
  match (data.drop 20).take 2 with
  | [115, _] => digest 0x65d7b42f6cc4333d868bdf811351e25125d6923a545d5aab5deed739cb5d85be
  | [97, _] => digest 0x0c9c5b26a3eaca3270fec4a91485f4e264c9822a51c369527c2e15b6f0e78b8c
  | [99, _] => digest 0x4321e6539ddc6d589d6272fa8ac126087cf404e4c3400e29ab2874568f625918
  | [34, 101] => manifestDigest
  | [0, 0] => if data.length = 64 then uploadDigest else registrationDigest
  | _ => planDigest

def manifestJson : Json :=
  .object [(text "schema_version", .int 1),
    (text "entries", .list [.object [(text "relative_path", .str (text "a")),
      (text "size_bytes", .int fileSize),
      (text "sha256", .str (asciiText (asciiChars fileDigest.value)))]])]

scoped instance platform : Platform where
  sha256 := hashText
  nfc := id
  nfc_nfc _ := rfl
  casefold := id
  isalpha c := (65 ≤ c.val && c.val ≤ 90) || (97 ≤ c.val && c.val ≤ 122)
  jsonLoads _ := .ok manifestJson
  jsonClosed _ := []

set_option maxRecDepth 100000 in
def path : RelativePath := ⟨text "a", rfl, by decide +kernel⟩

set_option maxRecDepth 100000 in
def name : DatasetName := ⟨text "d", rfl, by decide +kernel⟩

def manifest : Manifest where
  entries := [⟨path, fileSize, fileDigest⟩]
  canonicalBytes := Manifest.canonicalJson [⟨path, fileSize, fileDigest⟩]
  sha256 := manifestDigest

def partDigest (i : Nat) : Sha256Digest :=
  if i < 74 then digest 0x3b6a07d0d404fab4e23b6d34bc6696a6a312dd92821332385e5af7c01c421351
  else digest 0x8e73876d5006e3c522b9407f113ddf12637ae2a81444e3d25392fee92cbb73b1

def partSize (i : Nat) : Nat := if i < 74 then 67108864 else 33944065

instance parts_neZero : NeZero 75 := ⟨by decide⟩

theorem number_pos (i : Fin 75) : 1 ≤ i.val + 1 := by
  omega

theorem number_le (i : Fin 75) : i.val + 1 ≤ maxParts := by
  simp only [maxParts]
  omega

theorem partSize_pos (i : Fin 75) : 0 < partSize i := by
  unfold partSize
  split <;> omega

theorem etag_ne : "etag" ≠ "" := by
  decide

theorem checksum_canonical (i : Fin 75) :
    (sha256Base64ToDigest (partDigest i).checksumBase64).isOk = true := by
  rw [sha256Base64ToDigest_checksumBase64]
  rfl

theorem checksum_canonical_first :
    (sha256Base64ToDigest (partDigest 0).checksumBase64).isOk = true :=
  checksum_canonical 0

def partDefinition (i : Fin 75) : PartDefinition where
  partNumber := i + 1
  offsetBytes := i * 67108864
  sizeBytes := partSize i
  expectedSha256 := partDigest i
  number_pos := number_pos i
  number_le := number_le i
  size_pos := partSize_pos i

set_option maxRecDepth 100000 in
def plan : HashedMultipartPlan where
  plan := ⟨1, fileSize, 67108864, List.ofFn partDefinition, by decide +kernel⟩
  sha256 := planDigest
  hashed := by decide +kernel

/-- What the `n`-th call reads: a clock that advances by one, and its own random identifiers. -/
def env (n : Nat) : Env := ⟨[1], fun _ => 1000, fun k => BitVec.ofNat 128 (n * 100 + k), 0⟩

def requestId (n : Nat) : UUID := BitVec.ofNat 128 (0x10008000000000000000 + n)

/-- Register the file: its Dataset, its Version `200` and its Blob `201`. -/
def registration : List Call :=
  [⟨.createDataset name "dataset" manifestDigest, env 1⟩,
   ⟨.registerVersion 100 manifest "version" manifestDigest, env 2⟩]

def resolution : Call := ⟨.createOrResolveMultipart (requestId 1) 200 201 plan, env 3⟩

def resolved : Registry where
  db := { (store.runFrom store.start registration).db with
    sessions := Relation.empty.insert (Store.plannedSession 300 201 200 1 plan 1000)
    parts := ⟨List.ofFn fun i => Store.pendingPart 300 (partDefinition i), by decide +kernel⟩
    idempotency := (store.runFrom store.start registration).db.idempotency.insert
      (Store.sessionBinding (requestId 1) (multipartRequestSha256 "multipart-session-resolve"
        [UUID.str 200, UUID.str 201, plan.sha256.value]) 300) }
  now := 3

set_option maxRecDepth 100000 in
theorem runFrom_resolution (calls : List Call) :
    store.runFrom store.start (registration ++ resolution :: calls) =
      store.runFrom resolved calls := by
  have hresolved : (store.runFrom store.start registration |> store.step resolution) = resolved := by
    decide +kernel
  rw [Machine.runFrom_append, Machine.runFrom_cons, hresolved]

/-- Admit invocation `77` to the session as owner `400`. -/
def admission : Call := ⟨.acquireMultipartLease (requestId 2) 77 300 1000 5, env 4⟩

def initiation : Call := ⟨.beginProviderInitiation 300 400 1, env 5⟩

def provider : Call := ⟨.recordProviderUpload 300 400 1 "upload", env 6⟩

/-! ## A sample completion

The session of the sample registry uploads its 75 parts, is accepted and claimed,
and reaches FINAL_VERIFICATION.
-/

def receipt (i : Fin 75) : CompletedPartReceipt where
  partNumber := i + 1
  responseEtag := "etag"
  responseChecksumSha256Base64 := (partDigest i).checksumBase64
  number_pos := number_pos i
  number_le := number_le i
  etag_ne := etag_ne
  checksum_canonical := checksum_canonical i

def observation (i : Fin 75) : ProviderPartObservation where
  partNumber := i + 1
  sizeBytes := partSize i
  etag := "etag"
  checksumSha256Base64 := (partDigest i).checksumBase64
  number_pos := number_pos i
  size_pos := partSize_pos i
  etag_ne := etag_ne
  checksum_canonical := checksum_canonical i

def uploads : List Call :=
  List.ofFn fun i : Fin 75 => ⟨.recordUploadedPart 300 400 1 (receipt i), env 7⟩

def reconciliation : Call :=
  ⟨.reconcileParts 300 400 1 (List.ofFn observation) .reconciled, env 8⟩

def acceptance : Call := ⟨.acceptCompletion 300 400 1 (requestId 9), env 9⟩

def completionClaim : Call := ⟨.claimCompletion 500 1000 5, env 10⟩

def claim : CompletionClaim := ⟨300, ⟨300, 500, 1, 0, 0⟩, .pending⟩

def claimed : List Call :=
  registration ++ [resolution, admission, initiation, provider] ++ uploads ++
    [reconciliation, acceptance, completionClaim]

/-- Assemble the object, observe it and start its verification. -/
def verifying : List Call :=
  [⟨.setCompletionPhase claim .assembling false false false, env 11⟩,
   ⟨.setCompletionPhase claim .finalPresent false false false, env 12⟩,
   ⟨.setCompletionPhase claim .finalVerification false false false, env 13⟩]

def verification : VerificationEvidence where
  verificationMethod := .fullStreamSha256
  observedSha256 := fileDigest
  observedSizeBytes := fileSize
  verificationReadBytes := fileSize
  verificationCompletedAt := 90
  verifierVersion := "v1"
  version_ne := by decide
  version_le := by decide

/-! The rows of the session and of its parts while the parts are uploaded and reconciled. -/

def sessionRow (activity : Timestamp) : UploadSessionModel :=
  { Store.plannedSession 300 201 200 1 plan 1000 with
    state := .inProgress
    providerUploadId := some "upload"
    initiationStartedAt := some 5
    lastActivityAt := activity }

def uploadedPart (i : Fin 75) : UploadPartModel :=
  Store.withReceipt (Store.pendingPart 300 (partDefinition i)) (receipt i) (i + 7)

def uploaded : Registry where
  db := { (store.runFrom resolved [admission, initiation, provider]).db with
    sessions := Relation.empty.insert (sessionRow 81)
    parts := ⟨List.ofFn uploadedPart, by decide +kernel⟩ }
  now := 81

def reconciled : Registry where
  db := { uploaded.db with
    sessions := Relation.empty.insert
      { sessionRow 82 with lastProviderReconciledAt := some 82 }
    parts := ⟨List.ofFn fun i => Store.resolvedPart [observation i] 82 (uploadedPart i),
      by decide +kernel⟩ }
  now := 82

set_option maxRecDepth 100000 in
theorem runFrom_uploads :
    store.runFrom (store.runFrom resolved [admission, initiation, provider]) uploads =
      uploaded := by
  decide +kernel

set_option maxRecDepth 100000 in
theorem step_reconciliation : store.step reconciliation uploaded = reconciled := by
  decide +kernel

theorem reachable_uploaded : store.Reachable uploaded :=
  ⟨registration ++ [resolution, admission, initiation, provider] ++ uploads, by
    rw [Machine.runFrom_append, runFrom_resolution, runFrom_uploads]⟩

theorem runFrom_claimed :
    store.runFrom store.start claimed =
      store.runFrom reconciled [acceptance, completionClaim] := by
  rw [claimed, Machine.runFrom_append, Machine.runFrom_append, runFrom_resolution,
    runFrom_uploads, Machine.runFrom_cons, step_reconciliation]

theorem reachable_claimed : store.Reachable (store.runFrom store.start claimed) := ⟨claimed, rfl⟩

def published : List Call :=
  claimed ++ verifying ++ [⟨.recordVerifiedCompletion claim verification, env 14⟩]

theorem reachable_published : store.Reachable (store.runFrom store.start published) :=
  ⟨published, rfl⟩

set_option maxRecDepth 100000 in
/-- The claim lives at first; in the end the session is COMPLETED and its Blob is AVAILABLE. -/
theorem published_facts :
    ((store.runFrom store.start claimed).db.completionLeases.get? 300).any (fun l =>
      (store.runFrom store.start claimed).now < l.expiresAt) = true ∧
    ((store.runFrom store.start published).db.sessions.get? 300).any (fun u =>
      u.blobId = 201 ∧ u.strategy = .multipart ∧ u.state = .completed) = true ∧
    ((store.runFrom store.start published).db.blobs.get? 201).any (fun b =>
      b.state = .available) = true := by
  rw [published, Machine.runFrom_append, Machine.runFrom_append, runFrom_claimed]
  decide +kernel

/-- A single-PUT attempt `700` on the file's Blob starts. -/
def started : List Call :=
  registration ++ [⟨.prepareUpload 200 fileDigest "put" manifestDigest, env 7⟩,
    ⟨.markUploadInProgress 700, env 8⟩]

end RoboLake.Sample
