import RoboLake.Application.Routes
import RoboLake.Guarantees.Repairs
import RoboLake.Registry.Accepted.Registrations

/-! # Registrations

A manifest whose totals fit the columns is sealed as it was computed, whichever of its
Blobs are stored already. The schema of the route has no such bound: what it admits may
be refused by the database.
-/

namespace RoboLake

open Foundation Work Store Migrations

section Registrations

variable [Platform] {env : Env} {r : Registry} {m : Manifest} {datasetId : UUID}
  {supplied : List ManifestEntry} {key : String} {sha : Sha256Digest}

/-! ## The seal -/

/-- The database recounts of a Version what its row says. -/
theorem Registered.sealRules_satisfied {db : Database} {v : DatasetVersionModel} {m : Manifest}
    (h : Registered db v m) (hlawful : Lawful db) : Satisfied (sealRules db v) := by
  obtain ⟨_, hfiles, hlogical, hcount, hbytes⟩ := h.summaries
  exact sealRules_of_rows hlawful h.rows hfiles.symm hlogical.symm hcount.symm hbytes.symm

/-- A manifest that fits is registered under a fresh key: the Version it names is stored with
totals that the database recounts, and a Version that was not stored before is the manifest's. -/
theorem built_manifest_is_sealed (h : store.Reachable r)
    (hbuild : Manifest.build supplied = .ok m) (hloads : Manifest.LoadsDumped m)
    (hfits : FitsColumns m) (hsizes : SizesAgree r.db m)
    (hdraws : FreshDraws r.db env.uuids (m.entries.length + 1))
    (hdataset : (r.db.datasets.get? datasetId).isSome = true)
    (hnumber : nextVersionNumber r.db datasetId < bigint) (hkey : FreshVersionKey r.db key) :
    ∃ record db v, transact (registerVersion datasetId m key sha) env r =
        (.ok record, ⟨db, r.later env⟩) ∧
      RegistersVersion r.db db datasetId m key record v ∧ v.sealedAt ≠ none ∧
      Satisfied (sealRules db v) ∧ (v ∈ r.db.versions.rows ∨ Registered db v m) := by
  rcases @transact_registerVersion _ _ _ _ _ _ _ sha h hbuild hloads hfits hdraws hdataset hnumber
    hkey with ⟨record, db, hok, v, hv⟩ | ⟨e, ⟨_, b, hb, x, hx, hsha, hsize⟩, _⟩
  · have hop : operationTx (.registerVersion datasetId m key sha) =
        effect (registerVersion datasetId m key sha) := rfl
    have hnext := @reachable_of_transact _ _ _ _ env _ hop h
    rw [hok] at hnext
    have hmem := Relation.mem_of_get? hv.stored
    obtain ⟨m', hm'⟩ := registered_of_reachable hnext v hmem
    have hcommitted := committed_of_reachable hnext
    refine ⟨record, db, v, hok, hv, hcommitted.sealed v hmem,
      hm'.sealRules_satisfied hcommitted.lawful, ?_⟩
    rcases hv.origin with hold | hbytes
    · exact .inl hold
    · have hread := hm'.loads
      rw [hbytes, Manifest.fromCanonicalBytes_of_build hbuild hloads] at hread
      cases hread
      exact .inr hm'
  · exact absurd (hsizes b hb x hx hsha) hsize

/-! ## Refusals of the database -/

def RefusedByDatabase {α : Type} (result : Except Failure α) : Prop :=
  ∃ d, result = .error (.database d)

theorem answers_registerVersion_replayed (hcanonical :
    Manifest.fromCanonicalBytes m.canonicalBytes = .ok m)
    (hbound : (r.db.datasets.get? datasetId).isSome = true →
      r.db.idempotency.get? (.versionRegister, key) ≠ none) :
    Answers (registerVersion datasetId m key sha) (beginTx env r)
      (fun _ s => True ∧ Committable s) fun e => ∀ d, e ≠ .database d := by
  unfold registerVersion
  refine answers_bind.mpr (answers_of_ends (ends_ofExcept.mpr ⟨m, hcanonical, ?_⟩))
  refine answers_bind.mpr (answers_of_ends (ends_require.mpr ⟨rfl, ?_⟩))
  refine answers_bind.mpr (answers_fetch (fun _ => nofun) fun dataset hdataset => ?_)
  refine answers_bind.mpr (answers_of_ends (ends_select.mpr ?_))
  have hexists : (r.db.datasets.get? datasetId).isSome = true := by
    change r.db.datasets.get? datasetId = some dataset at hdataset
    rw [hdataset]
    rfl
  rw [db_beginTx]
  cases hreplay : r.db.idempotency.get? (.versionRegister, key) with
  | none => exact absurd hreplay (hbound hexists)
  | some replay =>
      refine answers_bind.mpr (answers_require (fun _ => nofun) fun _ => ?_)
      refine answers_bind.mpr (answers_fetch (fun _ => nofun) fun resourceId _ => ?_)
      refine answers_bind.mpr (answers_fetch (fun _ => nofun) fun replayed _ => ?_)
      refine answers_of_ends (ends_pure.mpr ⟨trivial, ?_⟩)
      intro t ht
      cases ht

theorem registerVersion_not_refused (h : store.Reachable r)
    (hbuild : Manifest.build supplied = .ok m) (hloads : Manifest.LoadsDumped m)
    (hfits : FitsColumns m) (hdraws : FreshDraws r.db env.uuids (m.entries.length + 1))
    (hnumber : nextVersionNumber r.db datasetId < bigint) (hlength : key.length ≤ 255) :
    ¬RefusedByDatabase (transact (registerVersion datasetId m key sha) env r).1 := by
  have hcanonical := Manifest.fromCanonicalBytes_of_build hbuild hloads
  intro hrefused
  obtain ⟨failure, hrefused⟩ := hrefused
  by_cases hfresh : (r.db.datasets.get? datasetId).isSome = true ∧
      r.db.idempotency.get? (.versionRegister, key) = none
  · rcases @transact_registerVersion _ _ _ _ _ _ _ sha h hbuild hloads hfits hdraws hfresh.1
      hnumber ⟨hlength, hfresh.2⟩ with ⟨record, db, hok, _⟩ | ⟨e, ⟨rfl, _⟩, herror⟩
    · rw [hok] at hrefused
      cases hrefused
    · rw [herror] at hrefused
      cases hrefused
  · have hbound : (r.db.datasets.get? datasetId).isSome = true →
        r.db.idempotency.get? (.versionRegister, key) ≠ none :=
      fun hexists hnone => hfresh ⟨hexists, hnone⟩
    have hanswers := @answers_registerVersion_replayed _ env r m datasetId key sha hcanonical hbound
    rcases @transact_of_answers _ _ _ _ _ (fun _ _ => True) _ hanswers with
      ⟨record, db, hok, _⟩ | ⟨e, he, herror⟩
    · rw [hok] at hrefused
      cases hrefused
    · rw [herror] at hrefused
      cases hrefused
      exact he failure rfl

theorem fitsColumns_iff (hbuild : Manifest.build supplied = .ok m) :
    FitsColumns m ↔ m.logicalBytes < bigint := by
  obtain ⟨_, _, _, _, hsizes⟩ := Manifest.build_spec hbuild
  constructor
  · intro h
    exact h.logicalBytes
  · intro h
    have hunique := Manifest.uniqueBlobBytes_le (Manifest.hasConflictingSizes_eq_false.mp hsizes)
    refine ⟨?_, h, by omega⟩
    intro e he
    have hle : e.sizeBytes ≤ m.logicalBytes :=
      List.single_le_sum (by simp) _ (List.mem_map.mpr ⟨e, he, rfl⟩)
    omega

/-! ## Admitted requests -/

/-- What an admitted request should promise: every number it writes fits its column, and no
registry refuses it as a failure of the database. -/
def NeverOverflows (request : ManifestRegisterRequest) : Prop :=
  ∀ m, request.manifest = .ok m → FitsColumns m ∧ ∀ r, store.Reachable r →
    ∀ env datasetId header, FreshDraws r.db env.uuids (m.entries.length + 1) →
      nextVersionNumber r.db datasetId < bigint →
        ¬RefusedByDatabase (registerVersionRoute datasetId request header env r).1

/-- An admitted request keeps its promise exactly when its sizes together are below 2^63. A larger
one is refused by the database when it would be stored. -/
theorem admitted_request_fits_iff {request : ManifestRegisterRequest}
    (hmanifest : request.manifest = .ok m) (hloads : Manifest.LoadsDumped m) :
    (NeverOverflows request ↔ request.totalBytes < bigint) ∧
      ∀ r env datasetId header, bigint ≤ request.totalBytes →
        (r.db.datasets.get? datasetId).isSome = true →
        r.db.idempotency.get? (.versionRegister, header.value) = none →
        (∀ v ∈ r.db.versions.rows, ¬(v.datasetId = datasetId ∧ v.manifestSha256 = m.sha256)) →
        RefusedByDatabase (registerVersionRoute datasetId request header env r).1 := by
  obtain ⟨⟨supplied, hbuild⟩, htotal⟩ := request.build_of_manifest hmanifest
  have hroute : ∀ datasetId header env r, registerVersionRoute datasetId request header env r =
      transact (RegistryService.registerVersion datasetId m header.value) env r := by
    intro datasetId header env r
    unfold registerVersionRoute
    rw [hmanifest]
  refine ⟨⟨?_, ?_⟩, ?_⟩
  · intro h
    have hlogical := (h m hmanifest).1.logicalBytes
    omega
  · intro hbound m' hm'
    rw [hmanifest] at hm'
    cases hm'
    have hfits : FitsColumns m := (fitsColumns_iff hbuild).mpr (by omega)
    refine ⟨hfits, ?_⟩
    intro r hr env datasetId header hdraws hnumber
    rw [hroute]
    exact registerVersion_not_refused hr hbuild hloads hfits hdraws hnumber header.value_length.2
  · intro r env datasetId header hbound hdataset hkey hnew
    rw [hroute]
    exact transact_registerVersion_refused hbuild hloads (by omega) hdataset hkey hnew

end Registrations

end RoboLake

namespace RoboLake.Pair

open Foundation Work Store Migrations

open Sample (env)

/-! ## Registrations of the pair -/

/-- The first manifest is registered as Version `200` with Blob `201`. -/
def firstRegistered : Registry := store.runFrom store.start
  [⟨.createDataset name "dataset" pairDigest, env 1⟩,
   ⟨.registerVersion 100 single "single" singleDigest, env 2⟩]

set_option maxRecDepth 100000 in
/-- The pair is sealed beside the first manifest, whose Blob it shares. -/
theorem pair_is_sealed : ∃ record db v,
    transact (registerVersion 100 pair "pair" pairDigest) (env 3) firstRegistered =
      (.ok record, ⟨db, firstRegistered.later (env 3)⟩) ∧
    RegistersVersion firstRegistered.db db 100 pair "pair" record v ∧ v.sealedAt ≠ none ∧
    Satisfied (sealRules db v) ∧ (v ∈ firstRegistered.db.versions.rows ∨ Registered db v pair) := by
  have hbuild : Manifest.build pair.entries = .ok pair := by decide
  have hsizes : SizesAgree firstRegistered.db pair := by
    unfold SizesAgree
    decide
  have hdistinct : ∀ i < 3, ∀ j < 3, (env 3).uuids i = (env 3).uuids j → i = j := by
    decide
  have hversions : ∀ k < 3, firstRegistered.db.versions.get? ((env 3).uuids k) = none := by
    decide
  have hblobs : ∀ k < 3, firstRegistered.db.blobs.get? ((env 3).uuids k) = none := by
    decide
  refine built_manifest_is_sealed ⟨_, rfl⟩ hbuild rfl ⟨?_, ?_, ?_⟩ hsizes
    ⟨hdistinct, hversions, hblobs⟩ ?_ ?_ ⟨?_, ?_⟩ <;> decide

def singleRequest : ManifestRegisterRequest where
  schemaVersion := 1
  entries := [⟨text "a", 1, asciiText (asciiChars firstDigest.value), by decide, by decide,
    by decide⟩]
  schemaVersion_eq := rfl
  entries_length := by decide

set_option maxRecDepth 100000 in
/-- A request of one byte overflows nothing. -/
theorem single_request_fits : NeverOverflows singleRequest := by
  have hmanifest : singleRequest.manifest = .ok single := by decide
  exact (admitted_request_fits_iff hmanifest rfl).1.mpr (by decide)

end RoboLake.Pair

namespace RoboLake.Oversize

open Foundation Work Store Migrations

/-! ## A request of 2^63 bytes

One entry at the path `a` with the size 2^63. The platform hashes its manifest and the
fields of its registration, and reads the manifest back.
-/

def fileSize : Nat := 9223372036854775808

def manifestDigest : Sha256Digest :=
  Sample.digest 0x55db45eb69623cbd85237336b9a23b564c12e383da3cedae2752465412cf1a94

def registrationDigest : Sha256Digest :=
  Sample.digest 0x213f01c37bc8a465e073104dd8d5c8146e61fcf94cb7e74e775e65d789bec0aa

/-- Of the two texts only the manifest begins with a brace. -/
scoped instance platform : Platform where
  sha256 data := if data.head? = some 123 then manifestDigest else registrationDigest
  nfc := id
  nfc_nfc := Sample.platform.nfc_nfc
  casefold := id
  isalpha c := (65 ≤ c.val && c.val ≤ 90) || (97 ≤ c.val && c.val ≤ 122)
  jsonLoads _ := .ok (.object [(text "schema_version", .int 1),
    (text "entries", .list [.object [(text "relative_path", .str (text "a")),
      (text "size_bytes", .int fileSize),
      (text "sha256", .str (asciiText (asciiChars Sample.fileDigest.value)))]])])
  jsonClosed _ := []

set_option maxRecDepth 100000 in
def path : RelativePath := ⟨text "a", rfl, by decide⟩

set_option maxRecDepth 100000 in
def name : DatasetName := ⟨text "d", rfl, @DatasetName.safe Sample.platform Sample.name⟩

def manifest : Manifest where
  entries := [⟨path, fileSize, Sample.fileDigest⟩]
  canonicalBytes := Manifest.canonicalJson [⟨path, fileSize, Sample.fileDigest⟩]
  sha256 := manifestDigest

def request : ManifestRegisterRequest where
  schemaVersion := 1
  entries := [⟨text "a", fileSize, asciiText (asciiChars Sample.fileDigest.value), by decide,
    by decide, by decide⟩]
  schemaVersion_eq := rfl
  entries_length := by decide

def header : IdempotencyKeyHeader := ⟨"version", by decide⟩

def created : Registry :=
  store.runFrom store.start [⟨.createDataset name "dataset" manifestDigest, Sample.env 1⟩]

set_option maxRecDepth 100000 in
/-- The request is admitted, and the database refuses its registration. -/
theorem oversize_request_overflows : (¬∀ request, NeverOverflows request) ∧
    RefusedByDatabase (registerVersionRoute 100 request header (Sample.env 2) created).1 := by
  have hmanifest : request.manifest = .ok manifest := by decide
  have hlarge : bigint ≤ manifest.logicalBytes := by decide
  constructor
  · intro hall
    have hfits := (hall request manifest hmanifest).1
    exact Nat.not_lt.mpr hlarge hfits.logicalBytes
  · have hbuild : Manifest.build manifest.entries = .ok manifest := by decide
    unfold registerVersionRoute
    rw [hmanifest]
    refine transact_registerVersion_refused hbuild rfl hlarge ?_ ?_ ?_ <;> decide

end RoboLake.Oversize
