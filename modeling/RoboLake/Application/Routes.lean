import RoboLake.Application.Registration

/-! # The registration route

A request is validated field by field before the route builds a manifest of it. What
the schema accepts is a type: a request that breaks a field's rule cannot be written.
-/

namespace RoboLake

open Foundation

structure ManifestEntryRequest where
  relativePath : PyStr
  sizeBytes : Int
  sha256 : PyStr
  relativePath_length : 1 ≤ relativePath.length ∧ relativePath.length ≤ 1024
  sizeBytes_ge : 0 ≤ sizeBytes
  sha256_length : sha256.length = 64

structure ManifestRegisterRequest where
  schemaVersion : Int
  entries : List ManifestEntryRequest
  schemaVersion_eq : schemaVersion = 1
  entries_length : entries.length ≤ 100000

structure IdempotencyKeyHeader where
  value : String
  value_length : 1 ≤ value.length ∧ value.length ≤ 255

variable [Platform]

/-- The manifest entry that the route makes of a supplied one. -/
def ManifestEntryRequest.entry (request : ManifestEntryRequest) : Except Failure ManifestEntry :=
  Manifest.parseEntry (request.relativePath, request.sizeBytes, request.sha256)

/-- The manifest that the route builds before it calls the registry. -/
def ManifestRegisterRequest.manifest (request : ManifestRegisterRequest) :
    Except Failure Manifest := do
  let entries ← request.entries.mapM ManifestEntryRequest.entry
  Manifest.build entries

def ManifestRegisterRequest.totalBytes (request : ManifestRegisterRequest) : Int :=
  (request.entries.map ManifestEntryRequest.sizeBytes).sum

def registerVersionRoute (datasetId : UUID) (request : ManifestRegisterRequest)
    (idempotencyKey : IdempotencyKeyHeader) (env : Env) (r : Registry) :
    Except Failure VersionRecord × Registry :=
  match request.manifest with
  | .error e => (.error e, r)
  | .ok manifest =>
      transact (RegistryService.registerVersion datasetId manifest idempotencyKey.value) env r

/-! ## Admitted requests -/

theorem sizeBytes_of_make {path : RelativePath} {size : Int} {digest : Sha256Digest}
    {e : ManifestEntry} (h : ManifestEntry.make path size digest = .ok e) :
    (e.sizeBytes : Int) = size := by
  unfold ManifestEntry.make at h
  by_cases hneg : size < 0
  · rw [if_pos hneg] at h
    cases h
  · rw [if_neg hneg] at h
    cases h
    exact Int.toNat_of_nonneg (Int.not_lt.mp hneg)

theorem ManifestEntryRequest.sizeBytes_of_entry {request : ManifestEntryRequest}
    {e : ManifestEntry} (h : request.entry = .ok e) : (e.sizeBytes : Int) = request.sizeBytes := by
  unfold ManifestEntryRequest.entry Manifest.parseEntry at h
  cases hpath : RelativePath.parse request.relativePath with
  | error _ =>
      rw [hpath] at h
      cases h
  | ok path =>
      cases hdigest : Sha256Digest.parse (Manifest.digestText request.sha256) with
      | error _ =>
          rw [hpath, hdigest] at h
          cases h
      | ok digest =>
          rw [hpath, hdigest] at h
          exact sizeBytes_of_make h

theorem sizes_of_entries {requests : List ManifestEntryRequest} {entries : List ManifestEntry}
    (h : requests.mapM ManifestEntryRequest.entry = .ok entries) :
    ((entries.map ManifestEntry.sizeBytes).sum : Int) =
      (requests.map ManifestEntryRequest.sizeBytes).sum := by
  induction requests generalizing entries with
  | nil =>
      cases h
      rfl
  | cons request requests ih =>
      rw [List.mapM_cons] at h
      cases hentry : request.entry with
      | error _ =>
          rw [hentry] at h
          cases h
      | ok e =>
          rw [hentry] at h
          cases hrest : requests.mapM ManifestEntryRequest.entry with
          | error _ =>
              rw [hrest] at h
              cases h
          | ok rest =>
              rw [hrest] at h
              cases h
              rw [List.map_cons, List.sum_cons, List.map_cons, List.sum_cons, ← ih hrest,
                ← ManifestEntryRequest.sizeBytes_of_entry hentry]
              exact Nat.cast_add _ _

/-- The manifest of an admitted request was built, and its logical bytes are the supplied ones. -/
theorem ManifestRegisterRequest.build_of_manifest {request : ManifestRegisterRequest}
    {m : Manifest} (h : request.manifest = .ok m) :
    (∃ supplied, Manifest.build supplied = .ok m) ∧
      (m.logicalBytes : Int) = request.totalBytes := by
  unfold ManifestRegisterRequest.manifest at h
  cases hentries : request.entries.mapM ManifestEntryRequest.entry with
  | error _ =>
      rw [hentries] at h
      cases h
  | ok supplied =>
      rw [hentries] at h
      have hbuild : Manifest.build supplied = .ok m := h
      obtain ⟨hsorted, _⟩ := Manifest.build_spec hbuild
      refine ⟨⟨supplied, hbuild⟩, ?_⟩
      have hperm := List.perm_insertionSort Manifest.pathLe supplied
      unfold Manifest.logicalBytes ManifestRegisterRequest.totalBytes
      rw [hsorted, (hperm.map ManifestEntry.sizeBytes).sum_eq]
      exact sizes_of_entries hentries

end RoboLake
