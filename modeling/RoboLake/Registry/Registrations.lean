import RoboLake.Domain.Collisions
import RoboLake.Foundation.Distinct
import RoboLake.Registry.Reachable

/-! # Registered manifests

The entries of a Version are the entries of the manifest it stores, one row each, and
every row's Blob has the digest and the size its entry names. Blobs are shared and
move, but the columns a manifest names never change.
-/

namespace RoboLake

open Foundation Store Migrations

variable [Platform] {env : Env} {r : Registry} {op : Operation} {db : Database}

/-! ## Entry rows -/

/-- The Version stores a manifest and has its entry rows. -/
structure Registered (db : Database) (v : DatasetVersionModel) (m : Manifest) : Prop where
  loads : Manifest.fromCanonicalBytes v.manifestBytes = .ok m
  summaries : SummariesMatch v m
  rows : List.Forall₂ (EntryOf v.id db.blobs) m.entries.zipIdx (db.entriesOf v.id)

theorem EntryOf.later {versionId : UUID} {blobs blobs' : Relation BlobModel}
    {item : ManifestEntry × Nat} {row : DatasetEntryModel} (h : EntryOf versionId blobs item row)
    (hlater : Relation.Later BlobLater blobs blobs') : EntryOf versionId blobs' item row := by
  obtain ⟨hv, ho, hp, b, hb, hsha, hsize⟩ := h
  obtain ⟨b', hb', hkept⟩ := hlater _ b hb
  exact ⟨hv, ho, hp, b', hb', hkept.sha256.trans hsha, hkept.sizeBytes.trans hsize⟩

theorem versionId_of_entryOf {versionId : UUID} {blobs : Relation BlobModel}
    {items : List (ManifestEntry × Nat)} {rows : List DatasetEntryModel}
    (h : List.Forall₂ (EntryOf versionId blobs) items rows) :
    ∀ e ∈ rows, e.datasetVersionId = versionId := by
  induction h with
  | nil => nofun
  | cons hrow _ ih =>
      intro e he
      rcases List.mem_cons.mp he with rfl | he
      · exact hrow.1
      · exact ih e he

theorem entriesOf_of_effect (heffect : Effect env r op db) {v : DatasetVersionModel}
    (hv : r.db.versions.get? v.id = some v) :
    db.entriesOf v.id = r.db.entriesOf v.id := by
  cases heffect with
  | @versionRegistered _ _ _ _ _ v' _ _ _ news _ _ _ hfree _ _ hentries hnews =>
      have hnone : news.filter (fun e => e.datasetVersionId = v.id) = [] := by
        rw [List.filter_eq_nil_iff]
        intro e he hversion
        have hid : v'.id = v.id :=
          (versionId_of_entryOf hnews e he).symm.trans (of_decide_eq_true hversion)
        rw [hid, hv] at hfree
        cases hfree
      unfold Database.entriesOf
      simp only [entries_bind]
      rw [hentries, List.filter_append, hnone, List.append_nil]
  | _ => rfl

/-- A Version that a step adds is the row of the manifest that the step registers. -/
theorem registration_of_effect (heffect : Effect env r op db) {v : DatasetVersionModel}
    (hv : v ∈ db.versions.rows) (hnew : r.db.versions.get? v.id = none) :
    ∃ datasetId manifest key sha canonical id number sealedAt news,
      op = .registerVersion datasetId manifest key sha ∧
      Manifest.fromCanonicalBytes manifest.canonicalBytes = .ok canonical ∧
      canonical.sha256 = manifest.sha256 ∧
      v = { draftVersion id datasetId number canonical with sealedAt := some sealedAt } ∧
      db.entries.rows = r.db.entries.rows ++ news ∧
      List.Forall₂ (EntryOf v.id db.blobs) canonical.entries.zipIdx news := by
  have hget : db.versions.get? v.id = some v := Relation.get?_of_mem hv
  have hkept : r.db.versions.get? v.id ≠ some v := by
    rw [hnew]
    nofun
  have hreplaced : ∀ row, (r.db.versions.replace row).get? v.id ≠ some v := by
    intro row hrow
    rw [Relation.get?_replace, hnew] at hrow
    split at hrow <;> cases hrow
  cases heffect with
  | @versionRegistered _ _ _ _ _ v' _ _ _ _ hcanonical hsha hv' hfree _ _ hentries hnews =>
      rcases (Relation.mem_insert hfree).mp hv with hold | rfl
      · have hstored : r.db.versions.get? v.id = some v := Relation.get?_of_mem hold
        exact absurd hstored hkept
      · exact ⟨_, _, _, _, _, _, _, _, _, rfl, hcanonical, hsha, hv', hentries, hnews⟩
  | uploadStarted => exact absurd hget (hreplaced _)
  | uploadFailed => exact absurd hget (hreplaced _)
  | uploadRestarted => exact absurd hget (hreplaced _)
  | versionFinalized => exact absurd hget (hreplaced _)
  | _ => exact absurd hget hkept

theorem registered_of_new (heffect : Effect env r op db) (hlawful : Lawful r.db)
    {v : DatasetVersionModel} (hv : v ∈ db.versions.rows)
    (hnew : r.db.versions.get? v.id = none) : ∃ m, Registered db v m := by
  obtain ⟨_, _, _, _, m, _, _, _, news, _, hcanonical, _, hrow, hentries, hnews⟩ :=
    registration_of_effect heffect hv hnew
  have hold : r.db.entries.rows.filter (fun e => e.datasetVersionId = v.id) = [] := by
    rw [List.filter_eq_nil_iff]
    intro e he hversion
    obtain ⟨v₀, hv₀⟩ := hlawful.entry_version.get he
    rw [of_decide_eq_true hversion, hnew] at hv₀
    cases hv₀
  have hnews' : news.filter (fun e => e.datasetVersionId = v.id) = news := by
    rw [List.filter_eq_self]
    intro e he
    exact decide_eq_true (versionId_of_entryOf hnews e he)
  refine ⟨m, ?_, ?_, ?_⟩
  · rw [hrow]
    change Manifest.fromCanonicalBytes m.canonicalBytes = .ok m
    rw [Manifest.canonicalBytes_of_fromCanonicalBytes hcanonical]
    exact hcanonical
  · rw [hrow]
    exact ⟨rfl, rfl, rfl, rfl, rfl⟩
  · unfold Database.entriesOf
    rw [hentries, List.filter_append, hold, hnews', List.nil_append]
    exact hnews

/-- A registered Version stays so: its content is sealed and its rows and Blobs are kept. -/
theorem Registered.later (heffect : Effect env r op db) (hextends : Extends r.db db)
    {v v' : DatasetVersionModel} {m : Manifest} (hsealed : v.sealedAt ≠ none)
    (hv : r.db.versions.get? v.id = some v) (hv' : db.versions.get? v.id = some v')
    (h : Registered r.db v m) : Registered db v' m := by
  obtain ⟨v'', hv'', hlater⟩ := hextends.versions _ v hv
  rw [hv'] at hv''
  cases hv''
  obtain ⟨_, _, _, hbytes, hsha, hfiles, hlogical, hblobs, hunique, _⟩ := hlater.content hsealed
  have hid : v'.id = v.id := Relation.key_of_get? hv'
  obtain ⟨hsha', hfiles', hlogical', hblobs', hunique'⟩ := h.summaries
  refine ⟨?_, ?_, ?_⟩
  · rw [hbytes]
    exact h.loads
  · exact ⟨hsha'.trans hsha.symm, hfiles'.trans hfiles.symm, hlogical'.trans hlogical.symm,
      hblobs'.trans hblobs.symm, hunique'.trans hunique.symm⟩
  · rw [hid, entriesOf_of_effect heffect hv]
    exact h.rows.imp fun _ _ hrow => hrow.later hextends.blobs

/-- Every stored Version is registered. -/
theorem registered_of_reachable (h : store.Reachable r) :
    ∀ v ∈ r.db.versions.rows, ∃ m, Registered r.db v m := by
  refine reachable_induction (I := fun r => ∀ v ∈ r.db.versions.rows, ∃ m, Registered r.db v m)
    (fun _ hv => by cases hv) ?_ h
  intro env r op db hcommitted _ hextends heffect hI v hv
  have hget : db.versions.get? v.id = some v := Relation.get?_of_mem hv
  cases hold : r.db.versions.get? v.id with
  | none => exact registered_of_new heffect hcommitted.lawful hv hold
  | some v₀ =>
      have hid : v₀.id = v.id := Relation.key_of_get? hold
      have hmem := Relation.mem_of_get? hold
      obtain ⟨m, hm⟩ := hI v₀ hmem
      exact ⟨m, hm.later heffect hextends (hcommitted.sealed v₀ hmem)
        (Relation.get?_of_mem hmem) (hid ▸ hget)⟩

/-! ## Blobs beside the manifest -/

def Carries (db : Database) (e : ManifestEntry) (b : BlobModel) : Prop :=
  b ∈ db.blobs.rows ∧ b.sha256 = e.sha256 ∧ b.sizeBytes = e.sizeBytes

/-- The Blobs of a registered Version carry its manifest entries in order. -/
theorem carries_of_rows {versionId : UUID} {entries : List ManifestEntry} {k : Nat}
    {rows : List DatasetEntryModel}
    (h : List.Forall₂ (EntryOf versionId db.blobs) (entries.zipIdx k) rows) :
    List.Forall₂ (Carries db) entries (rows.filterMap fun e => db.blobs.get? e.blobId) := by
  induction entries generalizing k rows with
  | nil =>
      cases h
      exact .nil
  | cons e entries ih =>
      rw [List.zipIdx_cons] at h
      cases h with
      | cons hrow hrest =>
          obtain ⟨_, _, _, b, hb, hsha, hsize⟩ := hrow
          rw [List.filterMap_cons, hb]
          exact .cons ⟨Relation.mem_of_get? hb, hsha, hsize⟩ (ih hrest)

theorem Registered.carries {v : DatasetVersionModel} {m : Manifest} (h : Registered db v m) :
    List.Forall₂ (Carries db) m.entries (entryBlobs db v.id) :=
  carries_of_rows h.rows

theorem mem_of_carries {es : List ManifestEntry} {bs : List BlobModel}
    (h : List.Forall₂ (Carries db) es bs) {b : BlobModel} (hb : b ∈ bs) :
    ∃ e ∈ es, Carries db e b := by
  induction h with
  | nil => cases hb
  | cons hfirst _ ih =>
      rcases List.mem_cons.mp hb with rfl | hb
      · exact ⟨_, List.mem_cons_self, hfirst⟩
      · obtain ⟨e, he, hcarries⟩ := ih hb
        exact ⟨e, List.mem_cons_of_mem _ he, hcarries⟩

theorem carried_of_mem {es : List ManifestEntry} {bs : List BlobModel}
    (h : List.Forall₂ (Carries db) es bs) {e : ManifestEntry} (he : e ∈ es) :
    ∃ b ∈ bs, Carries db e b := by
  induction h with
  | nil => cases he
  | cons hfirst _ ih =>
      rcases List.mem_cons.mp he with rfl | he
      · exact ⟨_, List.mem_cons_self, hfirst⟩
      · obtain ⟨b, hb, hcarries⟩ := ih he
        exact ⟨b, List.mem_cons_of_mem _ hb, hcarries⟩

theorem map_eq_of_carries {γ : Type} {f : ManifestEntry → γ} {g : BlobModel → γ}
    {es : List ManifestEntry} {bs : List BlobModel} (h : List.Forall₂ (Carries db) es bs)
    (heq : ∀ e b, Carries db e b → g b = f e) : bs.map g = es.map f := by
  induction h with
  | nil => rfl
  | cons hfirst _ ih => rw [List.map_cons, List.map_cons, heq _ _ hfirst, ih]

theorem digestSize_of_carries (hlawful : Lawful db) {es : List ManifestEntry} {bs : List BlobModel}
    (h : List.Forall₂ (Carries db) es bs) {e : ManifestEntry} (he : e ∈ es) :
    Manifest.digestSize es e.sha256 = e.sizeBytes := by
  have hconsistent : Manifest.ConsistentSizes es := by
    intro x hx y hy hsha
    obtain ⟨b, _, hb, hbsha, hbsize⟩ := carried_of_mem h hx
    obtain ⟨b', _, hb', hbsha', hbsize'⟩ := carried_of_mem h hy
    have hsame : b = b' := hlawful.blob_digest b hb b' hb' b'.sha256
      (congrArg some (by rw [hbsha, hsha, hbsha'])) rfl
    rw [← hbsize, hsame, hbsize']
  exact hconsistent.digestSize_eq he

theorem dedup_of_carries (hlawful : Lawful db) {es : List ManifestEntry} {bs : List BlobModel}
    (h : List.Forall₂ (Carries db) es bs) (size : Sha256Digest → Nat)
    (hsize : ∀ e ∈ es, size e.sha256 = e.sizeBytes) :
    ((bs.map fun b => (b.id, b.sizeBytes)).dedup).length = (Manifest.digests es).length ∧
      (((bs.map fun b => (b.id, b.sizeBytes)).dedup).map Prod.snd).sum =
        ((Manifest.digests es).map size).sum := by
  have hrows : ∀ b ∈ bs, b ∈ db.blobs.rows := by
    intro b hb
    obtain ⟨_, _, hcarries⟩ := mem_of_carries h hb
    exact hcarries.1
  have hsame : ∀ b ∈ bs, ∀ b' ∈ bs,
      (b.id, b.sizeBytes) = (b'.id, b'.sizeBytes) ↔ b.sha256 = b'.sha256 := by
    intro b hb b' hb'
    constructor
    · intro hpair
      have heq : b = b' := Relation.eq_of_key_eq (hrows b hb) (hrows b' hb')
        (congrArg Prod.fst hpair)
      rw [heq]
    · intro hsha
      have heq : b = b' := hlawful.blob_digest b (hrows b hb) b' (hrows b' hb') b'.sha256
        (congrArg some hsha) rfl
      rw [heq]
  have hdigests : Manifest.digests es = (bs.map BlobModel.sha256).dedup := by
    unfold Manifest.digests
    rw [map_eq_of_carries h fun _ _ hcarries => hcarries.2.1]
  obtain ⟨ys, hsub, hpairs, hshas⟩ := Distinct.exists_dedup_map hsame
  rw [hdigests, hpairs, hshas]
  refine ⟨by rw [List.length_map, List.length_map], ?_⟩
  rw [List.map_map, List.map_map]
  refine congrArg List.sum (List.map_congr_left ?_)
  intro b hb
  obtain ⟨e, he, _, hbsha, hbsize⟩ := mem_of_carries h (hsub hb)
  change b.sizeBytes = size b.sha256
  rw [hbsha, hsize e he, hbsize]

/-! ## Failure codes -/

/-- A Blob carries a failure code exactly while it is FAILED. -/
def FailuresCoded (db : Database) : Prop :=
  ∀ b ∈ db.blobs.rows, b.failureCode = none ↔ b.state ≠ .failed

theorem failuresCoded_of_effect (heffect : Effect env r op db) (h : FailuresCoded r.db) :
    FailuresCoded db := by
  cases heffect with
  | versionRegistered _ _ _ _ _ hblobs _ _ =>
      intro b hb
      rcases hblobs.fresh b hb with hold | ⟨_, hpending, hcode, _⟩
      · exact h b hold
      · rw [hpending, hcode]
        simp
  | uploadStarted _ _ _ hb _ =>
      refine Relation.forall_replace h ?_
      have hcoded := h _ (Relation.mem_of_get? hb)
      unfold startedBlob
      split
      · rename_i hpending
        rw [hpending] at hcoded
        simpa using hcoded
      · exact hcoded
  | uploadVerified _ _ _ hb hstate _ =>
      have hcoded := h _ (Relation.mem_of_get? hb)
      rw [hstate] at hcoded
      exact Relation.forall_replace h (by simpa using hcoded)
  | uploadFailed => exact Relation.forall_replace h (by simp)
  | uploadRestarted => exact Relation.forall_replace h (by simp)
  | providerRecorded _ _ _ _ hb hstate =>
      have hcoded := h _ (Relation.mem_of_get? hb)
      refine Relation.forall_replace h ?_
      rcases hstate with hstate | hstate <;>
      · rw [hstate] at hcoded
        simpa using hcoded
  | completionVerified _ _ _ _ _ hb hstate _ _ =>
      have hcoded := h _ (Relation.mem_of_get? hb)
      rw [hstate] at hcoded
      exact Relation.forall_replace h (by simpa using hcoded)
  | _ => exact h

theorem failuresCoded_of_reachable (h : store.Reachable r) : FailuresCoded r.db := by
  have hinitial : FailuresCoded Registry.initial.db := by
    intro b hb
    cases hb
  exact reachable_induction (I := fun r => FailuresCoded r.db) hinitial
    (fun _ _ _ _ _ _ _ heffect hr => failuresCoded_of_effect heffect hr) h

def VersionFailuresCoded (db : Database) : Prop :=
  ∀ v ∈ db.versions.rows, v.failureCode = none ↔ v.state ≠ .failed

theorem versionFailuresCoded_of_effect (heffect : Effect env r op db)
    (h : VersionFailuresCoded r.db) : VersionFailuresCoded db := by
  cases heffect with
  | versionRegistered _ _ hv hfree _ _ _ _ =>
      refine Relation.forall_insert h hfree ?_
      rw [hv]
      simp [draftVersion]
  | uploadStarted _ _ _ _ hv =>
      refine Relation.forall_replace h ?_
      have hcoded := h _ (Relation.mem_of_get? hv)
      unfold startedVersion
      split
      · simp
      · exact hcoded
  | uploadFailed => exact Relation.forall_replace h (by simp)
  | uploadRestarted => exact Relation.forall_replace h (by simp)
  | versionFinalized hv hstate _ _ _ =>
      have hcoded := h _ (Relation.mem_of_get? hv)
      refine Relation.forall_replace h ?_
      rcases hstate with hstate | hstate <;>
      · rw [hstate] at hcoded
        simpa using hcoded
  | _ => exact h

theorem versionFailuresCoded_of_reachable (h : store.Reachable r) : VersionFailuresCoded r.db := by
  have hinitial : VersionFailuresCoded Registry.initial.db := by
    intro v hv
    cases hv
  exact reachable_induction (I := fun r => VersionFailuresCoded r.db) hinitial
    (fun _ _ _ _ _ _ _ heffect hr => versionFailuresCoded_of_effect heffect hr) h

end RoboLake
