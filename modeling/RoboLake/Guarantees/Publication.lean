import RoboLake.Registry.Coupling

/-! # Publication

A READY Version stands for complete content and stays as it is; an AVAILABLE
multipart Blob has one verified completion and takes no further attempt.
-/

namespace RoboLake

open Foundation Store Migrations

/-! ## READY Versions -/

section Ready

variable [Platform] {r : Registry}

/-- The content a READY Version promises. -/
structure ReadyContent (db : Database) (v : DatasetVersionModel) : Prop where
  available : ∀ e ∈ db.entriesOf v.id, ∃ b, db.blobs.get? e.blobId = some b ∧ b.state = .available
  manifest : ∃ canonical, Manifest.fromCanonicalBytes v.manifestBytes = .ok canonical ∧
    SummariesMatch v canonical

theorem ready_of_effect {env : Env} {op : Operation} {db : Database} (heffect : Effect env r op db)
    {v : DatasetVersionModel} (hv : v ∈ db.versions.rows) (hready : v.state = .ready) :
    v ∈ r.db.versions.rows ∨
      (db.entries = r.db.entries ∧ db.blobs = r.db.blobs ∧ ¬HasUnavailableBlob r.db v.id ∧
        ∃ canonical, Manifest.fromCanonicalBytes v.manifestBytes = .ok canonical ∧
          SummariesMatch v canonical) := by
  cases heffect with
  | @versionRegistered _ _ _ _ _ v' _ _ _ _ _ _ hv' hfree =>
      rcases (Relation.mem_insert hfree).mp hv with hv | rfl
      · exact Or.inl hv
      · rw [hv'] at hready
        cases hready
  | @uploadStarted _ _ v' _ _ _ _ _ hv' =>
      rcases Relation.mem_replace hv with rfl | ⟨hv, _⟩
      · unfold startedVersion at hready ⊢
        split at hready
        · cases hready
        · rename_i hstate
          rw [if_neg hstate]
          exact Or.inl (Relation.mem_of_get? hv')
      · exact Or.inl hv
  | uploadFailed _ _ _ _ _ hv' _ =>
      rcases Relation.mem_replace hv with rfl | ⟨hv, _⟩
      · cases hready
      · exact Or.inl hv
  | uploadRestarted _ _ _ _ _ _ _ =>
      rcases Relation.mem_replace hv with rfl | ⟨hv, _⟩
      · cases hready
      · exact Or.inl hv
  | versionFinalized hv' _ hcanonical hmatch havailable =>
      rcases Relation.mem_replace hv with rfl | ⟨hv, _⟩
      · exact Or.inr ⟨rfl, rfl, havailable, _, hcanonical, hmatch⟩
      · exact Or.inl hv
  | _ => exact Or.inl hv

theorem readyContent_of_reachable (h : store.Reachable r) :
    ∀ v ∈ r.db.versions.rows, v.state = .ready → ReadyContent r.db v := by
  refine reachable_induction
    (I := fun r => ∀ v ∈ r.db.versions.rows, v.state = .ready → ReadyContent r.db v)
    (fun _ hv => by cases hv) ?_ h
  intro env r op db hcommitted _ hextends heffect hI v hv hready
  rcases ready_of_effect heffect hv hready with hold | ⟨hentries, hblobs, havailable, hmanifest⟩
  · obtain ⟨havailable, hmanifest⟩ := hI v hold hready
    refine ⟨fun e he => ?_, hmanifest⟩
    obtain ⟨he, hev⟩ := Database.mem_entriesOf.mp he
    rcases hextends.sealed e he with he | hunsealed
    · obtain ⟨b, hb, ha⟩ := havailable e (Database.mem_entriesOf.mpr ⟨he, hev⟩)
      obtain ⟨b', hb', hlater⟩ := hextends.blobs _ b hb
      rw [hlater.available ha] at hb'
      exact ⟨b, hb', ha⟩
    · exact absurd (hunsealed v (hev ▸ Relation.get?_of_mem hold)) (hcommitted.sealed v hold)
  · refine ⟨fun e he => ?_, hmanifest⟩
    rw [Database.entriesOf, hentries] at he
    obtain ⟨b, hb⟩ := hcommitted.lawful.entry_blob.get (List.mem_filter.mp he).1
    rw [hblobs]
    refine ⟨b, hb, by_contra fun ha => havailable ⟨b, ?_, ha⟩⟩
    exact List.mem_filterMap.mpr ⟨e, he, hb⟩

/-- A READY Version has complete, matching content, and nothing that runs later changes it. -/
theorem ready_version_is_published (h : store.Reachable r) {v : DatasetVersionModel}
    (hv : v ∈ r.db.versions.rows) (hready : v.state = .ready) :
    (∀ e ∈ r.db.entriesOf v.id, ∃ b, r.db.blobs.get? e.blobId = some b ∧ b.state = .available) ∧
    (∃ canonical, Manifest.fromCanonicalBytes v.manifestBytes = .ok canonical ∧
      canonical.sha256 = v.manifestSha256 ∧ canonical.fileCount = v.fileCount ∧
      canonical.logicalBytes = v.logicalBytes ∧ canonical.uniqueBlobCount = v.uniqueBlobCount ∧
      canonical.uniqueBlobBytes = v.uniqueBlobBytes) ∧
    ∀ calls, (store.runFrom r calls).db.versions.get? v.id = some v ∧
      (∀ e, e ∈ (store.runFrom r calls).db.entriesOf v.id ↔ e ∈ r.db.entriesOf v.id) ∧
      ∀ e ∈ r.db.entriesOf v.id,
        (store.runFrom r calls).db.blobs.get? e.blobId = r.db.blobs.get? e.blobId := by
  obtain ⟨havailable, hmanifest⟩ := readyContent_of_reachable h v hv hready
  refine ⟨havailable, hmanifest, fun calls => ?_⟩
  have hextends := extends_of_run_store h calls
  have hget := Relation.get?_of_mem hv
  refine ⟨?_, fun e => ?_, fun e he => ?_⟩
  · obtain ⟨v', hv', hlater⟩ := hextends.versions _ v hget
    rw [hlater.ready hready] at hv'
    exact hv'
  · simp only [Database.mem_entriesOf]
    constructor
    · rintro ⟨he, hev⟩
      rcases hextends.sealed e he with he | hunsealed
      · exact ⟨he, hev⟩
      · exact absurd (hunsealed v (hev ▸ hget)) ((committed_of_reachable h).sealed v hv)
    · rintro ⟨he, hev⟩
      obtain ⟨e', he', rfl⟩ := hextends.entries _ e (Relation.get?_of_mem he)
      exact ⟨Relation.mem_of_get? he', hev⟩
  · obtain ⟨b, hb, ha⟩ := havailable e he
    obtain ⟨b', hb', hlater⟩ := hextends.blobs _ b hb
    rw [hb', hb, hlater.available ha]

end Ready

namespace Sample

def publication : List Call :=
  registration ++
  [⟨.prepareUpload 200 fileDigest "upload" manifestDigest, env 3⟩,
   ⟨.markUploadInProgress 300, env 4⟩,
   ⟨.markUploadVerified 300 none, env 5⟩,
   ⟨.finalizeVersion 200, env 6⟩]

set_option maxRecDepth 100000 in
theorem sample_version_is_published :
    ∃ v, (store.runFrom store.start publication).db.versions.get? 200 = some v ∧
      v.state = .ready ∧ ∀ e ∈ (store.runFrom store.start publication).db.entriesOf v.id,
        ∃ b, (store.runFrom store.start publication).db.blobs.get? e.blobId = some b ∧
          b.state = .available := by
  have hready : ((store.runFrom store.start publication).db.versions.get? 200).any
      (fun v => v.state = .ready) = true := by decide +kernel
  obtain ⟨v, hv, hv'⟩ := (Option.any_eq_true _ _).mp hready
  have hstate : v.state = .ready := by simpa using hv'
  exact ⟨v, hv, hstate,
    (ready_version_is_published ⟨publication, rfl⟩ (Relation.mem_of_get? hv) hstate).1⟩

end Sample

/-! ## AVAILABLE multipart Blobs -/

section Gate

variable [Platform] {r : Registry}

omit [Platform] in
theorem SessionState.Fits.terminal {strategy : UploadStrategy} {state : SessionState}
    (h : state.Fits strategy .available) : state.isTerminal = true := by
  cases state <;> simp [Fits, isTerminal] at h ⊢

theorem terminal_of_available {db : Database} (h : Coupled db) {b : BlobModel}
    (hb : b ∈ db.blobs.rows) (ha : b.state = .available) {u : UploadSessionModel}
    (hu : u ∈ db.sessions.rows) (hub : u.blobId = b.id) : u.state.isTerminal = true := by
  have hfits := h.fits u hu b (hub ▸ Relation.get?_of_mem hb)
  rw [ha] at hfits
  exact hfits.terminal

/-- AVAILABLE content keeps its row and its sessions through every run. -/
theorem sessions_of_available (h : store.Reachable r) {b : BlobModel} (hb : b ∈ r.db.blobs.rows)
    (ha : b.state = .available) (calls : List Call) :
    b ∈ (store.runFrom r calls).db.blobs.rows ∧
      ∀ u, u.blobId = b.id →
        (u ∈ (store.runFrom r calls).db.sessions.rows ↔ u ∈ r.db.sessions.rows) := by
  induction calls generalizing r with
  | nil => exact ⟨hb, fun _ _ => Iff.rfl⟩
  | cons c calls ih =>
      have hcommitted := committed_of_reachable h
      have hextends := extends_of_step c hcommitted
      have hnext : b ∈ (c.step r).db.blobs.rows := by
        obtain ⟨b', hb', hlater⟩ := hextends.blobs _ b (Relation.get?_of_mem hb)
        rw [hlater.available ha] at hb'
        exact Relation.mem_of_get? hb'
      obtain ⟨hlast, hsame⟩ := ih (h.step c) hnext
      refine ⟨hlast, fun u hub => (hsame u hub).trans ⟨fun hu => ?_, fun hu => ?_⟩⟩
      · have hterminal := terminal_of_available (coupled_of_reachable (h.step c)) hnext ha hu hub
        cases session_of_effect (effect_of_step c r) hu with
        | kept hu => exact hu
        | singlePut hcreated _ _ =>
            rw [hcreated] at hterminal
            cases hterminal
        | multipart hrow _ _ _ _ _ _ _ =>
            rw [hrow] at hterminal
            cases hterminal
        | @moved u₀ hu₀ hactive =>
            -- The row before belonged to the same Blob, so it was terminal as well.
            obtain ⟨u₁, hu₁, hlater⟩ := hextends.sessions _ u₀ hu₀
            have hu' : (c.step r).db.sessions.get? u.id = some u := Relation.get?_of_mem hu
            rw [hu'] at hu₁
            cases hu₁
            have hbefore := terminal_of_available (coupled_of_reachable h) hb ha
              (Relation.mem_of_get? hu₀) (hlater.blob ▸ hub)
            exact hlater.terminal hbefore ▸ Relation.mem_of_get? hu₀
      · obtain ⟨u', hu', hlater⟩ := hextends.sessions _ u (Relation.get?_of_mem hu)
        have hterminal := terminal_of_available (coupled_of_reachable h) hb ha hu hub
        rw [hlater.terminal hterminal] at hu'
        exact Relation.mem_of_get? hu'

def CompletedMultipart (db : Database) (b : BlobModel) (u : UploadSessionModel) : Prop :=
  u ∈ db.sessions.rows ∧ u.blobId = b.id ∧ u.strategy = .multipart ∧ u.state = .completed

/-- The evidence a published session carries for its Blob. -/
def VerifiedFor (b : BlobModel) (u : UploadSessionModel) : Prop :=
  u.completionPhase = some .finalVerification ∧
    u.verificationMethod = some .fullStreamSha256 ∧ u.observedSha256 = some b.sha256 ∧
    u.observedSizeBytes = some b.sizeBytes ∧ u.verificationReadBytes = some b.sizeBytes

theorem completed_of_available (hcommitted : Committed r.db) (hcoupled : Coupled r.db)
    {b : BlobModel} (hb : b ∈ r.db.blobs.rows) (hm : HasMultipart r.db b.id)
    (ha : b.state = .available) {u : UploadSessionModel} (hu : u ∈ r.db.sessions.rows)
    (hub : u.blobId = b.id) (huc : u.state = .completed) :
    u.strategy = .multipart ∧ VerifiedFor b u := by
  obtain ⟨x, hx, hvalid⟩ := (hcommitted.published b hb hm).evidence ha
  obtain ⟨⟨hxb, hxm, hxc⟩, hphase, hmethod, hsha, hsize, hread, _⟩ :=
    isValidCompletion_holds.mp hvalid
  have hux : u = x := hcoupled.completed_unique u hu x hx b.id
    (completedKey_eq_some.mpr ⟨huc, hub⟩) (completedKey_eq_some.mpr ⟨hxc, hxb⟩)
  subst hux
  exact ⟨hxm, hphase, hmethod, hsha, hsize, hread⟩

/-- A multipart Blob is AVAILABLE exactly when one of its multipart sessions is COMPLETED; that
session carries the evidence, the others are terminal, and nothing that runs later adds a session
or changes one. -/
theorem multipart_publication_gate (h : store.Reachable r) {b : BlobModel}
    (hb : b ∈ r.db.blobs.rows) (hm : HasMultipart r.db b.id) :
    (b.state = .available ↔ ∃! u, CompletedMultipart r.db b u) ∧
    ∀ u, CompletedMultipart r.db b u →
      VerifiedFor b u ∧
      (∀ x ∈ r.db.sessions.rows, x.blobId = b.id → x ≠ u → x.state.isTerminal = true) ∧
      ∀ calls, b ∈ (store.runFrom r calls).db.blobs.rows ∧
        ∀ x, x.blobId = b.id →
          (x ∈ (store.runFrom r calls).db.sessions.rows ↔ x ∈ r.db.sessions.rows) := by
  have hcommitted := committed_of_reachable h
  have hcoupled := coupled_of_reachable h
  have havailable : ∀ u, CompletedMultipart r.db b u → b.state = .available :=
    fun u ⟨hu, hub, hum, huc⟩ => (hcommitted.published b hb hm).completed u hu hub hum huc
  refine ⟨⟨fun ha => ?_, fun ⟨u, hu, _⟩ => havailable u hu⟩, fun u hu => ?_⟩
  · obtain ⟨u, hu, hub, huc⟩ := hcoupled.completed b hb ha
    obtain ⟨hum, _⟩ := completed_of_available hcommitted hcoupled hb hm ha hu hub huc
    refine ⟨u, ⟨hu, hub, hum, huc⟩, fun x ⟨hx, hxb, _, hxc⟩ => ?_⟩
    exact hcoupled.completed_unique x hx u hu b.id
      (completedKey_eq_some.mpr ⟨hxc, hxb⟩) (completedKey_eq_some.mpr ⟨huc, hub⟩)
  · have ha := havailable u hu
    obtain ⟨hmem, hub, _, huc⟩ := hu
    exact ⟨(completed_of_available hcommitted hcoupled hb hm ha hmem hub huc).2,
      fun x hx hxb _ => terminal_of_available hcoupled hb ha hx hxb,
      sessions_of_available h hb ha⟩

end Gate

namespace Sample

/-- The published Blob has its one COMPLETED session, and both stay. -/
theorem sample_blob_is_gated :
    ∃ b, (store.runFrom store.start published).db.blobs.get? 201 = some b ∧
      (∃! u, CompletedMultipart (store.runFrom store.start published).db b u) ∧
      ∃ u, CompletedMultipart (store.runFrom store.start published).db b u ∧ VerifiedFor b u ∧
        (∀ x ∈ (store.runFrom store.start published).db.sessions.rows, x.blobId = b.id → x ≠ u →
          x.state.isTerminal = true) ∧
        ∀ calls, b ∈ (store.runFrom (store.runFrom store.start published) calls).db.blobs.rows ∧
          ∀ x, x.blobId = b.id →
            (x ∈ (store.runFrom (store.runFrom store.start published) calls).db.sessions.rows ↔
              x ∈ (store.runFrom store.start published).db.sessions.rows) := by
  obtain ⟨_, hsession, hblob⟩ := published_facts
  obtain ⟨b, hb, havailable⟩ := (Option.any_eq_true _ _).mp hblob
  obtain ⟨u, hu, hrow⟩ := (Option.any_eq_true _ _).mp hsession
  obtain ⟨hub, hmultipart, _⟩ := of_decide_eq_true hrow
  have hid : b.id = 201 := Relation.key_of_get? hb
  have hm : HasMultipart (store.runFrom store.start published).db b.id :=
    ⟨u, Relation.mem_of_get? hu, hub.trans hid.symm, hmultipart⟩
  obtain ⟨hgate, hcarries⟩ :=
    multipart_publication_gate reachable_published (Relation.mem_of_get? hb) hm
  have hunique := hgate.mp (of_decide_eq_true havailable)
  refine ⟨b, hb, hunique, ?_⟩
  obtain ⟨x, hx, _⟩ := hunique
  exact ⟨x, hx, hcarries x hx⟩

end Sample

end RoboLake
