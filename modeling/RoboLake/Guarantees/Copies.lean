import RoboLake.Guarantees.Attestations
import RoboLake.Guarantees.Progress
import RoboLake.Guarantees.Requests
import RoboLake.Guarantees.Restores
import RoboLake.Guarantees.Scans

/-! # Copies

A push that returns has published the manifest of the directory it scanned, under the
reference it returns, and a pull of that reference restores the files of this manifest.
Other clients may use the services while either of them runs.
-/

namespace RoboLake

open Foundation Acting Store Work FileTree

variable [Platform] {α β ρ ω : Type} {texts : Set Bytes} {s s' : Scene}

/-! ## Programs that move a scene on -/

/-- Whatever comes of the program, its scene has only moved on. -/
def Advances (p : Served α) : Prop := ∀ s : Scene, store.Reachable s.registry → s.Follows (p s).2

theorem advances_pure (a : α) : Advances (pure a : Served α) := fun _ h => .refl h

theorem advances_throw (e : Failure) : Advances (throw e : Served α) := fun _ h => .refl h

theorem advances_call {tx : Tx α} (op : Operation) (hop : operationTx op = effect tx) :
    Advances (Served.call tx) := fun _ h => .call op hop (.refl h) rfl

theorem advances_bind {p : Served α} {f : α → Served β} (hp : Advances p)
    (hf : ∀ a, Advances (f a)) : Advances (p >>= f) := by
  intro s h
  have hfirst := hp s h
  rcases hrun : p s with ⟨x, s₁⟩
  rw [hrun] at hfirst
  cases x with
  | error e =>
      rw [Served.bind_of_error hrun]
      exact hfirst
  | ok a =>
      rw [Served.bind_of_ok hrun]
      exact hfirst.trans (hf a s₁ hfirst.reachable)

theorem advances_attest (sessionId : UUID) (blob : BlobRecord) (info : ObjectInfo)
    (etag : Option String) : Advances (TransferService.attest sessionId blob info etag) := by
  intro s h
  have hcompared : ∀ {x s₁}, TransferService.verifyObject blob info s = (x, s₁) →
      s.Follows s₁ := by
    intro x s₁ hverify
    rcases TransferService.verifyObject_scene hverify with rfl | rfl
    · exact .refl h
    · exact .next h
  have hrun := @TransferService.attest_run _ s sessionId blob info etag
  generalize TransferService.attest sessionId blob info etag s = out at hrun ⊢
  cases hrun with
  | verified hverify hcall =>
      exact (hcompared hverify).call (.markUploadVerified sessionId etag) rfl hcall
  | mismatched hverify hcall =>
      exact (hcompared hverify).call (.markUploadFailed sessionId _ _) rfl hcall
  | unread hverify _ => exact hcompared hverify

theorem advances_prepareUpload (versionId : UUID) (digest : Sha256Digest) (key : String) :
    Advances (TransferService.prepareUpload versionId digest key) := by
  intro s h
  have hfirst : ∀ {x s₁}, Served.call (Store.prepareUpload versionId digest key
      (uploadFingerprint versionId digest)) s = (x, s₁) → s.Follows s₁ :=
    fun hcall => (Scene.Follows.refl h).call (.prepareUpload versionId digest key _) rfl hcall
  have hlooked : ∀ {c s₁ found}, TransferService.PrepareLook versionId digest key s c s₁ found →
      s.Follows s₁.next :=
    fun hlook => (hfirst hlook.call).trans (.next (hfirst hlook.call).reachable)
  have hstarted : ∀ {c s₁ found session x s₂},
      TransferService.PrepareLook versionId digest key s c s₁ found →
      Served.call (markUploadInProgress session) s₁.next = (x, s₂) → s.Follows s₂ :=
    fun hlook hcall => (hlooked hlook).call (.markUploadInProgress _) rfl hcall
  have hattests : ∀ {s₁} (sessionId : UUID) (blob : BlobRecord) (info : ObjectInfo),
      s.Follows s₁ → s.Follows (TransferService.attest sessionId blob info info.etag s₁).2 :=
    fun sessionId blob info hs => hs.trans (advances_attest sessionId blob info _ _ hs.reachable)
  have hrun := @TransferService.prepareUpload_run _ s versionId digest key
  generalize TransferService.prepareUpload versionId digest key s = out at hrun ⊢
  cases hrun with
  | refused hcall => exact hfirst hcall
  | available hcall _ => exact hfirst hcall
  | unseen hlook => exact hlooked hlook
  | absent hlook _ => exact hlooked hlook
  | restarted hlook _ hcall =>
      exact (hlooked hlook).call (.restartFailedUpload versionId _ key _) rfl hcall
  | sessionless hlook _ => exact hlooked hlook
  | unstarted hlook _ _ hcall => exact hstarted hlook hcall
  | lost hlook _ _ hcall _ => exact hstarted hlook hcall
  | resumed hlook _ _ => exact hattests _ _ _ (hlooked hlook)
  | started hlook _ _ hcall _ => exact hattests _ _ _ (hstarted hlook hcall)

theorem advances_issueUploadUrl (service : TransferService) (sessionId : UUID) :
    Advances (service.issueUploadUrl sessionId) := by
  unfold TransferService.issueUploadUrl
  refine advances_bind (advances_call (.getUpload sessionId) rfl) fun context => ?_
  cases context.session with
  | none => exact advances_throw _
  | some session =>
      dsimp only
      split
      · refine advances_bind ?_ fun context => advances_pure _
        exact advances_call (.markUploadInProgress sessionId) rfl
      · exact advances_bind (advances_pure _) fun context => advances_pure _

theorem advances_completeUpload (sessionId : UUID) (etag : Option String) :
    Advances (TransferService.completeUpload sessionId etag) := by
  intro s h
  have hread : ∀ {x s₁}, Served.call (getUpload sessionId) s = (x, s₁) → s.Follows s₁ :=
    fun hcall => (Scene.Follows.refl h).call (.getUpload sessionId) rfl hcall
  have hlooked : ∀ {x s₁}, Served.call (getUpload sessionId) s = (x, s₁) → s.Follows s₁.next :=
    fun hcall => (hread hcall).trans (.next (hread hcall).reachable)
  have hrun := @TransferService.completeUpload_run _ s sessionId etag
  generalize TransferService.completeUpload sessionId etag s = out at hrun ⊢
  cases hrun with
  | refused hcall => exact hread hcall
  | unseen hcall _ => exact hlooked hcall
  | absent hcall _ => exact hlooked hcall
  | reported hcall _ =>
      exact (hlooked hcall).trans (advances_attest sessionId _ _ etag _ (hlooked hcall).reachable)

/-! ## Resolved files -/

/-- The program acts on the services only through programs that move their scene on. -/
def Moves (p : Acting Failure (ω × Scene) α) : Prop :=
  ∀ (s₀ : Scene) (s : ω × Scene), s₀.Follows s.2 →
    Ensures p s (fun _ s' => s₀.Follows s'.2) fun _ s' => s₀.Follows s'.2

theorem moves_pure (a : α) : Moves (pure a : Acting Failure (ω × Scene) α) := fun _ _ h => h

theorem moves_throw (e : Failure) : Moves (throw e : Acting Failure (ω × Scene) α) :=
  fun _ _ h => h

theorem moves_bind {p : Acting Failure (ω × Scene) α} {f : α → Acting Failure (ω × Scene) β}
    (hp : Moves p) (hf : ∀ a, Moves (f a)) : Moves (p >>= f) := by
  intro s₀ s h
  rw [ensures_bind]
  exact (hp s₀ s h).mono (fun a s' h' => hf a s₀ s' h') fun _ _ he => he

theorem moves_outside (p : Acting Failure ω α) :
    Moves (outside p : Acting Failure (ω × Scene) α) := by
  intro s₀ s h
  rw [ensures_outside]
  exact ensures_self.mono (fun _ _ _ => h) fun _ _ _ => h

theorem moves_inside {p : Served α} (hp : Advances p) :
    Moves (inside p : Acting Failure (ω × Scene) α) := by
  intro s₀ s h
  have hnext := hp s.2 h.reachable
  rw [ensures_inside]
  refine ensures_self.mono ?_ ?_
  · intro a t hrun
    rw [hrun] at hnext
    exact h.trans hnext
  · intro e t hrun
    rw [hrun] at hnext
    exact h.trans hnext

theorem moves_foldlM {γ : Type} {f : β → γ → Acting Failure (ω × Scene) β}
    (hf : ∀ b c, Moves (f b c)) (cs : List γ) (b : β) : Moves (cs.foldlM f b) := by
  induction cs generalizing b with
  | nil => exact moves_pure b
  | cons c cs ih =>
      rw [List.foldlM_cons]
      exact moves_bind (hf b c) ih

theorem moves_requireManifest (actual expected : Sha256Digest) :
    Moves (PushWorkflow.requireManifest actual expected : Acting Failure (ω × Scene) Unit) := by
  unfold PushWorkflow.requireManifest
  split
  · exact moves_throw _
  · exact moves_pure _

section Push

variable {service : TransferService} {scan : Acting Failure ω (ScannedDataset ρ)}
  {put : ρ → PresignedRequest → ManifestEntry → Acting Failure ω PutReceipt}
  {progress : ProgressEvent → Acting Failure ω Unit}

theorem moves_emit (kind : ProgressKind) (path : Option RelativePath) (tally : Tally)
    (m : Manifest) : Moves ((service.push scan put progress).emit kind path tally m) :=
  moves_outside _

theorem moves_transfer (m : Manifest) (file : ScannedFile ρ) (sessionId : UUID) (tally : Tally) :
    Moves ((service.push scan put progress).transfer m file sessionId tally) := by
  unfold PushWorkflow.transfer
  refine moves_bind (moves_emit _ _ _ _) fun _ => ?_
  refine moves_bind (moves_inside (advances_issueUploadUrl service sessionId)) fun request => ?_
  refine moves_bind (moves_outside _) fun receipt => ?_
  refine moves_bind (moves_inside (advances_completeUpload sessionId _)) fun completed => ?_
  refine moves_bind (moves_requireManifest _ _) fun _ => ?_
  split
  · exact moves_throw _
  · exact moves_bind (moves_emit _ _ _ _) fun _ => moves_pure _

theorem moves_resolve (m : Manifest) (version : VersionRecord) (tally : Tally)
    (file : ScannedFile ρ) :
    Moves ((service.push scan put progress).resolve m version tally file) := by
  unfold PushWorkflow.resolve
  refine moves_bind (moves_inside (advances_prepareUpload _ _ _)) fun preparation => ?_
  refine moves_bind (moves_requireManifest _ _) fun _ => ?_
  split
  · exact moves_throw _
  · split
    · exact moves_bind (moves_emit _ _ _ _) fun _ => moves_pure _
    · split
      · exact moves_throw _
      · exact moves_transfer _ _ _ _

/-! ## Stored Versions -/

/-- The scene stores the row, which has the Dataset's name and the manifest's bytes. -/
structure Holds (dataset : DatasetName) (m : Manifest) (v : DatasetVersionModel) (s : Scene) :
    Prop where
  reachable : store.Reachable s.registry
  stored : s.registry.db.versions.get? v.id = some v
  named : ∃ d, s.registry.db.datasets.get? v.datasetId = some d ∧ d.name = dataset
  bytes : v.manifestBytes = m.canonicalBytes

variable {dataset : DatasetName} {m : Manifest} {v : DatasetVersionModel}

theorem Holds.later (h : Holds dataset m v s) (hfollows : s.Follows s') :
    ∃ v', Holds dataset m v' s' ∧ v'.id = v.id ∧ v'.datasetId = v.datasetId := by
  obtain ⟨v', hv', hlater⟩ := hfollows.later.versions _ v h.stored
  have hsealed := (committed_of_reachable h.reachable).sealed v (Relation.mem_of_get? h.stored)
  obtain ⟨hdataset, _, _, hbytes, _⟩ := hlater.content hsealed
  obtain ⟨d, hd, hname⟩ := h.named
  obtain ⟨d', hd', rfl⟩ := hfollows.later.datasets _ d hd
  have hid : v'.id = v.id := Relation.key_of_get? hv'
  refine ⟨v', ⟨hfollows.reachable, ?_, ⟨d, ?_, hname⟩, hbytes.trans h.bytes⟩, hid, hdataset⟩
  · rw [hid]
    exact hv'
  · rw [hdataset]
    exact hd'

/-- The scene stores a READY Version with the manifest's bytes under the reference. -/
def HasPublished (reference : DatasetReference) (m : Manifest) (s : Scene) : Prop :=
  ∃ v, Holds reference.dataset m v s ∧ v.state = .ready ∧
    v.versionNumber = reference.versionNumber

/-! ## The push -/

theorem ensures_call {tx : Tx α} :
    Ensures (Served.call tx) s
      (fun a s' => (∃ t, run tx (beginTx (s.turns 0).env s.next.registry) = .ok (a, t) ∧
        s'.registry.db = t.db) ∧ s' = (Served.call tx s).2) fun _ _ => True := by
  refine ensures_self.mono ?_ fun _ _ _ => trivial
  intro a s' hrun
  refine ⟨(run_of_call hrun).1, ?_⟩
  rw [hrun]

theorem reference_of_result {version : VersionRecord} {a b c d : Nat} {result : PushResult}
    (h : PushWorkflow.result version a b c d = .ok result) :
    result.reference = version.reference := by
  unfold PushWorkflow.result at h
  split at h
  · cases h
  · cases h
    rfl

theorem ensures_result {version : VersionRecord} {a b c d : Nat} {s : ω × Scene}
    (hname : dataset = version.datasetName) (h : HasPublished version.reference m s.2) :
    Ensures (MonadExcept.ofExcept (PushWorkflow.result version a b c d) :
        Acting Failure (ω × Scene) PushResult) s
      (fun result s' => result.reference.dataset = dataset ∧ HasPublished result.reference m s'.2)
      fun _ _ => True := by
  rw [ensures_ofExcept]
  cases hresult : PushWorkflow.result version a b c d with
  | error e => exact trivial
  | ok result =>
      have hreference := reference_of_result hresult
      simp only
      rw [hreference]
      exact ⟨hname.symm, h⟩

theorem ensures_requireManifest {actual expected : Sha256Digest} {s : ω × Scene} :
    Ensures (PushWorkflow.requireManifest actual expected : Acting Failure (ω × Scene) Unit) s
      (fun _ s' => s' = s) fun _ _ => True := by
  unfold PushWorkflow.requireManifest
  split
  · exact trivial
  · rfl

theorem ensures_publish {scanned : ScannedDataset ρ} {name : DatasetName} {s : ω × Scene}
    (h : Holds dataset m v s.2) :
    Ensures ((service.push scan put progress).publish scanned (versionRecord v name)) s
      (fun result s' => result.reference.dataset = dataset ∧ HasPublished result.reference m s'.2)
      fun _ _ => True := by
  unfold PushWorkflow.publish
  rw [ensures_bind]
  refine (moves_foldlM (moves_resolve _ _) _ _ s.2 s (.refl h.reachable)).mono ?_
    fun _ _ _ => trivial
  intro tally s₁ hloop
  rw [ensures_bind]
  refine (moves_emit _ _ _ _ s.2 s₁ hloop).mono ?_ fun _ _ _ => trivial
  intro _ s₂ hfollows
  obtain ⟨v₂, h₂, hid, _⟩ := h.later hfollows
  rw [ensures_bind]
  change Ensures (Acting.inside (Served.call (finalizeVersion v.id))) _ _ _
  rw [ensures_inside, ← hid]
  refine ensures_call.mono ?_ fun _ _ _ => trivial
  intro record s₃ hcall
  obtain ⟨⟨t, hrun, hdb⟩, hscene⟩ := hcall
  obtain ⟨v₃, d, hid₃, hv₃, hready, hd, rfl⟩ := run_finalizeVersion_ok hrun
  have hmoved : s₂.2.Follows s₃ := by
    rw [hscene]
    exact (Scene.Follows.refl h₂.reachable).call (.finalizeVersion v₂.id) rfl rfl
  obtain ⟨v', h', hid', hdataset'⟩ := h₂.later hmoved
  -- The finalized row is the one that was registered.
  have hsame : v₃ = v' := by
    have hstored := h'.stored
    rw [hid', ← hid₃, hdb, hv₃] at hstored
    exact Option.some.inj hstored
  subst hsame
  have hname : d.name = dataset := by
    obtain ⟨v'', h'', _, hdataset''⟩ := h₂.later (.next h₂.reachable)
    obtain ⟨d'', hd'', hname''⟩ := h''.named
    rw [hdataset'', ← hdataset'] at hd''
    have hread : s₂.2.next.registry.db.datasets.get? v₃.datasetId = some d := hd
    rw [hd'', Option.some.injEq] at hread
    rw [← hread]
    exact hname''
  rw [ensures_bind]
  refine (ensures_requireManifest).mono ?_ fun _ _ _ => trivial
  intro _ s₄ hs₄
  rw [hs₄]
  split
  · exact trivial
  · subst hname
    exact ensures_result rfl ⟨v₃, h', hready, rfl⟩

theorem ensures_registerVersion (hnamed : OnlyNamed texts s) {d : DatasetModel}
    (hd : s.registry.db.datasets.get? d.id = some d) (hname : d.name = dataset) {key : String}
    (htext : Distinguished texts (framed (registrationFields d.id m)))
    (hbytes : Distinguished texts m.canonicalBytes) :
    Ensures (Served.call (RegistryService.registerVersion d.id m key)) s
      (fun record s' => ∃ v, Holds dataset m v s' ∧ record = versionRecord v dataset)
      fun _ _ => True := by
  refine ensures_call.mono ?_ fun _ _ _ => trivial
  intro record s₁ hcall
  obtain ⟨⟨t, hrun, hdb⟩, hscene⟩ := hcall
  obtain ⟨canonical, v, d', hcanonical, hsha, hv, hdataset, hdigest, hd', rfl⟩ :=
    run_registerVersion_record hnamed.next.bound htext hrun
  have hfollows : s.Follows s₁ := by
    rw [hscene]
    exact (Scene.Follows.refl hnamed.reachable).call (.registerVersion d.id m key _) rfl rfl
  have hnext : s.next.registry.db.datasets.get? d.id = some d' := hd'
  obtain ⟨d₁, hd₁, rfl⟩ := (Scene.Follows.next hnamed.reachable).later.datasets _ d hd
  rw [hd₁, Option.some.injEq] at hnext
  subst hnext
  rw [hname]
  refine ⟨v, ⟨hfollows.reachable, ?_, ⟨d, ?_, hname⟩, ?_⟩, rfl⟩
  · rw [hdb]
    exact hv
  · obtain ⟨d₂, hd₂, rfl⟩ := hfollows.later.datasets _ d hd
    rw [hdataset]
    exact hd₂
  · obtain ⟨mv, hregistered⟩ := registered_of_reachable hfollows.reachable v
      (Relation.mem_of_get? (hdb ▸ hv))
    have hhash : sha256 v.manifestBytes = sha256 m.canonicalBytes := by
      rw [← sha256_of_fromCanonicalBytes hregistered.loads, hregistered.summaries.1, hdigest,
        ← hsha, sha256_of_fromCanonicalBytes hcanonical]
    have hcommitted := committed_of_reachable hnamed.next.reachable
    have heffect : Effect (s.turns 0).env s.next.registry (.registerVersion d.id m key
        (requestFingerprint (registrationFields d.id m))) s₁.registry.db := by
      rw [hscene]
      exact effect_of_call _ rfl
    have hextends : Extends s.next.registry.db s₁.registry.db := by
      rw [hscene]
      exact extends_of_transact hcommitted.lawful
    rcases manifest_of_effect heffect hextends hcommitted.sealed
      (Relation.mem_of_get? (hdb ▸ hv)) with ⟨v₀, hv₀, hstored⟩ | ⟨_, _, _, _, hop, hstored⟩
    · have hknown := hnamed.next.bound.manifests v₀ hv₀
      rw [← hstored] at hknown
      exact hbytes _ hknown hhash
    · cases hop
      exact hstored

theorem ensures_createDataset (hnamed : OnlyNamed texts s) {key : String}
    (hmem : framed (creationFields dataset) ∈ texts)
    (htext : Distinguished texts (framed (creationFields dataset))) :
    Ensures (Served.call (RegistryService.createDataset dataset key)) s
      (fun record s' => OnlyNamed texts s' ∧ ∃ d, s'.registry.db.datasets.get? d.id = some d ∧
        d.name = dataset ∧ record = datasetRecord d) fun _ _ => True := by
  refine ensures_call.mono ?_ fun _ _ _ => trivial
  intro record s₁ hcall
  obtain ⟨⟨t, hrun, hdb⟩, hscene⟩ := hcall
  obtain ⟨d, hd, hname, rfl⟩ := run_createDataset_ok hnamed.next.bound htext hrun
  refine ⟨?_, d, ?_, hname, rfl⟩
  · rw [hscene]
    exact hnamed.call (.createDataset dataset key _) rfl ⟨rfl, hmem⟩
  · rw [hdb]
    exact hd

/-- No other text that is hashed has the digest of one of the texts of a push. -/
structure TellsApart (texts : Set Bytes) (dataset : DatasetName) (m : Manifest) : Prop where
  known : framed (creationFields dataset) ∈ texts
  creation : Distinguished texts (framed (creationFields dataset))
  registration : ∀ id, Distinguished texts (framed (registrationFields id m))
  manifest : Distinguished texts m.canonicalBytes

/-- A push that returns has published the manifest of its scan. -/
theorem ensures_push {s : ω × Scene} (hnamed : OnlyNamed texts s.2)
    (hapart : ∀ scanned w, scan s.1 = (.ok scanned, w) →
      TellsApart texts dataset scanned.manifest) :
    Ensures ((service.push scan put progress).run dataset) s
      (fun result s' => result.reference.dataset = dataset ∧ ∃ scanned w,
        scan s.1 = (.ok scanned, w) ∧ HasPublished result.reference scanned.manifest s'.2)
      fun _ _ => True := by
  rw [PushWorkflow.run, ensures_bind]
  change Ensures (Acting.outside scan) s _ _
  rw [ensures_outside]
  refine ensures_self.mono ?_ fun _ _ _ => trivial
  intro scanned w hscan
  obtain ⟨hknown, hcreation, hregistration, hbytes⟩ := hapart scanned w hscan
  rw [ensures_bind]
  change Ensures (Acting.outside (progress _)) _ _ _
  rw [ensures_outside]
  refine ensures_self.mono ?_ fun _ _ _ => trivial
  intro _ w₁ _
  rw [ensures_bind]
  change Ensures (Acting.inside (Served.call (RegistryService.createDataset dataset _))) _ _ _
  rw [ensures_inside]
  refine (ensures_createDataset hnamed hknown hcreation).mono ?_ fun _ _ _ => trivial
  intro record s₁ hcreated
  obtain ⟨hnamed₁, d, hd, hname, rfl⟩ := hcreated
  rw [ensures_bind]
  change Ensures (Acting.inside (Served.call (RegistryService.registerVersion d.id _ _))) _ _ _
  rw [ensures_inside]
  refine (ensures_registerVersion hnamed₁ hd hname (hregistration d.id) hbytes).mono ?_
    fun _ _ _ => trivial
  intro record s₂ hregistered
  obtain ⟨v, hholds, rfl⟩ := hregistered
  rw [ensures_bind]
  refine ensures_requireManifest.mono ?_ fun _ _ _ => trivial
  intro _ s₃ hs₃
  rw [hs₃]
  have hdone : Ensures (if (versionRecord v dataset).state = .ready then
        MonadExcept.ofExcept (PushWorkflow.result (versionRecord v dataset) 0 0
          scanned.manifest.uniqueBlobCount scanned.manifest.uniqueBlobBytes)
      else (service.push scan put progress).publish scanned (versionRecord v dataset))
      (w₁, s₂) (fun result s' => result.reference.dataset = dataset ∧
        HasPublished result.reference scanned.manifest s'.2) fun _ _ => True := by
    by_cases hready : (versionRecord v dataset).state = .ready
    · rw [if_pos hready]
      exact ensures_result rfl ⟨v, hholds, hready, rfl⟩
    · rw [if_neg hready]
      exact ensures_publish hholds
  refine hdone.mono ?_ fun _ _ _ => trivial
  intro result s' hpublished
  exact ⟨hpublished.1, scanned, w, hscan, hpublished.2⟩

theorem HasPublished.complete {reference : DatasetReference} (h : HasPublished reference m s) :
    ∃ v canonical, v ∈ s.registry.db.versions.rows ∧ v.state = .ready ∧
      v.versionNumber = reference.versionNumber ∧
      (∃ d, s.registry.db.datasets.get? v.datasetId = some d ∧ d.name = reference.dataset) ∧
      Manifest.fromCanonicalBytes m.canonicalBytes = .ok canonical ∧
      v.manifestBytes = m.canonicalBytes ∧
      availableEntries s.registry.db canonical = canonical.entries := by
  obtain ⟨v, hholds, hready, hnumber⟩ := h
  have hv := Relation.mem_of_get? hholds.stored
  obtain ⟨canonical, hregistered⟩ := registered_of_reachable hholds.reachable v hv
  have hloads := hregistered.loads
  rw [hholds.bytes] at hloads
  exact ⟨v, canonical, hv, hready, hnumber, hholds.named, hloads, hholds.bytes,
    (ready_is_complete hholds.reachable hv hready hregistered).1⟩

/-- A push through the services that returns has published what it scanned: under the reference it
returns, the Dataset has a READY Version whose manifest has the bytes of the scanned one, and the
Blob of each of its entries is AVAILABLE. Other clients of the services may do whatever they want
in the meantime, and the transfers and the object store may answer whatever they want. -/
theorem service_push_publishes {s : ω × Scene} (hnamed : OnlyNamed texts s.2)
    (hapart : ∀ scanned w, scan s.1 = (.ok scanned, w) →
      TellsApart texts dataset scanned.manifest) :
    Ensures ((service.push scan put progress).run dataset) s
      (fun result s' => result.reference.dataset = dataset ∧ ∃ scanned w v canonical,
        scan s.1 = (.ok scanned, w) ∧ v ∈ s'.2.registry.db.versions.rows ∧ v.state = .ready ∧
        v.versionNumber = result.reference.versionNumber ∧
        (∃ d, s'.2.registry.db.datasets.get? v.datasetId = some d ∧ d.name = dataset) ∧
        Manifest.fromCanonicalBytes scanned.manifest.canonicalBytes = .ok canonical ∧
        v.manifestBytes = scanned.manifest.canonicalBytes ∧
        availableEntries s'.2.registry.db canonical = canonical.entries)
      fun _ _ => True := by
  refine (ensures_push hnamed hapart).mono ?_ fun _ _ he => he
  intro result s' hpushed
  obtain ⟨hdataset, scanned, w, hscan, hpublishes⟩ := hpushed
  obtain ⟨v, canonical, hv, hready, hnumber, hnamed, hcomplete⟩ := hpublishes.complete
  rw [hdataset] at hnamed
  exact ⟨hdataset, scanned, w, v, canonical, hscan, hv, hready, hnumber, hnamed, hcomplete⟩

/-! ## The pull -/

theorem HasPublished.ensures_resolveVersion {reference : DatasetReference}
    (h : HasPublished reference m s) :
    Ensures (Served.call (resolveVersion reference.dataset reference.versionNumber)) s
      (fun record s' => ∃ v name, record = versionRecord v name ∧
        v.manifestBytes = m.canonicalBytes ∧ store.Reachable s'.registry ∧
        s'.registry.db.versions.get? v.id = some v)
      fun e _ => ¬IsManifestMismatch e := by
  obtain ⟨v, hholds, hready, hnumber⟩ := h
  have hresolve := (ensures_self (p := Served.call (resolveVersion reference.dataset
    reference.versionNumber)) (s := s)).and
      (RoboLake.ensures_resolveVersion hholds.reachable reference)
  refine hresolve.mono ?_ fun _ _ he => he.2
  intro record s' hrecord
  obtain ⟨hrun, w, name, rfl, hname, hwnumber, hreachable, hw, d, hd, hdname⟩ := hrecord
  have hfollows : s.Follows s' := (Scene.Follows.refl hholds.reachable).call
    (.resolveVersion reference.dataset reference.versionNumber) rfl hrun
  obtain ⟨v', hv', hlater⟩ := hfollows.later.versions _ v hholds.stored
  rw [hlater.ready hready] at hv'
  obtain ⟨d', hd', hd'name⟩ := hholds.named
  obtain ⟨d'', hd'', rfl⟩ := hfollows.later.datasets _ d' hd'
  have hlawful := (committed_of_reachable hreachable).lawful
  have hsame : d = d' := hlawful.dataset_name d (Relation.mem_of_get? hd) d'
    (Relation.mem_of_get? hd'') _ (congrArg some (hdname.trans hname)) (congrArg some hd'name)
  have hdataset : w.datasetId = v.datasetId := by
    have hid : d.id = w.datasetId := Relation.key_of_get? hd
    have hid' : d'.id = v.datasetId := Relation.key_of_get? hd''
    rw [← hid, hsame, hid']
  have hrow : w = v := by
    refine hlawful.version_number w (Relation.mem_of_get? hw) v (Relation.mem_of_get? hv') _ ?_ rfl
    rw [numberKey, hdataset, hwnumber, ← hnumber]
  subst hrow
  exact ⟨w, name, rfl, hholds.bytes, hreachable, hw⟩

/-- Whatever READY Version the plane answers the reference with, its manifest is read from this
text. -/
def PullControlPlane.Publishes {σ : Type} (plane : PullControlPlane (Acting Failure σ))
    (reference : DatasetReference) (m : Manifest) (w : σ) : Prop :=
  Ensures (plane.resolve reference) w
    (fun version w₁ => version.state = .ready →
      Ensures (plane.manifest version.id) w₁
        (fun read _ => Manifest.fromCanonicalBytes m.canonicalBytes = .ok read) fun _ _ => True)
    fun _ _ => True

theorem HasPublished.publishes {reference : DatasetReference} {s : ω × Scene}
    (h : HasPublished reference m s.2) (service : TransferService) (signGet : SignGet) :
    (service.pullPlane signGet).inside.Publishes reference m s := by
  change Ensures (Acting.inside (Served.call (resolveVersion reference.dataset
    reference.versionNumber))) s _ _
  rw [ensures_inside]
  refine h.ensures_resolveVersion.mono ?_ fun _ _ _ => trivial
  intro record scene hrecord hready
  obtain ⟨v, name, rfl, hbytes, hreachable, hv⟩ := hrecord
  obtain ⟨loaded, hregistered⟩ := registered_of_reachable hreachable v (Relation.mem_of_get? hv)
  have hoffers : Offers v loaded scene := ⟨hreachable, hv, hready, hregistered.loads⟩
  obtain ⟨scene', hget, _⟩ := hoffers.getManifest
  change Ensures (Acting.inside (Served.call (Store.getManifest v.id))) _ _ _
  rw [ensures_inside, ← hbytes]
  exact .of_run hget hregistered.loads

/-- A pull restores the manifest that is published under the reference. -/
theorem ensures_pull_of_publishes {σ : Type} {sys : System σ}
    {plane : PullControlPlane (Acting Failure σ)} {reference : DatasetReference}
    {s : σ × TreeState} (h : plane.Publishes reference m s.1) :
    Ensures (PullWorkflow.run plane.outside (AtomicTreeDownloader.port sys) reference) s
      (fun result s' => s.2.output = none ∧ ∃ canonical t,
        Manifest.fromCanonicalBytes m.canonicalBytes = .ok canonical ∧
        s'.2.output = some t ∧ ExactTree canonical.entries t ∧
        result.materializedFileCount = canonical.fileCount)
      fun _ s' => s'.2.output = s.2.output := by
  refine (ensures_pull sys plane reference s).mono ?_ fun _ _ he => he
  intro result s' hpulled
  obtain ⟨hfree, version, w, read, w', canonical, t, ⟨hversion, hready⟩, ⟨hread, hcount⟩, hparse,
    _, _, houtput, hexact⟩ := hpulled
  have hloads := (h.of_ok hversion hready).of_ok hread
  -- What was read has the bytes of the text that it was read from.
  rw [Manifest.canonicalBytes_of_fromCanonicalBytes hloads, hloads] at hparse
  cases hparse
  exact ⟨hfree, read, t, hloads, houtput, hexact, hcount⟩

end Push

/-! ## Directories -/

omit [Platform] in
private theorem mem_of_forall₂ {R : α → β → Prop} {xs : List α} {ys : List β}
    (h : List.Forall₂ R xs ys) : (∀ x ∈ xs, ∃ y ∈ ys, R x y) ∧ ∀ y ∈ ys, ∃ x ∈ xs, R x y := by
  induction h with
  | nil => exact ⟨nofun, nofun⟩
  | @cons x y xs ys hR _ ih =>
      obtain ⟨hleft, hright⟩ := ih
      constructor
      · intro x' hx'
        rcases List.mem_cons.mp hx' with rfl | hx'
        · exact ⟨y, List.mem_cons_self, hR⟩
        · obtain ⟨y', hy', hR'⟩ := hleft x' hx'
          exact ⟨y', List.mem_cons_of_mem y hy', hR'⟩
      · intro y' hy'
        rcases List.mem_cons.mp hy' with rfl | hy'
        · exact ⟨x, List.mem_cons_self, hR⟩
        · obtain ⟨x', hx', hR'⟩ := hright y' hy'
          exact ⟨x', List.mem_cons_of_mem x hx', hR'⟩

/-- The tree has one file for each file that was read, at its normalized path, with the size it was
found with and the digest of what was read of it, and no other file. -/
structure CopyOf (readings : List (List PyStr × FileReading)) (t : FileTree PyStr Bytes) :
    Prop where
  wellFormed : WellFormed id t
  file : ∀ r ∈ readings, ∃ path content, RelativePath.parse (joinParts r.1) = .ok path ∧
    (segments path.value, Node.file content) ∈ t ∧ content.length = r.2.before.sizeBytes ∧
    Platform.sha256 content = Platform.sha256 r.2.content
  only : ∀ p content, (p, Node.file content) ∈ t → ∃ r ∈ readings, ∃ path,
    RelativePath.parse (joinParts r.1) = .ok path ∧ p = segments path.value

theorem copyOf_of_exact {scanner : FileSystemScanner} {root : PyStr} {identity : FileIdentity}
    {readings : List (List PyStr × FileReading)} {files : List (ScannedFile LocalFileRef)}
    {m : Manifest} {t : FileTree PyStr Bytes}
    (hreads : List.Forall₂ (scanner.Reads root identity) readings files)
    (hentries : ∀ e, e ∈ m.entries ↔ e ∈ files.map ScannedFile.entry)
    (hexact : ExactTree m.entries t) : CopyOf readings t := by
  obtain ⟨hread, hscanned⟩ := mem_of_forall₂ hreads
  refine ⟨hexact.wellFormed, ?_, ?_⟩
  · intro r hr
    obtain ⟨f, hf, hreads⟩ := hread r hr
    obtain ⟨content, hfile, hlength, hdigest⟩ :=
      hexact.file f.entry ((hentries _).mpr (List.mem_map_of_mem hf))
    exact ⟨_, content, hreads.path, hfile, hlength.trans hreads.size, hdigest.trans hreads.digest⟩
  · intro p content hfile
    obtain ⟨e, he, hp⟩ := hexact.onlyFiles p content hfile
    obtain ⟨f, hf, rfl⟩ := List.mem_map.mp ((hentries e).mp he)
    obtain ⟨r, hr, hreads⟩ := hscanned f hf
    exact ⟨r, hr, _, hreads.path, hp⟩

theorem copyOf_scan {scanner : FileSystemScanner} {source : SourceRoot}
    {scanned : ScannedDataset LocalFileRef} {m : Manifest} {t : FileTree PyStr Bytes}
    (hscan : scanner.scan source = .ok scanned) (hdumped : Manifest.LoadsDumped scanned.manifest)
    (hloads : Manifest.fromCanonicalBytes scanned.manifest.canonicalBytes = .ok m)
    (hexact : ExactTree m.entries t) :
    ∃ identity listing readings, source.Opens identity listing ∧ listing.Shows [] readings ∧
      CopyOf readings t ∧ m.fileCount = readings.length := by
  obtain ⟨identity, listing, readings, files, hopens, hshows, hreads, hbuild, hfiles, _⟩ :=
    scan_ok_iff.mp hscan
  have hparsed := Manifest.fromCanonicalBytes_of_build hbuild hdumped
  rw [hloads] at hparsed
  cases hparsed
  have hperm : scanned.manifest.entries.Perm (files.map ScannedFile.entry) := by
    rw [(Manifest.build_spec hbuild).1]
    exact List.perm_insertionSort _ _
  refine ⟨identity, listing, readings, hopens, hshows,
    copyOf_of_exact hreads (fun _ => hperm.mem_iff) hexact, ?_⟩
  rw [Manifest.fileCount, hperm.length_eq, List.length_map, hreads.length_eq]

/-- A directory that is scanned, pushed through the services and pulled from them by the reference
that the push returned is copied: the published tree holds exactly the files that the scan read,
each with the size and the digest of what was read. If any step raises, the output path is as
before. Other clients may use the services all along, and the trees, the transfers, the object
store and the HTTP clients may answer whatever they want. -/
theorem pulled_directory_was_scanned {service : TransferService} {scanner : FileSystemScanner}
    {source : ω → SourceRoot} {after : ω → ω}
    {put : LocalFileRef → PresignedRequest → ManifestEntry → Acting Failure ω PutReceipt}
    {progress : ProgressEvent → Acting Failure ω Unit} {dataset : DatasetName}
    {sys : System (ω × Scene)} (signGet : SignGet)
    {s : (ω × Scene) × TreeState} (hnamed : OnlyNamed texts s.1.2)
    (hapart : ∀ scanned, scanner.scan (source s.1.1) = .ok scanned →
      TellsApart texts dataset scanned.manifest ∧ Manifest.LoadsDumped scanned.manifest) :
    Ensures (do
        let pushed ← Acting.outside ((service.push
          (fun w => (scanner.scan (source w), after w)) put progress).run dataset)
        PullWorkflow.run (service.pullPlane signGet).inside.outside
          (AtomicTreeDownloader.port sys) pushed.reference) s
      (fun result s' => s.2.output = none ∧ ∃ identity listing readings t,
        (source s.1.1).Opens identity listing ∧ listing.Shows [] readings ∧
        s'.2.output = some t ∧ CopyOf readings t ∧
        result.materializedFileCount = readings.length)
      fun _ s' => s'.2.output = s.2.output := by
  rw [ensures_bind, ensures_outside]
  refine (ensures_push hnamed fun scanned w hscan =>
    (hapart scanned (congrArg Prod.fst hscan)).1).mono ?_ fun _ _ _ => rfl
  intro pushed s₁ hpushed
  obtain ⟨_, scanned, w, hscan, hpublished⟩ := hpushed
  refine (ensures_pull_of_publishes (s := (s₁, s.2)) (hpublished.publishes service signGet)).mono ?_
    fun _ _ he => he
  intro result s' hdone
  obtain ⟨hfree, m, t, hloads, houtput, hexact, hcount⟩ := hdone
  have hscanned : scanner.scan (source s.1.1) = .ok scanned := congrArg Prod.fst hscan
  obtain ⟨identity, listing, readings, hopens, hshows, hcopy, hlength⟩ :=
    copyOf_scan hscanned (hapart scanned hscanned).2 hloads hexact
  exact ⟨hfree, identity, listing, readings, t, hopens, hshows, houtput, hcopy,
    hcount.trans hlength⟩

end RoboLake

namespace RoboLake.Directory

open Foundation Acting FileTree

set_option maxRecDepth 100000 in
def name : DatasetName := ⟨text "d", rfl, @DatasetName.safe Sample.platform Sample.name⟩

/-- An empty registry without other clients; the provider shows the file's object from the eighth
step on. -/
def scene : Scene where
  registry := store.start
  turns n := ⟨[], ⟨[1], fun _ => 1000, fun k => BitVec.ofNat 128 (n * 100 + k), 0⟩,
    ⟨fun _ => .ok (if n < 7 then none else some ⟨1, some digest, none⟩), fun _ => .ok [[0]]⟩⟩

def service : TransferService where
  sign _ _ _ _ := "put"

def push : PushWorkflow LocalFileRef (Acting Failure (Unit × Scene)) :=
  service.push (fun w => (FileSystemScanner.scan {} (source [(text "a", 2)]), w))
    (fun _ _ _ => pure ⟨.created, some "etag"⟩) fun _ => pure ()

def texts : Set Bytes := {framed (creationFields name)}

theorem scene_onlyNamed : OnlyNamed texts scene :=
  ⟨store.reachable_start, bound_start, fun _ _ hc => absurd hc List.not_mem_nil⟩

set_option maxRecDepth 100000 in
theorem scanned_manifest {scanned : ScannedDataset LocalFileRef}
    (h : FileSystemScanner.scan {} (source [(text "a", 2)]) = .ok scanned) :
    scanned.manifest = manifest := by
  have hmanifest : (FileSystemScanner.scan {} (source [(text "a", 2)])).map
      ScannedDataset.manifest = .ok manifest := by decide +kernel
  rw [h] at hmanifest
  exact Except.ok.inj hmanifest

theorem length_registration (id : UUID) :
    (framed (registrationFields id manifest)).length = 72 + manifest.canonicalBytes.length := by
  have hid : id.bytes.length = 16 := length_bigEndian 16 id.toNat
  have hraw : manifest.sha256.rawBytes.length = 32 := manifest.sha256.decode_value.2.2
  simp only [framed, registrationFields, List.flatMap_cons, List.flatMap_nil, List.length_append,
    length_bigEndian, hid, hraw, List.length_nil]
  omega

set_option maxRecDepth 100000 in
theorem hash_creation : sha256 (framed (creationFields name)) = creationDigest := rfl

set_option maxRecDepth 100000 in
theorem hash_registration (id : UUID) :
    sha256 (framed (registrationFields id manifest)) = registrationDigest := by
  have hlength : (framed (registrationFields id manifest)).length = 217 := by
    have hbytes : manifest.canonicalBytes.length = 145 := rfl
    rw [length_registration, hbytes]
  change hashText _ = _
  rw [hashText, hlength]
  rfl

set_option maxRecDepth 100000 in
theorem hash_manifest : sha256 manifest.canonicalBytes = manifestDigest := rfl

set_option maxRecDepth 100000 in
theorem manifest_told_apart : TellsApart texts name manifest := by
  refine ⟨rfl, fun y hy _ => hy, ?_, ?_⟩
  · intro id y hy hsame
    rw [Set.mem_singleton_iff.mp hy, hash_creation, hash_registration] at hsame
    exact absurd hsame (by decide)
  · intro y hy hsame
    rw [Set.mem_singleton_iff.mp hy, hash_creation, hash_manifest] at hsame
    exact absurd hsame (by decide)

set_option maxRecDepth 100000 in
/-- The push returns, and the registry has a READY Version under the name. -/
theorem directory_push_publishes : ∃ result s', push.run name ((), scene) = (.ok result, s') ∧
    ∃ v ∈ s'.2.registry.db.versions.rows, v.state = .ready ∧
      v.manifestBytes = manifest.canonicalBytes := by
  have hok : (push.run name ((), scene)).1.toBool = true := by decide +kernel
  rcases hrun : push.run name ((), scene) with ⟨x, s'⟩
  rw [hrun] at hok
  cases x with
  | error e => cases hok
  | ok result =>
      obtain ⟨_, scanned, w, v, _, hscan, hv, hready, _, _, _, hbytes, _⟩ :=
        (service_push_publishes (s := ((), scene)) scene_onlyNamed (fun scanned w hscan => by
          rw [scanned_manifest (congrArg Prod.fst hscan)]
          exact manifest_told_apart)).of_ok hrun
      rw [scanned_manifest (congrArg Prod.fst hscan)] at hbytes
      exact ⟨result, s', rfl, v, hv, hready, hbytes⟩

set_option maxRecDepth 100000 in
theorem manifest_loads : Manifest.LoadsDumped manifest := rfl

def roundTrip : Acting Failure ((Unit × Scene) × TreeState) (PullResult Unit) := do
  let pushed ← Acting.outside (push.run name)
  PullWorkflow.run (service.pullPlane fun _ _ => "get").inside.outside
    (AtomicTreeDownloader.port (Sample.willingSystem [0]).outside) pushed.reference

set_option maxRecDepth 100000 in
theorem roundTrip_returns : (roundTrip (((), scene), {})).1.toBool = true := by decide +kernel

/-- The round trip returns, and the published tree is a copy of the directory. -/
theorem directory_is_copied : ∃ result s' t, roundTrip (((), scene), {}) = (.ok result, s') ∧
    s'.2.output = some t ∧ CopyOf [([text "a"], reading 2)] t := by
  have hok := roundTrip_returns
  rcases hrun : roundTrip (((), scene), {}) with ⟨x, s'⟩
  rw [hrun] at hok
  cases x with
  | error e => cases hok
  | ok result =>
      obtain ⟨_, identity, listing, readings, t, hopens, hshows, houtput, hcopy, _⟩ :=
        (pulled_directory_was_scanned (s := (((), scene), {})) (fun _ _ => "get") scene_onlyNamed
          (fun scanned hscan => by
            rw [scanned_manifest hscan]
            exact ⟨manifest_told_apart, manifest_loads⟩)).of_ok hrun
      obtain ⟨_, rfl⟩ := hopens.unique (source_opens [(text "a", 2)])
      cases hshows.unique (.file .done)
      exact ⟨result, s', t, rfl, houtput, hcopy⟩

end RoboLake.Directory
