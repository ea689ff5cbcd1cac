import RoboLake.Guarantees.Copies
import RoboLake.Guarantees.Remote
import RoboLake.Guarantees.Wire

/-! # A transparent API

The services behind the API answer with stored Versions, so the client reads each of their
answers. A network that loses requests or answers makes a push raise, never return
something else.
-/

namespace RoboLake

open Foundation Acting Store Work

variable [Platform] {ν τ α ρ ω : Type} {s : Scene}

/-! ## Numbered answers -/

section Numbered

variable {t t' : TxState} {c : UploadContext}

def OfStored (t : TxState) (c : UploadContext) : Prop :=
  ∃ v ∈ t.db.versions.rows, c.version.versionNumber = v.versionNumber

theorem OfStored.uploadContext {v : DatasetVersionModel} {id : UUID}
    (hv : t.db.versions.get? id = some v) {name : DatasetName} {b : BlobModel}
    {u : Option UploadSessionModel} : OfStored t (uploadContext v name b u) :=
  ⟨v, Relation.mem_of_get? hv, rfl⟩

theorem ofStored_markUploadVerified {sessionId : UUID} {etag : Option String}
    (h : run (markUploadVerified sessionId etag) t = .ok (c, t')) : OfStored t c := by
  unfold markUploadVerified at h
  obtain ⟨u, b, v, _, _, _, hv, h⟩ := run_lockUpload_bind_ok h
  dsimp only at h
  split at h
  · simp only [fetchDataset, run_fetch_bind_ok, run_pure_ok] at h
    obtain ⟨d, _, rfl, _⟩ := h
    exact .uploadContext hv
  · simp only [run_require_bind_ok, run_utcNow_bind] at h
    obtain ⟨_, _, h⟩ := h
    obtain ⟨_, h⟩ := run_flushBlob_bind_ok h
    obtain ⟨_, h⟩ := run_flushBlob_bind_ok h
    obtain ⟨_, h⟩ := run_flushSession_bind_ok h
    simp only [fetchDataset, run_fetch_bind_ok, run_pure_ok] at h
    obtain ⟨d, _, rfl, _⟩ := h
    exact .uploadContext hv

theorem ofStored_restartFailedUpload {versionId blobId : UUID} {key : String} {sha : Sha256Digest}
    (h : run (restartFailedUpload versionId blobId key sha) t = .ok (c, t')) : OfStored t c := by
  simp only [restartFailedUpload, fetchDataset, run_fetch_bind_ok, run_select_bind,
    run_require_bind_ok] at h
  obtain ⟨v, hv, b, _, d, _, _, h⟩ := h
  cases hkey : t.db.idempotency.get? (.uploadSessionCreate, key) with
  | some record =>
      simp only [hkey, run_require_bind_ok, run_fetch_bind_ok, run_ofExcept_bind_ok,
        run_pure_ok] at h
      obtain ⟨_, _, _, _, _, _, _, rfl, _⟩ := h
      exact .uploadContext hv
  | none =>
      simp only [hkey, run_select_bind, run_ofExcept_bind_ok, run_require_bind_ok] at h
      obtain ⟨_, _, _, h⟩ := h
      obtain ⟨_, h⟩ := run_flushBlob_bind_ok h
      obtain ⟨_, h⟩ := run_flushVersion_bind_ok h
      obtain ⟨_, _, _, _, _, h⟩ := run_createSinglePut_bind_ok h
      obtain ⟨_, _, h⟩ := run_bindUpload_bind_ok h
      obtain ⟨rfl, _⟩ := run_pure_ok.mp h
      exact ⟨v, Relation.mem_of_get? hv, rfl⟩

theorem ofStored_prepareUpload {versionId : UUID} {digest : Sha256Digest} {key : String}
    {sha : Sha256Digest} (h : run (Store.prepareUpload versionId digest key sha) t = .ok (c, t')) :
    OfStored t c := by
  simp only [Store.prepareUpload, fetchDataset, run_fetch_bind_ok] at h
  obtain ⟨v, hv, d, _, b, _, h⟩ := h
  split at h
  · obtain ⟨rfl, _⟩ := run_pure_ok.mp h
    exact .uploadContext hv
  · rw [run_select_bind] at h
    cases hkey : t.db.idempotency.get? (.uploadSessionCreate, key) with
    | some record =>
        simp only [hkey, run_require_bind_ok, run_fetch_bind_ok, run_ofExcept_bind_ok,
          run_pure_ok] at h
        obtain ⟨_, _, _, _, _, _, _, rfl, _⟩ := h
        exact .uploadContext hv
    | none =>
        simp only [hkey, run_select_bind] at h
        cases hactive : activeUpload t.db b.id with
        | some u =>
            simp only [hactive, uploadToBind, run_pure_bind, run_ofExcept_bind_ok] at h
            obtain ⟨_, _, h⟩ := h
            obtain ⟨_, _, h⟩ := run_bindUpload_bind_ok h
            obtain ⟨rfl, _⟩ := run_pure_ok.mp h
            exact .uploadContext hv
        | none =>
            simp only [hactive, uploadToBind] at h
            split at h
            · obtain ⟨_, _, _, _, _, h⟩ := run_createSinglePut_bind_ok h
              simp only [run_ofExcept_bind_ok] at h
              obtain ⟨_, _, h⟩ := h
              obtain ⟨_, _, h⟩ := run_bindUpload_bind_ok h
              obtain ⟨rfl, _⟩ := run_pure_ok.mp h
              exact .uploadContext hv
            · simp only [run_fetch_bind_ok, run_ofExcept_bind_ok] at h
              obtain ⟨_, _, _, _, h⟩ := h
              obtain ⟨_, _, h⟩ := run_bindUpload_bind_ok h
              obtain ⟨rfl, _⟩ := run_pure_ok.mp h
              exact .uploadContext hv

end Numbered

/-! ## The services -/

def Sound (s : Scene) : Prop := store.Reachable s.registry

theorem keeps_of_advances {p : Served α} (h : Advances p) :
    Acting.Keeps Sound (fun _ => True) p := by
  intro s hs
  have hnext := h s hs
  refine ensures_self.mono ?_ fun _ _ _ => trivial
  intro a s' hrun
  rw [hrun] at hnext
  exact ⟨trivial, hnext.reachable⟩

/-- A program that moves its scene on and returns numbered Versions. -/
theorem keeps_numbered {p : Served UploadPreparation} (h : Advances p)
    (hnumbered : ∀ s, store.Reachable s.registry → ∀ a, (p s).1 = .ok a → a.version.Numbered) :
    Acting.Keeps Sound (fun preparation => preparation.version.Numbered) p := by
  intro s hs
  have hnext := h s hs
  refine ensures_self.mono ?_ fun _ _ _ => trivial
  intro a s' hrun
  rw [hrun] at hnext
  exact ⟨hnumbered s hs a (congrArg Prod.fst hrun), hnext.reachable⟩

theorem numbered_of_call {tx : Tx UploadContext} {c : UploadContext} {s' : Scene}
    (hs : store.Reachable s.registry) (hcall : Served.call tx s = (.ok c, s'))
    (h : ∀ {t c t'}, run tx t = .ok (c, t') → OfStored t c) : c.version.Numbered := by
  obtain ⟨⟨t, hrun, _⟩, _⟩ := run_of_call hcall
  obtain ⟨v, hv, hnumber⟩ := h hrun
  change 0 < c.version.versionNumber ∧ c.version.versionNumber < 2 ^ 63
  rw [hnumber]
  exact versionNumber_bounds (Scene.next_reachable hs) hv

omit [Platform] in
theorem ok_of_map {β : Type} {x : Except Failure α} {f : α → β} {b : β} (h : x.map f = .ok b) :
    ∃ a, x = .ok a ∧ b = f a := by
  cases x with
  | error e => cases h
  | ok a =>
      cases h
      exact ⟨a, rfl, rfl⟩

theorem numbered_attest {sessionId : UUID} {blob : BlobRecord} {info : ObjectInfo}
    {etag : Option String} {p : UploadPreparation} (hs : store.Reachable s.registry)
    (h : (TransferService.attest sessionId blob info etag s).1 = .ok p) : p.version.Numbered := by
  have hrun := @TransferService.attest_run _ s sessionId blob info etag
  generalize TransferService.attest sessionId blob info etag s = out at hrun h
  cases hrun with
  | verified hverify hcall =>
      obtain ⟨c, rfl, rfl⟩ := ok_of_map h
      rcases TransferService.verifyObject_scene hverify with rfl | rfl
      · exact numbered_of_call hs hcall ofStored_markUploadVerified
      · exact numbered_of_call (Scene.next_reachable hs) hcall ofStored_markUploadVerified
  | @mismatched _ _ _ x _ hcall =>
      cases x with
      | error e => cases h
      | ok c => cases h
  | unread _ _ => cases h

theorem numbered_prepareUpload {versionId : UUID} {digest : Sha256Digest} {key : String}
    {p : UploadPreparation} (hs : store.Reachable s.registry)
    (h : (TransferService.prepareUpload versionId digest key s).1 = .ok p) :
    p.version.Numbered := by
  have hprepared : ∀ {c s₁ found},
      TransferService.PrepareLook versionId digest key s c s₁ found →
      c.version.Numbered ∧ store.Reachable s₁.next.registry := by
    intro c s₁ found hlook
    have hfollows := (Scene.Follows.refl hs).call (.prepareUpload versionId digest key _) rfl
      hlook.call
    exact ⟨numbered_of_call hs hlook.call ofStored_prepareUpload,
      Scene.next_reachable hfollows.reachable⟩
  have hrun := @TransferService.prepareUpload_run _ s versionId digest key
  generalize TransferService.prepareUpload versionId digest key s = out at hrun h
  cases hrun with
  | refused _ => cases h
  | available hcall _ =>
      cases h
      exact numbered_of_call hs hcall ofStored_prepareUpload
  | unseen _ => cases h
  | absent hlook _ =>
      cases h
      exact (hprepared hlook).1
  | restarted hlook _ hcall =>
      obtain ⟨c, rfl, rfl⟩ := ok_of_map h
      exact numbered_of_call (hprepared hlook).2 hcall ofStored_restartFailedUpload
  | sessionless _ _ => cases h
  | unstarted _ _ _ _ => cases h
  | lost _ _ _ _ _ => cases h
  | resumed hlook _ _ => exact numbered_attest (hprepared hlook).2 h
  | started hlook _ _ hcall _ =>
      have hfollows := (Scene.Follows.refl (hprepared hlook).2).call (.markUploadInProgress _) rfl
        hcall
      exact numbered_attest hfollows.reachable h

theorem numbered_completeUpload {sessionId : UUID} {etag : Option String}
    {p : UploadPreparation} (hs : store.Reachable s.registry)
    (h : (TransferService.completeUpload sessionId etag s).1 = .ok p) : p.version.Numbered := by
  have hrun := @TransferService.completeUpload_run _ s sessionId etag
  generalize TransferService.completeUpload sessionId etag s = out at hrun h
  cases hrun with
  | refused _ => cases h
  | unseen _ _ => cases h
  | absent _ _ => cases h
  | reported hcall _ =>
      have hfollows := (Scene.Follows.refl hs).call (.getUpload sessionId) rfl hcall
      exact numbered_attest (Scene.next_reachable hfollows.reachable) h

theorem keeps_stored {tx : Tx VersionRecord} (op : Operation) (hop : operationTx op = effect tx)
    (h : ∀ {t a t'}, run tx t = .ok (a, t') → ∃ v d,
      t'.db.versions.get? v.id = some v ∧ a = versionRecord v d) :
    Acting.Keeps Sound (fun record => record.Numbered) (Served.call tx) := by
  intro s hs
  have hreachable : store.Reachable (Served.call tx s).2.registry := Served.call_reachable op hop hs
  refine ensures_call.mono ?_ fun _ _ _ => trivial
  intro record s' hcall
  obtain ⟨⟨t, hrun, hdb⟩, rfl⟩ := hcall
  obtain ⟨v, d, hv, rfl⟩ := h hrun
  refine ⟨versionNumber_bounds hreachable (Relation.mem_of_get? (k := v.id) ?_), hreachable⟩
  rw [hdb]
  exact hv

/-- The services return numbered Versions from every reachable registry. -/
theorem pushPlane_keeps (service : TransferService) :
    (service.pushPlane.inside : ControlPlane (Acting Failure (ω × Scene))).Keeps
      (fun w => Sound w.2) True where
  createDataset name key := keeps_inside (keeps_of_advances
    (advances_call (.createDataset name (plainText key) _) rfl))
  registerVersion datasetId m key := by
    refine keeps_inside fun s hs => ?_
    refine (keeps_stored (.registerVersion datasetId m (plainText key) _) rfl ?_ s hs).mono
      (fun _ _ ha => ⟨fun _ => ha.1, ha.2⟩) fun _ _ he => he
    intro t a t' hrun
    obtain ⟨_, v, d, _, _, hv, _, ha, _⟩ := run_registerVersion_stored hrun
    exact ⟨v, d.name, hv, ha⟩
  prepareUpload versionId digest key := keeps_inside fun s hs =>
    (keeps_numbered (advances_prepareUpload versionId digest (plainText key))
      (fun _ hs _ => numbered_prepareUpload hs) s hs).mono
      (fun _ _ ha => ⟨fun _ => ha.1, ha.2⟩) fun _ _ he => he
  uploadUrl sessionId :=
    keeps_inside (keeps_of_advances (advances_issueUploadUrl service sessionId))
  completeUpload sessionId etag := keeps_inside fun s hs =>
    (keeps_numbered (advances_completeUpload sessionId etag)
      (fun _ hs _ => numbered_completeUpload hs) s hs).mono
      (fun _ _ ha => ⟨fun _ => ha.1, ha.2⟩) fun _ _ he => he
  finalize versionId := by
    refine keeps_inside fun s hs => ?_
    refine (keeps_stored (.finalizeVersion versionId) rfl ?_ s hs).mono
      (fun _ _ ha => ⟨fun _ => ha.1, ha.2⟩) fun _ _ he => he
    intro t a t' hrun
    obtain ⟨v, d, _, hv, _, _, ha⟩ := run_finalizeVersion_ok hrun
    exact ⟨v, d.name, hv, ha⟩

/-! ## Pushes -/

section Push

theorem fits_of_built {workflow : PushWorkflow ρ (Acting Failure τ)}
    (hscan : Acting.Keeps (fun _ => True) (fun scanned => scanned.manifest.IsBuilt)
      workflow.scan) : workflow.Fits (fun _ => True) False where
  scan := hscan
  services := {
    createDataset := fun _ _ => keeps_trivial fun _ => trivial
    registerVersion := fun _ _ _ => keeps_trivial fun _ => False.elim
    prepareUpload := fun _ _ _ => keeps_trivial fun _ => False.elim
    uploadUrl := fun _ => keeps_trivial fun _ => trivial
    completeUpload := fun _ _ => keeps_trivial fun _ => False.elim
    finalize := fun _ => keeps_trivial fun _ => False.elim }
  put _ _ _ := keeps_trivial fun _ => False.elim
  progress _ := keeps_trivial fun _ => trivial

variable [TextReaders] {network : Network ν}

/-- Whatever requests and answers the network loses, a push of a built manifest that returns
through the API has the result of the same push through the services behind it, and leaves
everything behind the network as that push does. -/
theorem remote_push_is_a_push (network : Network ν)
    (workflow : PushWorkflow ρ (Acting Failure τ)) (dataset : DatasetName)
    (hscan : Acting.Keeps (fun _ => True) (fun scanned => scanned.manifest.IsBuilt) workflow.scan)
    (s : ν × τ) :
    Ensures ((workflow.overHttp network).run dataset) s
      (fun result s' => workflow.run dataset s.2 = (.ok result, s'.2)) fun _ _ => True := by
  refine (refines_push False.elim (fits_of_built hscan) dataset s trivial).mono ?_
    fun _ _ _ => trivial
  intro result s' hresult
  obtain ⟨_, hrun, rfl, _⟩ := hresult
  exact hrun

/-- Over a network that answers every request, a push through the API returns exactly when the push
through the services does, with the same result and the same registry; it raises what that push
raises, or what the client makes of the envelope of that error. No field that a push sends is
refused by the API, and no answer of the services is refused by the client. -/
theorem answered_push_is_a_push {network : Network ν}
    (hnetwork : ∀ n, (network n).1 = .answered) (service : TransferService)
    (scan : Acting Failure ω (ScannedDataset ρ))
    (put : ρ → PresignedRequest → ManifestEntry → Acting Failure ω PutReceipt)
    (progress : ProgressEvent → Acting Failure ω Unit) (dataset : DatasetName)
    (hscan : Acting.Keeps (fun _ => True) (fun scanned => scanned.manifest.IsBuilt) scan)
    (hput : ∀ localRef request entry, Acting.Keeps (fun _ => True)
      (fun receipt => (receipt.etag.all fun etag => etag.length ≤ 1024) = true)
      (put localRef request entry))
    (s : ν × ω × Scene) (hreachable : store.Reachable s.2.2.registry) :
    Ensures (((service.push scan put progress).overHttp network).run dataset) s
      (fun result s' => (service.push scan put progress).run dataset s.2 = (.ok result, s'.2))
      fun e s' => ∃ f, (service.push scan put progress).run dataset s.2 = (.error f, s'.2) ∧
        (e = f ∨ e = .domain (ApiClient.apiError (some (errorResponse f).code))) := by
  have hfits : (service.push scan put progress).Fits (fun w => Sound w.2) True := {
    scan := keeps_outside hscan
    services := pushPlane_keeps service
    put := fun localRef request entry => keeps_outside fun w _ =>
      (hput localRef request entry w trivial).mono (fun _ _ ha => ⟨fun _ => ha.1, trivial⟩)
        fun _ _ he => he
    progress := fun event => keeps_outside (keeps_trivial fun _ => trivial) }
  refine (refines_push (fun _ => hnetwork) hfits dataset s hreachable).mono
    ?_ ?_
  · intro result s' hresult
    obtain ⟨_, hrun, rfl, _⟩ := hresult
    exact hrun
  · intro e s' he
    exact he trivial

end Push

/-! ## Pulls -/

section Pull

variable [TextReaders]

theorem refines_resolveVersion (network : Network ν)
    (services : PullControlPlane (Acting Failure τ)) (reference : DatasetReference) :
    (acrossNetwork (fun _ => True) False).Refines (fun a b => a = b.onWire)
      ((ApiClient.pullPlane network services).resolve reference) (services.resolve reference) := by
  refine refines_call versionResponse (P := fun _ => True) False.elim ?_
    (fun _ _ => version_of_response) False.elim
  unfold Api.resolveVersion
  rw [DatasetName.parse_value]
  exact refines_validated versionResponse False.elim (keeps_trivial fun _ => trivial)

theorem refines_manifest (network : Network ν) (services : PullControlPlane (Acting Failure τ))
    (versionId : UUID) :
    (acrossNetwork (fun _ => True) False).Refines
      (fun a b => Manifest.fromCanonicalBytes b.canonicalBytes = .ok a)
      ((ApiClient.pullPlane network services).manifest versionId)
      (services.manifest versionId) :=
  refines_call Manifest.canonicalBytes (P := fun _ => True) False.elim
    (refines_validated Manifest.canonicalBytes (fun _ => rfl) (keeps_trivial fun _ => trivial))
    (fun _ _ hloads => hloads) False.elim

end Pull

/-! ## Copies -/

section Copies

open Store FileTree

variable [TextReaders] {ω : Type} {texts : Set Bytes}

theorem PullControlPlane.Publishes.overHttp {τ : Type}
    {services : PullControlPlane (Acting Failure τ)} {reference : DatasetReference} {m : Manifest}
    {s : ν × τ} (h : services.Publishes reference m s.2) (network : Network ν) :
    (ApiClient.pullPlane network services).Publishes reference m s := by
  refine ((refines_resolveVersion network services reference).ensures trivial h).mono ?_
    fun _ _ _ => trivial
  intro version s₁ hversion hready
  obtain ⟨record, hmanifest, rfl⟩ := hversion
  refine ((refines_manifest network services record.id).ensures (s := s₁) trivial
    (hmanifest hready)).mono ?_ fun _ _ _ => trivial
  intro read s₂ hread
  obtain ⟨loaded, hloads, hsame⟩ := hread
  rw [Manifest.canonicalBytes_of_fromCanonicalBytes hloads, hloads] at hsame
  rw [← Except.ok.inj hsame]
  exact hloads

omit [TextReaders] in
theorem keeps_scan (scanner : FileSystemScanner) (source : ω → SourceRoot) (after : ω → ω) :
    Acting.Keeps (fun _ => True) (fun scanned => scanned.manifest.IsBuilt)
      ((fun w => (scanner.scan (source w), after w)) :
        Acting Failure ω (ScannedDataset LocalFileRef)) := by
  intro s _
  refine ensures_self.mono ?_ fun _ _ _ => trivial
  intro scanned s' hrun
  have hscan : scanner.scan (source s) = .ok scanned := congrArg Prod.fst hrun
  obtain ⟨_, _, _, files, _, _, _, hbuild, _⟩ := scan_ok_iff.mp hscan
  exact ⟨⟨_, hbuild⟩, trivial⟩

/-- A directory that is scanned, pushed and pulled again through the API is copied, whatever
requests and answers the network loses: the published tree holds exactly the files that the scan
read, each with the size and the digest of what was read. If any step raises, the output path is as
before. Other clients may use the services all along, and the trees, the transfers, the object
store and the HTTP clients may answer whatever they want. -/
theorem remote_copy_is_exact {network : Network ν} {sys : System (ν × ω × Scene)}
    {service : TransferService} {scanner : FileSystemScanner} {source : ω → SourceRoot}
    {after : ω → ω}
    {put : LocalFileRef → PresignedRequest → ManifestEntry → Acting Failure ω PutReceipt}
    {progress : ProgressEvent → Acting Failure ω Unit} {dataset : DatasetName} (signGet : SignGet)
    {s : (ν × ω × Scene) × TreeState} (hnamed : OnlyNamed texts s.1.2.2)
    (hapart : ∀ scanned, scanner.scan (source s.1.2.1) = .ok scanned →
      TellsApart texts dataset scanned.manifest ∧ Manifest.LoadsDumped scanned.manifest) :
    Ensures (do
        let pushed ← Acting.outside (((service.push
          (fun w => (scanner.scan (source w), after w)) put progress).overHttp network).run dataset)
        PullWorkflow.run (ApiClient.pullPlane network (service.pullPlane signGet).inside).outside
          (AtomicTreeDownloader.port sys) pushed.reference) s
      (fun result s' => s.2.output = none ∧ ∃ identity listing readings t,
        (source s.1.2.1).Opens identity listing ∧ listing.Shows [] readings ∧
        s'.2.output = some t ∧ CopyOf readings t ∧
        result.materializedFileCount = readings.length)
      fun _ s' => s'.2.output = s.2.output := by
  rw [ensures_bind, ensures_outside]
  refine ((refines_push False.elim
    (fits_of_built (keeps_outside (J := fun _ => True) (keeps_scan scanner source after)))
    dataset).ensures (s := s.1) trivial (ensures_push hnamed fun scanned w hscan =>
      (hapart scanned (congrArg Prod.fst hscan)).1)).mono ?_ fun _ _ _ => rfl
  intro pushed s₁ hpushed
  obtain ⟨_, ⟨_, scanned, w, hscan, hpublished⟩, rfl⟩ := hpushed
  have hservices : (service.pullPlane signGet).inside.Publishes pushed.reference
      scanned.manifest s₁.2 :=
    hpublished.publishes service signGet
  refine (ensures_pull_of_publishes (s := (s₁, s.2)) (hservices.overHttp network)).mono ?_
    fun _ _ he => he
  intro result s' hdone
  obtain ⟨hfree, m, t, hloads, houtput, hexact, hcount⟩ := hdone
  have hscanned : scanner.scan (source s.1.2.1) = .ok scanned := congrArg Prod.fst hscan
  obtain ⟨identity, listing, readings, hopens, hshows, hcopy, hlength⟩ :=
    copyOf_scan hscanned (hapart scanned hscanned).2 hloads hexact
  exact ⟨hfree, identity, listing, readings, t, hopens, hshows, houtput, hcopy,
    hcount.trans hlength⟩

end Copies

end RoboLake

namespace RoboLake.Directory

open Foundation Acting FileTree

/-! ## A copy through the API -/

scoped instance readers : TextReaders := Sample.readers

def network : Network Unit := fun n => (.answered, n)

set_option maxRecDepth 100000 in
theorem remote_push_returns :
    ((push.overHttp network).run name ((), (), scene)).1.toBool = true := by decide +kernel

set_option maxRecDepth 100000 in
/-- The push through the API returns, with the result of the push through the services. -/
theorem directory_remote_push : ∃ result s',
    (push.overHttp network).run name ((), (), scene) = (.ok result, s') ∧
      push.run name ((), scene) = (.ok result, s'.2) := by
  have hok := remote_push_returns
  rcases hrun : (push.overHttp network).run name ((), (), scene) with ⟨x, s'⟩
  rw [hrun] at hok
  cases x with
  | error e => cases hok
  | ok result =>
      exact ⟨result, s', rfl,
        (remote_push_is_a_push network push name
          (keeps_outside (J := fun _ => True) (keeps_scan {} (fun _ => source [(text "a", 2)]) id))
          ((), (), scene)).of_ok hrun⟩

/-- The same scene, but the provider never shows the object. -/
def hidden : Scene := { scene with
  turns n := { scene.turns n with objects := .vacant } }

def invisible : Failure := .domain (.uploadConflict "Upload outcome is not visible; rerun push.")

set_option maxRecDepth 100000 in
theorem remote_push_hidden :
    ((push.overHttp network).run name ((), (), hidden)).1 = .error invisible := by decide +kernel

theorem etag_fits : ((some "etag" : Option String).all fun etag => etag.length ≤ 1024) = true := by
  decide

theorem put_fits : Acting.Keeps (fun _ : Unit => True)
    (fun receipt : PutReceipt => (receipt.etag.all fun etag => etag.length ≤ 1024) = true)
    (pure ⟨.created, some "etag"⟩ : Acting Failure Unit PutReceipt) :=
  keeps_pure etag_fits

set_option maxRecDepth 100000 in
/-- Over the network that loses nothing the push has the result of the push through the services, and
with the object hidden it raises what the client knows of the error of the services. -/
theorem directory_answered_push :
    (∃ result s', (push.overHttp network).run name ((), (), scene) = (.ok result, s') ∧
      push.run name ((), scene) = (.ok result, s'.2)) ∧
    ∃ f s', (push.overHttp network).run name ((), (), hidden) = (.error invisible, s') ∧
      push.run name ((), hidden) = (.error f, s'.2) ∧ (invisible = f ∨
        invisible = .domain (ApiClient.apiError (some (errorResponse f).code))) := by
  have hanswered : ∀ s : Unit × Unit × Scene, store.Reachable s.2.2.registry →
      (∀ result s', (push.overHttp network).run name s = (.ok result, s') →
        push.run name s.2 = (.ok result, s'.2)) ∧
      ∀ e s', (push.overHttp network).run name s = (.error e, s') →
        ∃ f, push.run name s.2 = (.error f, s'.2) ∧
          (e = f ∨ e = .domain (ApiClient.apiError (some (errorResponse f).code))) := by
    intro s hs
    have hnetwork : ∀ n, (network n).1 = .answered := fun _ => rfl
    have hpush := answered_push_is_a_push hnetwork service
      (fun w => (FileSystemScanner.scan {} (source [(text "a", 2)]), w))
      (fun _ _ _ => pure ⟨.created, some "etag"⟩) (fun _ => pure ()) name (keeps_scan {} _ id)
      (fun _ _ _ => put_fits) s hs
    exact ⟨fun _ _ hrun => hpush.of_ok hrun, fun _ _ hrun => hpush.of_error hrun⟩
  constructor
  · have hok := remote_push_returns
    rcases hrun : (push.overHttp network).run name ((), (), scene) with ⟨x, s'⟩
    rw [hrun] at hok
    cases x with
    | error e => cases hok
    | ok result =>
        exact ⟨result, s', rfl, (hanswered ((), (), scene) store.reachable_start).1 result s' hrun⟩
  · rcases hrun : (push.overHttp network).run name ((), (), hidden) with ⟨x, s'⟩
    have hx := remote_push_hidden
    rw [hrun] at hx
    cases hx
    obtain ⟨f, hservice, htranslated⟩ :=
      (hanswered ((), (), hidden) store.reachable_start).2 invisible s' hrun
    exact ⟨f, s', rfl, hservice, htranslated⟩

def remoteRoundTrip : Acting Failure ((Unit × Unit × Scene) × TreeState) (PullResult Unit) := do
  let pushed ← Acting.outside ((push.overHttp network).run name)
  PullWorkflow.run (ApiClient.pullPlane network (service.pullPlane fun _ _ => "get").inside).outside
    (AtomicTreeDownloader.port (Sample.willingSystem [0]).outside) pushed.reference

set_option maxRecDepth 100000 in
theorem remoteRoundTrip_returns : (remoteRoundTrip (((), (), scene), {})).1.toBool = true := by
  decide +kernel

/-- The round trip through the API returns, and the published tree is a copy of the directory. -/
theorem directory_is_copied_remotely : ∃ result s' t,
    remoteRoundTrip (((), (), scene), {}) = (.ok result, s') ∧ s'.2.output = some t ∧
      CopyOf [([text "a"], reading 2)] t := by
  have hok := remoteRoundTrip_returns
  rcases hrun : remoteRoundTrip (((), (), scene), {}) with ⟨x, s'⟩
  rw [hrun] at hok
  cases x with
  | error e => cases hok
  | ok result =>
      obtain ⟨_, identity, listing, readings, t, hopens, hshows, houtput, hcopy, _⟩ :=
        (remote_copy_is_exact (s := (((), (), scene), {})) (fun _ _ => "get") scene_onlyNamed
          (fun scanned hscan => by
            rw [scanned_manifest hscan]
            exact ⟨manifest_told_apart, manifest_loads⟩)).of_ok hrun
      obtain ⟨_, rfl⟩ := hopens.unique (source_opens [(text "a", 2)])
      cases hshows.unique (.file .done)
      exact ⟨result, s', t, rfl, houtput, hcopy⟩

end RoboLake.Directory
