import RoboLake.Guarantees.Publication
import RoboLake.Guarantees.Pulls
import RoboLake.Guarantees.Repairs
import RoboLake.Guarantees.Traversals

/-! # Pulls from the service

The services of the repository are a control plane that a pull never finds at fault:
their plans pass every check of the workflow, and what has been published is the tree
of the manifest that the Version stores.
-/

namespace RoboLake

open Foundation Acting Store Work FileTree

variable [Platform] {v : DatasetVersionModel} {m : Manifest} {s : Scene}

/-! ## The control plane -/

theorem ensures_resolveVersion (h : store.Reachable s.registry) (reference : DatasetReference) :
    Ensures (Served.call (resolveVersion reference.dataset reference.versionNumber)) s
      (fun record s' => ∃ v name, record = versionRecord v name ∧ name = reference.dataset ∧
        v.versionNumber = reference.versionNumber ∧ store.Reachable s'.registry ∧
        s'.registry.db.versions.get? v.id = some v ∧
        ∃ d, s'.registry.db.datasets.get? v.datasetId = some d ∧ d.name = name)
      (fun e _ => ¬IsManifestMismatch e) := by
  have hreachable : store.Reachable (Served.call (resolveVersion reference.dataset
      reference.versionNumber) s).2.registry :=
    Served.call_reachable (.resolveVersion reference.dataset reference.versionNumber) rfl h
  cases hrun : run (resolveVersion reference.dataset reference.versionNumber)
      (beginTx (s.turns 0).env s.next.registry) with
  | error e =>
      have hcall := Served.call_of_transact (transact_of_raised hrun)
      unfold Ensures
      rw [hcall, (run_fetch_error.mp hrun).2]
      rintro ⟨message, hmessage⟩
      cases hmessage
  | ok result =>
      obtain ⟨record, t⟩ := result
      obtain ⟨hfound, ht⟩ := run_fetch_ok.mp hrun
      rw [ht] at hrun
      have hcall := Served.call_of_read hrun
      unfold Ensures
      rw [hcall] at hreachable ⊢
      obtain ⟨d, hd, hfound⟩ := Option.bind_eq_some_iff.mp hfound
      obtain ⟨v, hv, hrecord⟩ := Option.bind_eq_some_iff.mp hfound
      have hname : d.name = reference.dataset := by simpa using List.find?_some hd
      have hnumber : v.datasetId = d.id ∧ v.versionNumber = reference.versionNumber := by
        simpa using List.find?_some hv
      refine ⟨v, d.name, (Option.some.inj hrecord).symm, hname, hnumber.2, hreachable,
        Relation.get?_of_mem (List.mem_of_find?_eq_some hv), d, ?_, rfl⟩
      rw [hnumber.1]
      exact Relation.get?_of_mem (List.mem_of_find?_eq_some hd)

theorem Offers.getManifest (h : Offers v m s) :
    ∃ s', Served.call (Store.getManifest v.id) s = (.ok m, s') ∧ Offers v m s' := by
  have hrun : run (Store.getManifest v.id) (beginTx (s.turns 0).env s.next.registry) =
      .ok (m, beginTx (s.turns 0).env s.next.registry) := by
    rw [Store.getManifest]
    refine run_fetch_bind_ok.mpr ⟨v, h.next.stored, ?_⟩
    rw [h.loads]
    rfl
  have hcall := Served.call_of_read hrun
  refine ⟨_, hcall, ?_⟩
  have hoffers := h.call (.getManifest v.id) rfl
  rwa [hcall] at hoffers

theorem Offers.checkManifest (h : Offers v m s) (name : DatasetName) :
    PullWorkflow.checkManifest (versionRecord v name) m = .ok () := by
  obtain ⟨hsha, hfiles, hlogical, hblobs, hunique⟩ := h.registered.summaries
  have hdigest : ¬m.sha256 ≠ (versionRecord v name).manifestSha256 := not_not.mpr hsha
  unfold PullWorkflow.checkManifest
  rw [if_neg hdigest, if_neg]
  rintro (hne | hne | hne | hne)
  · exact hne hfiles
  · exact hne hlogical
  · exact hne hblobs
  · exact hne hunique

/-! ## Plans -/

theorem checkCapability_of_last {item : DownloadItem} {next : Option PyStr} {k : Nat}
    (hlast : next = none ↔ k + 1 = m.fileCount) :
    PullWorkflow.checkCapability m item.entry k ⟨some item, next, decide (k + 1 = m.fileCount)⟩ =
      .ok item := by
  unfold PullWorkflow.checkCapability
  simp only
  rw [if_neg (not_not.mpr rfl), if_neg (not_not.mpr rfl), if_neg, if_neg]
  · rintro ⟨hmore, hnone⟩
    rw [decide_eq_false_iff_not] at hmore
    exact hmore (hlast.mp hnone)
  · rintro ⟨hdone, hsome⟩
    rw [decide_eq_true_eq] at hdone
    exact hsome (hlast.mpr hdone)

/-- Each plan of the service passes the checks of the workflow. -/
theorem plans_of_service (service : TransferService) (signGet : SignGet) {ω : Type} :
    Plans (service.pullPlane signGet).inside
      (fun k cursor (w : ω × Scene) => Offers v m w.2 ∧ Locates v.id m.fileCount cursor k)
      (fun e => ¬IsManifestMismatch e) v.id m := by
  intro k cursor w entry hG hentry
  obtain ⟨hoffers, hcursor⟩ := hG
  obtain ⟨next, s', hplan, hlocates, hlast, hoffers'⟩ :=
    hoffers.downloadPlan service signGet hentry hcursor
  change Ensures (Acting.inside (service.downloadPlan signGet v.id cursor)) w _ _
  rw [ensures_inside]
  unfold Ensures
  rw [hplan]
  exact ⟨.inr ⟨_, checkCapability_of_last hlast⟩, hoffers', hlocates⟩

/-! ## The pull -/

/-- A pull whose reference resolves to a stored row restores the manifest of that row, or finds it
not READY. -/
theorem ensures_pull_of_resolved {ω : Type} {sys : System ω}
    (hsys : sys.Within (fun _ => True) fun e => ¬IsManifestMismatch e)
    (service : TransferService) (signGet : SignGet) (reference : DatasetReference)
    {s : (ω × Scene) × TreeState} {R : DatasetVersionModel → Scene → Prop}
    (hresolve : Ensures (Served.call (resolveVersion reference.dataset reference.versionNumber))
      s.1.2 (fun record scene => ∃ v name, record = versionRecord v name ∧ R v scene ∧
        store.Reachable scene.registry ∧ scene.registry.db.versions.get? v.id = some v)
      fun e _ => ¬IsManifestMismatch e) :
    Ensures (PullWorkflow.run (service.pullPlane signGet).inside.outside
        (AtomicTreeDownloader.port sys.outside) reference) s
      (fun result s' => s.2.output = none ∧ ∃ v m t scene, R v scene ∧
        v ∈ scene.registry.db.versions.rows ∧ v.state = .ready ∧
        Manifest.fromCanonicalBytes v.manifestBytes = .ok m ∧
        s'.2.output = some t ∧ ExactTree m.entries t ∧
        result.materializedFileCount = m.fileCount)
      (fun e s' => ¬IsManifestMismatch e ∧ s'.2.output = s.2.output) := by
  rw [PullWorkflow.run, ensures_bind]
  change Ensures (Acting.outside (Acting.inside (Served.call (resolveVersion reference.dataset
    reference.versionNumber)))) s _ _
  rw [ensures_outside, ensures_inside]
  refine hresolve.mono ?_ fun e _ he => ⟨he, rfl⟩
  intro record scene hrecord
  obtain ⟨v, name, rfl, hR, hscene, hv⟩ := hrecord
  by_cases hready : (versionRecord v name).state ≠ .ready
  · rw [if_pos hready]
    refine ⟨?_, rfl⟩
    rintro ⟨_, hm⟩
    cases hm
  · rw [if_neg hready, ensures_bind]
    obtain ⟨m, hregistered⟩ := registered_of_reachable hscene v (Relation.mem_of_get? hv)
    have hoffers : Offers v m scene := ⟨hscene, hv, not_not.mp hready, hregistered.loads⟩
    obtain ⟨scene', hmanifest, hoffers'⟩ := hoffers.getManifest
    change Ensures (Acting.outside (Acting.inside (Served.call (getManifest v.id)))) _ _ _
    rw [ensures_outside, ensures_inside]
    refine .of_run hmanifest ?_
    rw [ensures_bind, ensures_ofExcept, hoffers'.checkManifest]
    simp only
    have hbytes : Manifest.fromCanonicalBytes m.canonicalBytes = .ok m := by
      rw [Manifest.canonicalBytes_of_fromCanonicalBytes hoffers.loads]
      exact hoffers.loads
    rw [ensures_bind]
    refine (ensures_guarded_build
      (G := fun k cursor (w : ω × Scene) => Offers v m w.2 ∧ Locates v.id m.fileCount cursor k)
      (P := fun e => ¬IsManifestMismatch e) (s := ((s.1.1, scene'), s.2))
      (fun k cursor => hsys.outside fun _ _ _ hG => hG) (fun _ he => he)
      (plans_of_service service signGet) (.inr hbytes)
      ⟨hoffers', locates_first v.id m.fileCount⟩).mono ?_ fun _ _ he => he
    intro _ s₁ hdone
    obtain ⟨hfree, canonical, t, hparse, _, _, houtput, hexact⟩ := hdone
    rw [hbytes] at hparse
    cases hparse
    exact ⟨hfree, v, m, t, scene, hR, Relation.mem_of_get? hv, not_not.mp hready, hoffers.loads,
      houtput, hexact, rfl⟩

/-- A pull from the service never finds a mismatch, unless the operating system or the HTTP client
raise that very error; when it returns, the tree of the manifest that the READY Version stores is
at the output path. Other clients may call whatever they want while it runs. -/
theorem service_pull_restores {ω : Type} {sys : System ω}
    (hsys : sys.Within (fun _ => True) fun e => ¬IsManifestMismatch e)
    (service : TransferService) (signGet : SignGet) (reference : DatasetReference)
    (s : (ω × Scene) × TreeState) (hreachable : store.Reachable s.1.2.registry) :
    Ensures (PullWorkflow.run (service.pullPlane signGet).inside.outside
        (AtomicTreeDownloader.port sys.outside) reference) s
      (fun result s' => s.2.output = none ∧ ∃ v m t scene,
        (service.pullPlane signGet).resolve reference s.1.2 =
          (.ok (versionRecord v reference.dataset), scene) ∧
        v ∈ scene.registry.db.versions.rows ∧ v.versionNumber = reference.versionNumber ∧
        v.state = .ready ∧ Manifest.fromCanonicalBytes v.manifestBytes = .ok m ∧
        s'.2.output = some t ∧ ExactTree m.entries t ∧
        result.materializedFileCount = m.fileCount)
      (fun e s' => ¬IsManifestMismatch e ∧ s'.2.output = s.2.output) := by
  have hresolve := (ensures_self (p := Served.call (resolveVersion reference.dataset
    reference.versionNumber)) (s := s.1.2)).and (ensures_resolveVersion hreachable reference)
  refine (ensures_pull_of_resolved (R := fun v scene =>
    (service.pullPlane signGet).resolve reference s.1.2 =
      (.ok (versionRecord v reference.dataset), scene) ∧
    v.versionNumber = reference.versionNumber) hsys service signGet reference
    (hresolve.mono ?_ fun _ _ he => he.2)).mono ?_ fun _ _ he => he
  · intro record scene hrecord
    obtain ⟨hresolved, v, name, rfl, rfl, hnumber, hscene, hv, _⟩ := hrecord
    exact ⟨v, _, rfl, ⟨hresolved, hnumber⟩, hscene, hv⟩
  · intro result s' hdone
    obtain ⟨hfree, v, m, t, scene, ⟨hresolved, hnumber⟩, hmem, hready, hloads, houtput, hexact,
      hcount⟩ := hdone
    exact ⟨hfree, v, m, t, scene, hresolved, hmem, hnumber, hready, hloads, houtput, hexact, hcount⟩

end RoboLake

namespace RoboLake.Sample

open Foundation Acting

/-- An operating system whose calls succeed, and a provider that answers with these bytes. -/
def willingSystem (body : Bytes) : System Unit where
  parentDepth := 1
  call _ := pure ()
  lstat _ := pure (some .directory)
  sameParent := pure true
  uuid4 := pure 7
  write n := pure n
  stream _ := pure (.ok ⟨200, [body], none, none⟩)

theorem willingSystem_within (body : Bytes) :
    (willingSystem body).Within (fun _ => True) fun e => ¬IsManifestMismatch e := by
  refine ⟨fun _ _ => id, fun _ _ => id, fun _ => id, fun _ => id, fun _ _ => id, ?_⟩
  intro r w
  refine ⟨id, ?_⟩
  intro e he
  exact absurd he List.not_mem_nil

end RoboLake.Sample

namespace RoboLake.Pair

open Foundation Acting Store
open Sample (env willingSystem willingSystem_within)

@[irreducible] def publishedRegistry : Registry :=
  store.runFrom store.start (repaired ++ [⟨.finalizeVersion 200, env 9⟩])

theorem publishedRegistry_reachable : store.Reachable publishedRegistry := by
  unfold publishedRegistry
  exact ⟨_, rfl⟩

def publishedScene : Scene where
  registry := publishedRegistry
  turns n := ⟨[], env (10 + n), .vacant⟩

def service : TransferService where
  sign _ _ _ _ := "put"

def pull (body : Bytes) : Acting Failure ((Unit × Scene) × TreeState) (PullResult Unit) :=
  PullWorkflow.run (service.pullPlane fun _ _ => "get").inside.outside
    (AtomicTreeDownloader.port (willingSystem body).outside) ⟨name, 1⟩

set_option maxRecDepth 100000 in
theorem pull_returns_over_content : (pull [97] (((), publishedScene), {})).1.toBool = true ∧
    (pull [98] (((), publishedScene), {})).1.toBool = false := by
  decide +kernel

/-- Over the content of the file the pull restores the tree; over the content of the other file it
raises, finds no mismatch of the manifest and leaves nothing. -/
theorem pair_pull_restores :
    (∃ result s' t, ∃ m : Manifest, pull [97] (((), publishedScene), {}) = (.ok result, s') ∧
      s'.2.output = some t ∧ ExactTree m.entries t ∧
      result.materializedFileCount = m.fileCount) ∧
    ∃ e s', pull [98] (((), publishedScene), {}) = (.error e, s') ∧ ¬IsManifestMismatch e ∧
      s'.2.output = none := by
  have hpull := fun body => service_pull_restores (willingSystem_within body) service
    (fun _ _ => "get") ⟨name, 1⟩ (((), publishedScene), {}) publishedRegistry_reachable
  obtain ⟨hreturns, hraises⟩ := pull_returns_over_content
  constructor
  · rcases hrun : pull [97] (((), publishedScene), {}) with ⟨x, s'⟩
    rw [hrun] at hreturns
    cases x with
    | error e => cases hreturns
    | ok result =>
        obtain ⟨_, v, m, t, _, _, _, _, _, _, houtput, hexact, hcount⟩ := (hpull [97]).of_ok hrun
        exact ⟨result, s', t, m, rfl, houtput, hexact, hcount⟩
  · rcases hrun : pull [98] (((), publishedScene), {}) with ⟨x, s'⟩
    rw [hrun] at hraises
    cases x with
    | ok result => cases hraises
    | error e => exact ⟨e, s', rfl, (hpull [98]).of_error hrun⟩

end RoboLake.Pair
