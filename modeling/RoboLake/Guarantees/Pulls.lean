import RoboLake.Guarantees.Parsers
import RoboLake.Guarantees.Staging
import RoboLake.Infrastructure.TreeDownloader

/-! # Pulls publish all or nothing

Whatever the control plane, the provider and the operating system do, a pull that
raises leaves the output path as it was, and one that returns has published exactly
the tree of the manifest that its Version names.
-/

namespace RoboLake

open Foundation Acting FileTree

/-! ## Surroundings -/

/-- Calls of the operating system keep a fact of the world whenever they return, and raise only
what is allowed. -/
structure System.Within {σ : Type} (sys : System σ) (G : σ → Prop) (P : Failure → Prop) :
    Prop where
  call : ∀ c w, Ensures (sys.call c) w (fun _ w' => G w → G w') fun e _ => P e
  lstat : ∀ p w, Ensures (sys.lstat p) w (fun _ w' => G w → G w') fun e _ => P e
  sameParent : ∀ w, Ensures sys.sameParent w (fun _ w' => G w → G w') fun e _ => P e
  uuid4 : ∀ w, Ensures sys.uuid4 w (fun _ w' => G w → G w') fun e _ => P e
  write : ∀ n w, Ensures (sys.write n) w (fun _ w' => G w → G w') fun e _ => P e
  stream : ∀ r w, Ensures (sys.stream r) w
    (fun answer w' => (G w → G w') ∧ AnswersWithin P answer) fun e _ => P e

theorem System.within_true {σ : Type} (sys : System σ) :
    sys.Within (fun _ => True) fun _ => True := by
  have hany : ∀ {α : Type} (p : Acting Failure σ α) (w : σ),
      Ensures p w (fun _ _ => True → True) fun _ _ => True := by
    intro α p w
    unfold Ensures
    split <;> simp
  refine ⟨fun _ => hany _, fun _ => hany _, hany _, hany _, fun _ => hany _, ?_⟩
  intro r w
  refine (hany (sys.stream r) w).mono ?_ fun _ _ he => he
  intro answer w' hw
  exact ⟨hw, fun _ _ => trivial⟩

theorem System.Within.outside {ω τ : Type} {sys : System ω} {P : Failure → Prop}
    {G : ω × τ → Prop} (h : sys.Within (fun _ => True) P)
    (hkept : ∀ w w' t, G (w, t) → G (w', t)) : sys.outside.Within G P := by
  have hlift : ∀ {α : Type} {p : Acting Failure ω α} {w : ω × τ},
      Ensures p w.1 (fun _ _ => True → True) (fun e _ => P e) →
      Ensures (Acting.outside p) w (fun _ w' => G w → G w') fun e _ => P e := by
    intro α p w hp
    rw [ensures_outside]
    exact hp.mono (fun _ w' _ => hkept w.1 w' w.2) fun _ _ he => he
  refine ⟨fun c w => hlift (h.call c w.1), fun p w => hlift (h.lstat p w.1),
    fun w => hlift (h.sameParent w.1), fun w => hlift (h.uuid4 w.1),
    fun n w => hlift (h.write n w.1), ?_⟩
  intro r w
  change Ensures (Acting.outside (sys.stream r)) w _ _
  rw [ensures_outside]
  exact (h.stream r w.1).mono (fun _ w' hanswer => ⟨hkept w.1 w' w.2, hanswer.2⟩) fun _ _ he => he

variable [Platform]

structure TreeState.Carries (s : TreeState) (d : TreeDownload) : Prop where
  staging : s.staging = some d.staging
  manifest : s.manifest = some d.manifest
  prepared : s.prepared = d.prepared
  completed : s.completed = d.completed

section Programs

variable {σ : Type} {sys : System σ} {G : σ → Prop} {P : Failure → Prop}
  {o : Option (FileTree PyStr Bytes)} {d : TreeDownload} {s : σ × TreeState}

/-- A download is active, and the output path is as it was. -/
structure Going (G : σ → Prop) (o : Option (FileTree PyStr Bytes)) (d : TreeDownload)
    (s : σ × TreeState) : Prop where
  world : G s.1
  carries : s.2.Carries d
  output : s.2.output = o

/-- An allowed error has been raised, and the output path is as it was. -/
def Stopped (P : Failure → Prop) (o : Option (FileTree PyStr Bytes)) (e : Failure)
    (s : σ × TreeState) : Prop :=
  P e ∧ s.2.output = o

/-! ## Single calls -/

theorem ensures_outside_of {α : Type} {p : Acting Failure σ α} {R : α → Prop}
    (h : Ensures p s.1 (fun a w' => (G s.1 → G w') ∧ R a) fun e _ => P e) :
    Ensures (outside p) s (fun a s' => (G s.1 → G s'.1) ∧ s'.2 = s.2 ∧ R a)
      (Stopped P s.2.output) := by
  rw [ensures_outside]
  refine h.mono ?_ fun e w' he => ⟨he, rfl⟩
  intro a w' hw
  exact ⟨hw.1, rfl, hw.2⟩

theorem Going.outside {α : Type} {p : Acting Failure σ α} (hgoing : Going G o d s)
    (h : Ensures p s.1 (fun _ w' => G s.1 → G w') fun e _ => P e) :
    Ensures (Acting.outside p) s (fun _ s' => Going G o d s') (Stopped P o) := by
  obtain ⟨hG, hcarries, houtput⟩ := hgoing
  refine (ensures_outside_of (R := fun _ => True) (h.mono (fun _ _ hw => ⟨hw, trivial⟩)
    fun _ _ he => he)).mono ?_ ?_
  · intro a s' hs'
    exact ⟨hs'.1 hG, by rwa [hs'.2.1], by rw [hs'.2.1, houtput]⟩
  · intro e s' he
    exact ⟨he.1, he.2.trans houtput⟩

theorem ensures_update {f : TreeState → TreeState} {Q : Unit → σ × TreeState → Prop}
    {E : Failure → σ × TreeState → Prop} :
    Ensures (AtomicTreeDownloader.update f) s Q E ↔ Q () (s.1, f s.2) := by
  unfold AtomicTreeDownloader.update
  rw [ensures_bind, ensures_own, ensures_setOwn]

theorem ensures_active {Q : TreeDownload → σ × TreeState → Prop}
    {E : Failure → σ × TreeState → Prop} (h : s.2.Carries d) :
    Ensures AtomicTreeDownloader.active s Q E ↔ Q d s := by
  unfold AtomicTreeDownloader.active
  rw [ensures_bind, ensures_own]
  simp only [h.staging, h.manifest, h.prepared, h.completed]
  exact Iff.rfl

theorem Going.change {t : TreeState} {d' : TreeDownload} (h : Going G o d s)
    (hcarries : t.Carries d') (houtput : t.output = s.2.output) : Going G o d' (s.1, t) :=
  ⟨h.world, hcarries, houtput.trans h.output⟩

/-! ## The operations -/

section Operations

variable (hsys : sys.Within G P) (hP : ∀ e, ¬IsManifestMismatch e → P e)

include hsys hP

open AtomicTreeDownloader

theorem ensures_makePrivateParents {current parts : List PyStr} (h : Going G o d s) :
    Ensures (makePrivateParents sys current parts) s
      (fun _ s' => ∃ t, mkdirPrivateParents id d.staging current parts = .ok t ∧
        Going G o { d with staging := t } s') (Stopped P o) := by
  induction parts generalizing current d s with
  | nil => exact ⟨d.staging, rfl, h⟩
  | cons part parts ih =>
      rw [makePrivateParents, ensures_bind]
      refine (h.outside (hsys.call _ _)).mono ?_ fun _ _ he => he
      intro _ s₁ h₁
      rw [ensures_bind, ensures_active h₁.carries, mkdirPrivateParents]
      cases hfind : FileTree.find id d.staging (current ++ [part]) with
      | some n =>
          obtain ⟨spelled, kind⟩ := n
          cases kind with
          | dir => exact ih h₁
          | file content =>
              refine ⟨hP _ ?_, h₁.output⟩
              rintro ⟨_, hm⟩
              cases hm
      | none =>
          simp only
          rw [ensures_bind]
          refine (h₁.outside (hsys.call _ _)).mono ?_ fun _ _ he => he
          intro _ s₂ h₂
          rw [ensures_bind, ensures_ofExcept]
          cases hadd : osCall (FileTree.add id d.staging current part .dir) with
          | error e =>
              rw [osCall_error hadd]
              refine ⟨hP _ ?_, h₂.output⟩
              rintro ⟨_, hm⟩
              cases hm
          | ok t =>
              simp only
              rw [ensures_bind, ensures_update]
              exact ih (d := { d with staging := t }) (h₂.change
                ⟨rfl, h₂.carries.manifest, h₂.carries.prepared, h₂.carries.completed⟩ rfl)

theorem ensures_prepare {entry : ManifestEntry}
    (hentry : (∀ e, P e) ∨ entry ∈ d.manifest.entries) (h : Going G o d s) :
    Ensures (prepare sys entry) s
      (fun token s' => ∃ d', TreeDownload.prepare id d entry token = .ok d' ∧ Going G o d' s')
      (Stopped P o) := by
  rw [prepare, ensures_bind, ensures_active h.carries]
  by_cases hmem : entry ∉ d.manifest.entries
  · rw [if_pos hmem]
    exact ⟨hentry.elim (fun hall => hall _) fun hin => absurd hin hmem, h.output⟩
  · rw [if_neg hmem, ensures_bind]
    refine (ensures_makePrivateParents hsys hP h).mono ?_ fun _ _ he => he
    intro _ s₁ h₁
    obtain ⟨t₁, hmkdir, h₁⟩ := h₁
    rw [ensures_bind]
    refine (h₁.outside (hsys.uuid4 _)).mono ?_ fun _ _ he => he
    intro token s₂ h₂
    rw [ensures_bind]
    refine (h₂.outside (hsys.call _ _)).mono ?_ fun _ _ he => he
    intro _ s₃ h₃
    rw [ensures_bind, ensures_active h₃.carries]
    dsimp only
    rw [ensures_bind, ensures_ofExcept]
    cases hadd : osCall (FileTree.add id t₁ (parentPath entry) (partName (finalName entry) token)
        (.file [])) with
    | error e =>
        rw [osCall_error hadd]
        exact ⟨hP _ (fun ⟨_, hm⟩ => nomatch hm), h₃.output⟩
    | ok t₂ =>
        simp only
        rw [ensures_bind, ensures_update, ensures_pure]
        refine ⟨{ d with
          staging := t₂
          prepared := d.prepared.filter (fun p => p.1 ≠ token) ++ [(token, ⟨entry,
            parentPath entry, partName (finalName entry) token, finalName entry⟩)] }, ?_,
          h₃.change ⟨rfl, h₃.carries.manifest, rfl, h₃.carries.completed⟩ rfl⟩
        unfold TreeDownload.prepare
        rw [if_neg hmem]
        refine Except.bind_ok.mpr ⟨t₁, hmkdir, Except.bind_ok.mpr ⟨t₂, hadd, ?_⟩⟩
        rfl

/-- The part file holds what has been written since the download began. -/
def Writing (G : σ → Prop) (o : Option (FileTree PyStr Bytes)) (d : TreeDownload)
    (path : List PyStr) (content : Bytes) (s : σ × TreeState) : Prop :=
  Going G o { d with staging := FileTree.extend id d.staging path content } s

omit hP in
theorem ensures_descriptor_write {path : List PyStr} {content view : Bytes} (hview : view ≠ [])
    (h : Writing G o d path content s) :
    Ensures ((descriptor sys path).write view) s
      (fun n s' => 0 < n ∧ n ≤ view.length ∧ Writing G o d path (content ++ view.take n) s')
      (Stopped P o) := by
  unfold descriptor
  rw [ensures_bind]
  refine (Going.outside h (hsys.write _ _)).mono ?_ fun _ _ he => he
  intro answered s₁ h₁
  dsimp only
  rw [ensures_bind, ensures_update, ensures_pure]
  have hpos := List.length_pos_iff.mpr hview
  refine ⟨by omega, by omega, h₁.change ⟨?_, h₁.carries.manifest, h₁.carries.prepared,
    h₁.carries.completed⟩ rfl⟩
  show s₁.2.staging.map _ = _
  rw [h₁.carries.staging, Option.map_some, extend_extend]

/-- A placement that returns has verified what it downloaded, and done what it does to the tree. -/
theorem ensures_place {state : PreparedState} {item : DownloadItem}
    (hempty : ∀ n ∈ d.staging, n.1 = state.parent ++ [state.partName] → n.2 = .file [])
    (h : Going G o d s) :
    Ensures (place sys state item) s
      (fun _ s' => ∃ content t, Verified item.entry content ∧
        osCall (FileTree.move id (FileTree.fill id d.staging (state.parent ++ [state.partName])
          content) state.parent state.partName state.finalName) = .ok t ∧
        Going G o { d with
          staging := t
          completed := d.completed ++ [state.entry.relativePath.value] } s')
      (Stopped P o) := by
  rw [place, ensures_bind]
  refine (ensures_downloadTo (I := Writing G o d (state.parent ++ [state.partName])) (K := fun s' =>
    s'.2.output = o) ?_ ?_ ?_ ?_ ?_ ?_).mono ?_ fun _ _ he => he
  · intro m
    exact ⟨hP _ (fun ⟨_, hm⟩ => nomatch hm), hP _ (fun ⟨_, hm⟩ => nomatch hm),
      hP _ (fun ⟨_, hm⟩ => nomatch hm)⟩
  · intro c s' hwriting
    exact hwriting.output
  · intro s' hwriting
    rw [ensures_outside]
    refine (hsys.stream item.request s'.1).mono ?_ fun e w he => ⟨he, hwriting.output⟩
    intro answer w hanswer
    exact ⟨⟨hanswer.1 hwriting.world, hwriting.carries, hwriting.output⟩, hanswer.2⟩
  · intro c view s' hview hwriting
    exact ensures_descriptor_write hsys hview hwriting
  · intro c s' hwriting
    exact Going.outside hwriting (hsys.call _ _)
  · show Going G o { d with staging := _ } s
    rw [extend_nil]
    exact h
  · intro _ s₁ h₁
    obtain ⟨content, hverified, h₁⟩ := h₁
    have h₁ : Going G o { d with staging := _ } s₁ := h₁
    rw [extend_eq_fill (by simpa only [List.map_id] using hempty)] at h₁
    rw [ensures_bind]
    refine (h₁.outside (hsys.call _ _)).mono ?_ fun _ _ he => he
    intro _ s₂ h₂
    rw [ensures_bind, ensures_update, ensures_bind]
    have h₃ := h₂.change (t := { s₂.2 with descriptorOpen := false })
      ⟨h₂.carries.staging, h₂.carries.manifest, h₂.carries.prepared, h₂.carries.completed⟩ rfl
    refine (h₃.outside (hsys.call _ _)).mono ?_ fun _ _ he => he
    intro _ s₄ h₄
    rw [ensures_bind, ensures_active h₄.carries]
    dsimp only
    rw [ensures_bind, ensures_ofExcept]
    cases hmove : osCall (FileTree.move id (FileTree.fill id d.staging
        (state.parent ++ [state.partName]) content) state.parent state.partName
        state.finalName) with
    | error e =>
        rw [osCall_error hmove]
        exact ⟨hP _ (fun ⟨_, hm⟩ => nomatch hm), h₄.output⟩
    | ok t =>
        simp only
        rw [ensures_update]
        refine ⟨content, t, hverified, hmove, h₄.change ⟨rfl, h₄.carries.manifest,
          h₄.carries.prepared, ?_⟩ rfl⟩
        show s₄.2.completed ++ _ = _
        rw [h₄.carries.completed]

omit hP in
theorem ensures_unlinkPart {state : PreparedState} (houtput : s.2.output = o) :
    Ensures (unlinkPart sys state) s (fun _ s' => s'.2.output = o) (Stopped P o) := by
  rw [unlinkPart, ensures_bind, ensures_outside]
  refine (hsys.call _ _).mono ?_ fun e w he => ⟨he, houtput⟩
  intro _ w _
  rw [ensures_update]
  exact houtput

omit hP in
theorem ensures_undo {state : PreparedState} {e : Failure} (he : Stopped P o e s) :
    Ensures (undo sys state e) s (fun _ _ => False) (Stopped P o) := by
  obtain ⟨hPe, houtput⟩ := he
  have hrest : ∀ s' : σ × TreeState, s'.2.output = o →
      Ensures (do unlinkPart sys state; throw e : Step σ Unit) s' (fun _ _ => False)
        (Stopped P o) := by
    intro s' houtput'
    rw [ensures_bind]
    refine (ensures_unlinkPart hsys houtput').mono ?_ fun _ _ he => he
    intro _ s'' houtput''
    exact ⟨hPe, houtput''⟩
  rw [undo, ensures_bind, ensures_own]
  by_cases hopen : s.2.descriptorOpen = true
  · rw [if_pos hopen, ensures_bind, ensures_outside]
    refine (hsys.call _ _).mono ?_ fun e w he => ⟨he, houtput⟩
    intro _ w _
    rw [ensures_bind, ensures_update]
    exact hrest _ houtput
  · rw [if_neg hopen]
    exact hrest s houtput

theorem ensures_write {token : UUID} {state : PreparedState} {item : DownloadItem}
    (hlookup : d.prepared.lookup token = some state)
    (hitem : (∀ e, P e) ∨ item.entry = state.entry)
    (hempty : ∀ n ∈ d.staging, n.1 = state.parent ++ [state.partName] → n.2 = .file [])
    (h : Going G o d s) :
    Ensures (write sys token item) s
      (fun _ s' => ∃ content d', item.entry = state.entry ∧ Verified item.entry content ∧
        TreeDownload.write id d token item.entry content = .ok d' ∧ Going G o d' s')
      (Stopped P o) := by
  rw [write, ensures_bind, ensures_own, h.carries.prepared, hlookup]
  by_cases hsame : item.entry ≠ state.entry
  · simp only
    rw [if_pos hsame]
    exact ⟨hitem.elim (fun hall => hall _) fun heq => absurd heq hsame, h.output⟩
  · simp only
    rw [if_neg hsame, ensures_bind, ensures_update, ensures_bind, ensures_tryCatch,
      ensures_tryCatch]
    have h₁ := h.change (t := { s.2 with descriptorOpen := true })
      ⟨h.carries.staging, h.carries.manifest, h.carries.prepared, h.carries.completed⟩ rfl
    refine (ensures_place hsys hP hempty h₁).mono ?_ ?_
    · intro _ s₂ h₂
      obtain ⟨content, t, hverified, hmove, h₂⟩ := h₂
      rw [ensures_update]
      refine ⟨content, { d with
        staging := t
        prepared := d.prepared.filter fun p => p.1 ≠ token
        completed := d.completed ++ [state.entry.relativePath.value] }, not_not.mp hsame, hverified,
        ?_, h₂.change ⟨h₂.carries.staging, h₂.carries.manifest, ?_, h₂.carries.completed⟩ rfl⟩
      · unfold TreeDownload.write
        rw [hlookup]
        simp only
        rw [if_neg hsame]
        exact Except.bind_ok.mpr ⟨t, hmove, rfl⟩
      · show s₂.2.prepared.filter _ = _
        rw [h₂.carries.prepared]
    · intro e s₂ he
      refine (ensures_undo hsys he).mono (fun _ _ hfalse => hfalse.elim) ?_
      intro e' s₃ he'
      rw [ensures_bind, ensures_update]
      exact he'

theorem ensures_commit (hcomplete : (∀ e, P e) ∨ ∃ t, d.commit = .ok t) (h : Going G o d s) :
    Ensures (AtomicTreeDownloader.commit sys) s
      (fun _ s' => o = none ∧ G s'.1 ∧ ∃ t, d.commit = .ok t ∧ s'.2.output = some t)
      (Stopped P o) := by
  rw [AtomicTreeDownloader.commit, ensures_bind, ensures_active h.carries, ensures_bind,
    ensures_ofExcept]
  cases hcommit : d.commit with
  | error e =>
      refine ⟨hcomplete.elim (fun hall => hall _) ?_, h.output⟩
      intro hok
      obtain ⟨t, ht⟩ := hok
      rw [hcommit] at ht
      cases ht
  | ok t =>
      simp only
      rw [ensures_bind]
      refine (h.outside (hsys.call _ _)).mono ?_ fun _ _ he => he
      intro _ s₁ h₁
      rw [ensures_bind, ensures_own]
      by_cases htaken : s₁.2.output.isSome = true
      · rw [if_pos htaken]
        exact ⟨hP _ (fun ⟨_, hm⟩ => nomatch hm), h₁.output⟩
      · rw [if_neg htaken, ensures_update]
        refine ⟨?_, h₁.world, t, rfl, rfl⟩
        rw [← h₁.output]
        exact Option.not_isSome_iff_eq_none.mp htaken

omit hP in
theorem ensures_abandon {states : List (UUID × PreparedState)} (houtput : s.2.output = o) :
    Ensures (abandon sys states) s (fun _ s' => s'.2.output = o) (Stopped P o) := by
  induction states generalizing s with
  | nil => exact houtput
  | cons p rest ih =>
      rw [abandon, ensures_bind, ensures_outside]
      refine (hsys.call _ _).mono ?_ fun e w he => ⟨he, houtput⟩
      intro _ w _
      rw [ensures_bind]
      refine (ensures_unlinkPart hsys (s := (w, s.2)) houtput).mono ?_ fun _ _ he => he
      intro _ s' houtput'
      exact ih houtput'

theorem ensures_abort (houtput : s.2.output = o) :
    Ensures (abort sys) s (fun _ s' => s'.2.output = o) (Stopped P o) := by
  rw [abort, ensures_bind, ensures_own, ensures_bind]
  refine (ensures_abandon hsys houtput).mono ?_ fun _ _ he => he
  intro _ s₁ h₁
  rw [ensures_bind, ensures_update]
  by_cases hinactive : s.2.staging.isNone = true ∨ s.2.stagingParent = false
  · rw [if_pos hinactive]
    exact h₁
  · rw [if_neg hinactive, ensures_bind, ensures_outside]
    refine (hsys.sameParent _).mono ?_ fun e w he => ⟨he, h₁⟩
    intro same w _
    by_cases hsame : same = false
    · rw [if_pos hsame]
      exact ⟨hP _ (fun ⟨_, hm⟩ => nomatch hm), h₁⟩
    · rw [if_neg hsame, ensures_bind, ensures_outside]
      refine (hsys.lstat _ _).mono ?_ fun e w he => ⟨he, h₁⟩
      intro kind w' _
      cases kind with
      | none =>
          simp only
          rw [ensures_update]
          exact h₁
      | some kind =>
          cases kind with
          | other => exact ⟨hP _ (fun ⟨_, hm⟩ => nomatch hm), h₁⟩
          | directory =>
              simp only
              rw [ensures_bind, ensures_outside]
              refine (hsys.call _ _).mono ?_ fun e w he => ⟨he, h₁⟩
              intro _ w'' _
              rw [ensures_update]
              exact h₁

theorem ensures_requireExistingDirectory (hG : G s.1) (depth : Nat) :
    Ensures (requireExistingDirectory sys depth) s (fun _ s' => G s'.1 ∧ s'.2 = s.2)
      (Stopped P s.2.output) := by
  induction depth with
  | zero => exact ⟨hG, rfl⟩
  | succ depth ih =>
      rw [requireExistingDirectory, ensures_bind]
      refine ih.mono ?_ fun _ _ he => he
      intro _ s₁ h₁
      rw [ensures_bind, ensures_outside]
      refine (hsys.lstat _ _).mono ?_ fun e w he => ⟨he, by rw [h₁.2]⟩
      intro kind w hw
      cases kind with
      | none => exact ⟨hP _ (fun ⟨_, hm⟩ => nomatch hm), by rw [h₁.2]⟩
      | some kind =>
          cases kind with
          | directory => exact ⟨hw h₁.1, h₁.2⟩
          | other => exact ⟨hP _ (fun ⟨_, hm⟩ => nomatch hm), by rw [h₁.2]⟩

/-- A download that has begun is of the manifest that the canonical bytes parse to. -/
theorem ensures_start {m : Manifest} (hG : G s.1)
    (hmanifest : (∀ e, P e) ∨ Manifest.fromCanonicalBytes m.canonicalBytes = .ok m) :
    Ensures (start sys m) s
      (fun _ s' => ∃ canonical, Manifest.fromCanonicalBytes m.canonicalBytes = .ok canonical ∧
        canonical.sha256 = m.sha256 ∧ Going G s.2.output { manifest := canonical } s')
      (Stopped P s.2.output) := by
  rw [start, ensures_bind, ensures_own]
  by_cases hactive : s.2.staging.isSome = true
  · rw [if_pos hactive]
    exact ⟨hP _ (fun ⟨_, hm⟩ => nomatch hm), rfl⟩
  · rw [if_neg hactive, ensures_bind, ensures_ofExcept]
    cases hparse : Manifest.fromCanonicalBytes m.canonicalBytes with
    | error e =>
        refine ⟨hmanifest.elim (fun hall => hall _) ?_, rfl⟩
        intro hok
        rw [hparse] at hok
        cases hok
    | ok canonical =>
        simp only
        by_cases hdigest : canonical.sha256 ≠ m.sha256
        · rw [if_pos hdigest]
          refine ⟨hmanifest.elim (fun hall => hall _) ?_, rfl⟩
          intro hok
          rw [hparse] at hok
          cases hok
          exact absurd rfl hdigest
        · rw [if_neg hdigest, ensures_bind]
          refine (ensures_requireExistingDirectory hsys hP hG _).mono ?_ fun _ _ he => he
          intro _ s₁ h₁
          obtain ⟨hG₁, hs₁⟩ := h₁
          rw [ensures_bind, ensures_outside]
          refine (hsys.call _ _).mono ?_ fun e w he => ⟨he, by rw [hs₁]⟩
          intro _ w₂ hw₂
          rw [ensures_bind, ensures_own]
          by_cases htaken : s₁.2.output.isSome = true
          · rw [if_pos htaken]
            exact ⟨hP _ (fun ⟨_, hm⟩ => nomatch hm), by rw [hs₁]⟩
          · rw [if_neg htaken, ensures_bind, ensures_outside]
            refine (hsys.uuid4 _).mono ?_ fun e w he => ⟨he, by rw [hs₁]⟩
            intro _ w₃ hw₃
            rw [ensures_bind, ensures_outside]
            refine (hsys.call _ _).mono ?_ fun e w he => ⟨he, by rw [hs₁]⟩
            intro _ w₄ hw₄
            rw [ensures_bind, ensures_outside]
            refine (hsys.call _ _).mono ?_ fun e w he => ⟨he, by rw [hs₁]⟩
            intro _ w₅ hw₅
            rw [ensures_bind, ensures_update, ensures_bind, ensures_outside]
            refine (hsys.call _ _).mono ?_ fun e w he => ⟨he, by rw [hs₁]⟩
            intro _ w₆ hw₆
            rw [ensures_update]
            refine ⟨canonical, rfl, not_not.mp hdigest, ?_, ⟨rfl, rfl, rfl, rfl⟩, by rw [hs₁]⟩
            exact hw₆ (hw₅ (hw₄ (hw₃ (hw₂ hG₁))))

end Operations

end Programs

/-! ## The workflow -/

section Workflow

variable {σ : Type} {sys : System σ} {plane : PullControlPlane (Acting Failure σ)}
  {G : Nat → Option PyStr → σ → Prop} {P : Failure → Prop} {s : σ × TreeState}

theorem entry_of_checkCapability {m : Manifest} {expected : ManifestEntry} {ordinal : Nat}
    {capability : DownloadCapability} {item : DownloadItem}
    (h : PullWorkflow.checkCapability m expected ordinal capability = .ok item) :
    item.entry = expected := by
  unfold PullWorkflow.checkCapability at h
  split at h
  · cases h
  · dsimp only at h
    split at h
    · cases h
    · rename_i hentry
      split at h
      · cases h
      · split at h
        · cases h
        · split at h
          · cases h
          · cases h
            exact not_not.mp hentry

/-- The control plane answers the plan of each ordinal with allowed errors only, and keeps the
facts of the world; where a mismatch is not allowed, its answer passes the check. -/
def Plans (plane : PullControlPlane (Acting Failure σ)) (G : Nat → Option PyStr → σ → Prop)
    (P : Failure → Prop) (versionId : UUID) (m : Manifest) : Prop :=
  ∀ k cursor w entry, G k cursor w → m.entries[k]? = some entry →
    Ensures (plane.downloadPlan versionId cursor) w
      (fun capability w' =>
        ((∀ e, P e) ∨ ∃ item, PullWorkflow.checkCapability m entry k capability = .ok item) ∧
        G (k + 1) capability.nextCursor w')
      fun e _ => P e

theorem ensures_pullEntry (hsys : ∀ k cursor, sys.Within (G k cursor) P)
    (hP : ∀ e, ¬IsManifestMismatch e → P e) {versionId : UUID} {m canonical : Manifest}
    (hplans : Plans plane G P versionId m)
    (hmanifest : (∀ e, P e) ∨ canonical = m) {o : Option (FileTree PyStr Bytes)}
    {done : List ManifestEntry} {d : TreeDownload} {entry : ManifestEntry} {k : Nat}
    {cursor : Option PyStr} (hentry : m.entries[k]? = some entry)
    (hstaged : Staged canonical done d) (h : Going (G k cursor) o d s) :
    Ensures (PullWorkflow.pullEntry plane.outside (AtomicTreeDownloader.port sys) versionId m
        cursor (entry, k)) s
      (fun cursor' s' => ∃ d', Staged canonical (done ++ [entry]) d' ∧
        Going (G (k + 1) cursor') o d' s') (Stopped P o) := by
  have hactive : (∀ e, P e) ∨ entry ∈ d.manifest.entries := by
    refine hmanifest.imp_right fun heq => ?_
    rw [hstaged.manifest, heq]
    exact List.mem_of_getElem? hentry
  rw [PullWorkflow.pullEntry, ensures_bind]
  refine (ensures_prepare (hsys k cursor) hP hactive h).mono ?_ fun _ _ he => he
  intro token s₁ h₁
  obtain ⟨d₁, hprepare, h₁⟩ := h₁
  rw [ensures_bind]
  change Ensures (Acting.outside (plane.downloadPlan versionId cursor)) _ _ _
  rw [ensures_outside]
  refine (hplans k cursor s₁.1 entry h₁.world hentry).mono ?_ fun e w he => ⟨he, h₁.output⟩
  intro capability w hcapability
  obtain ⟨hchecked, hG⟩ := hcapability
  have h₂ : Going (G (k + 1) capability.nextCursor) o d₁ (w, s₁.2) := ⟨hG, h₁.carries, h₁.output⟩
  rw [ensures_bind, ensures_ofExcept]
  cases hcheck : PullWorkflow.checkCapability m entry k capability with
  | error e =>
      refine ⟨hchecked.elim (fun hall => hall _) ?_, h₂.output⟩
      intro hok
      obtain ⟨item, hok⟩ := hok
      rw [hcheck] at hok
      cases hok
  | ok item =>
      have hitem := entry_of_checkCapability hcheck
      obtain ⟨_, hd₁, _, _, hmem⟩ := prepare_spec hstaged.wellFormed hstaged.prepared hprepare
      have hlookup : d₁.prepared.lookup token = some ⟨entry, parentPath entry,
          partName (finalName entry) token, finalName entry⟩ := by
        rw [hd₁]
        simp [List.lookup]
      have hempty : ∀ n ∈ d₁.staging,
          n.1 = parentPath entry ++ [partName (finalName entry) token] → n.2 = .file [] := by
        have hwf := (prepare_spec hstaged.wellFormed hstaged.prepared hprepare).2.2.1
        intro n hn hpath
        have hpart := (hmem (parentPath entry ++ [partName (finalName entry) token],
          Node.file [])).mpr (.inr (.inr rfl))
        rw [hwf.eq_of_keys hn hpart (by rw [hpath])]
      simp only
      rw [ensures_bind]
      refine (ensures_write (hsys (k + 1) capability.nextCursor) hP hlookup (.inr hitem) hempty
        h₂).mono ?_ fun _ _ he => he
      intro _ s₃ h₃
      obtain ⟨content, d₂, _, hverified, hwrite, h₃⟩ := h₃
      rw [hitem] at hverified hwrite
      exact ⟨d₂, hstaged.place hprepare hwrite hverified, h₃⟩

omit [Platform] in
theorem getElem?_of_zipIdx {α : Type} {xs : List α} {before rest : List (α × Nat)} {x : α × Nat}
    (h : xs.zipIdx = before ++ x :: rest) :
    x.2 = before.length ∧ xs[before.length]? = some x.1 := by
  have hget : xs.zipIdx[before.length]? = some x := by
    rw [h]
    simp
  rw [List.getElem?_zipIdx] at hget
  obtain ⟨a, ha, hx⟩ := Option.map_eq_some_iff.mp hget
  rw [← hx]
  exact ⟨by simp, ha⟩

/-- A build that returns has published the exact tree of what the canonical bytes parse to. -/
theorem ensures_build (hsys : ∀ k cursor, sys.Within (G k cursor) P)
    (hP : ∀ e, ¬IsManifestMismatch e → P e) {versionId : UUID} {m : Manifest}
    (hplans : Plans plane G P versionId m)
    (hmanifest : (∀ e, P e) ∨ Manifest.fromCanonicalBytes m.canonicalBytes = .ok m)
    (hG : G 0 none s.1) :
    Ensures (PullWorkflow.build plane.outside (AtomicTreeDownloader.port sys) versionId m) s
      (fun _ s' => s.2.output = none ∧ ∃ canonical t,
        Manifest.fromCanonicalBytes m.canonicalBytes = .ok canonical ∧
        canonical.sha256 = m.sha256 ∧ (∀ e, e ∈ m.entries ↔ e ∈ canonical.entries) ∧
        s'.2.output = some t ∧ ExactTree canonical.entries t)
      (Stopped P s.2.output) := by
  rw [PullWorkflow.build, ensures_bind]
  refine (ensures_start (hsys 0 none) hP hG hmanifest).mono ?_ fun _ _ he => he
  intro _ s₁ h₁
  obtain ⟨canonical, hparse, hdigest, h₁⟩ := h₁
  have hcanonical : (∀ e, P e) ∨ canonical = m := by
    refine hmanifest.imp_right fun hok => ?_
    rw [hparse] at hok
    exact Except.ok.inj hok
  rw [ensures_bind]
  -- What is done and what is left make up the enumeration of the entries.
  refine (ensures_foldlM (J := fun rest cursor s' => ∃ before d,
      m.entries.zipIdx = before ++ rest ∧ Staged canonical (before.map Prod.fst) d ∧
      Going (G before.length cursor) s.2.output d s') ?_ ?_).mono ?_ fun _ _ he => he
  · intro x rest cursor s₂ hJ
    obtain ⟨before, d, hsplit, hstaged, h₂⟩ := hJ
    obtain ⟨hordinal, hentry⟩ := getElem?_of_zipIdx hsplit
    obtain ⟨entry, k⟩ := x
    cases hordinal
    refine (ensures_pullEntry hsys hP hplans hcanonical hentry hstaged h₂).mono ?_
      fun _ _ he => he
    intro cursor' s₃ h₃
    obtain ⟨d', hstaged', h₃⟩ := h₃
    refine ⟨before ++ [(entry, before.length)], d', ?_, ?_, ?_⟩
    · rw [hsplit, List.append_assoc]
      rfl
    · rw [List.map_append]
      exact hstaged'
    · rw [List.length_append]
      exact h₃
  · exact ⟨[], _, rfl, staged_start canonical, h₁⟩
  · intro cursor s₂ hJ
    obtain ⟨before, d, hall, hstaged, h₂⟩ := hJ
    rw [List.append_nil] at hall
    have hdone : before.map Prod.fst = m.entries := by
      rw [← hall, List.zipIdx_map_fst]
    rw [hdone] at hstaged
    have hcomplete : (∀ e, P e) ∨ ∃ t, d.commit = .ok t := by
      refine hcanonical.imp_right fun heq => ?_
      rw [heq] at hstaged
      exact ⟨_, hstaged.commit_ok⟩
    refine (ensures_commit (hsys _ _) hP hcomplete h₂).mono ?_ fun _ _ he => he
    intro _ s₃ h₃
    obtain ⟨hfree, _, t, hcommit, houtput⟩ := h₃
    obtain ⟨hentries, hexact⟩ := hstaged.exact hparse hcommit
    exact ⟨hfree, canonical, t, hparse, hdigest, hentries, houtput, hexact⟩

theorem ensures_guarded_build (hsys : ∀ k cursor, sys.Within (G k cursor) P)
    (hP : ∀ e, ¬IsManifestMismatch e → P e) {versionId : UUID} {m : Manifest}
    (hplans : Plans plane G P versionId m)
    (hmanifest : (∀ e, P e) ∨ Manifest.fromCanonicalBytes m.canonicalBytes = .ok m)
    (hG : G 0 none s.1) :
    Ensures (tryCatch
        (PullWorkflow.build plane.outside (AtomicTreeDownloader.port sys) versionId m) fun e => do
          (AtomicTreeDownloader.port sys).abort
          throw e) s
      (fun _ s' => s.2.output = none ∧ ∃ canonical t,
        Manifest.fromCanonicalBytes m.canonicalBytes = .ok canonical ∧
        canonical.sha256 = m.sha256 ∧ (∀ e, e ∈ m.entries ↔ e ∈ canonical.entries) ∧
        s'.2.output = some t ∧ ExactTree canonical.entries t)
      (Stopped P s.2.output) := by
  rw [ensures_tryCatch]
  refine (ensures_build hsys hP hplans hmanifest hG).mono (fun _ _ hdone => hdone) ?_
  intro e s₁ he
  rw [ensures_bind]
  change Ensures (AtomicTreeDownloader.abort sys) _ _ _
  refine (ensures_abort (hsys 0 none) hP he.2).mono ?_ fun _ _ he' => he'
  intro _ s₂ houtput
  exact ⟨he.1, houtput⟩

theorem checkManifest_ok {version : VersionRecord} {m : Manifest}
    (h : PullWorkflow.checkManifest version m = .ok ()) : m.sha256 = version.manifestSha256 := by
  unfold PullWorkflow.checkManifest at h
  split at h
  · cases h
  · rename_i hsame
    exact not_not.mp hsame

/-- What a pull that returns has read, and what it has published. -/
theorem ensures_pull (sys : System σ) (plane : PullControlPlane (Acting Failure σ))
    (reference : DatasetReference) (s : σ × TreeState) :
    Ensures (PullWorkflow.run plane.outside (AtomicTreeDownloader.port sys) reference) s
      (fun result s' => s.2.output = none ∧ ∃ version w m w' canonical t,
        (plane.resolve reference s.1 = (.ok version, w) ∧ version.state = .ready) ∧
        (plane.manifest version.id w = (.ok m, w') ∧ result.materializedFileCount = m.fileCount) ∧
        Manifest.fromCanonicalBytes m.canonicalBytes = .ok canonical ∧
        canonical.sha256 = version.manifestSha256 ∧
        (∀ e, e ∈ m.entries ↔ e ∈ canonical.entries) ∧
        s'.2.output = some t ∧ ExactTree canonical.entries t)
      (fun _ s' => s'.2.output = s.2.output) := by
  rw [PullWorkflow.run, ensures_bind]
  change Ensures (Acting.outside (plane.resolve reference)) _ _ _
  rw [ensures_outside]
  refine ensures_self.mono ?_ fun _ _ _ => rfl
  intro version w hversion
  by_cases hready : version.state ≠ .ready
  · rw [if_pos hready]
    rfl
  · rw [if_neg hready, ensures_bind]
    change Ensures (Acting.outside (plane.manifest version.id)) _ _ _
    rw [ensures_outside]
    refine ensures_self.mono ?_ fun _ _ _ => rfl
    intro m w' hm
    rw [ensures_bind, ensures_ofExcept]
    cases hcheck : PullWorkflow.checkManifest version m with
    | error e => rfl
    | ok _ =>
        simp only
        rw [ensures_bind]
        refine (ensures_guarded_build (G := fun _ _ _ => True) (P := fun _ => True)
          (fun _ _ => sys.within_true) (fun _ _ => trivial) ?_ (.inl fun _ => trivial)
          trivial).mono ?_ fun _ _ he => he.2
        · intro k cursor w entry _ _
          exact ensures_self.mono (fun _ _ _ => ⟨.inl fun _ => trivial, trivial⟩)
            fun _ _ _ => trivial
        · intro _ s₁ hdone
          obtain ⟨hfree, canonical, t, hparse, hdigest, hentries, houtput, hexact⟩ := hdone
          exact ⟨hfree, version, w, m, w', canonical, t, ⟨hversion, not_not.mp hready⟩, ⟨hm, rfl⟩,
            hparse, hdigest.trans (checkManifest_ok hcheck), hentries, houtput, hexact⟩

/-- A pull that returns has published exactly the tree of the manifest that the resolved Version
names, where nothing was; a pull that raises leaves the output path as it was. -/
theorem pull_publishes_all_or_nothing (sys : System σ)
    (plane : PullControlPlane (Acting Failure σ)) (reference : DatasetReference)
    (s : σ × TreeState) :
    Ensures (PullWorkflow.run plane.outside (AtomicTreeDownloader.port sys) reference) s
      (fun _ s' => s.2.output = none ∧ ∃ version w m w' canonical t,
        plane.resolve reference s.1 = (.ok version, w) ∧
        plane.manifest version.id w = (.ok m, w') ∧
        Manifest.fromCanonicalBytes m.canonicalBytes = .ok canonical ∧
        canonical.sha256 = version.manifestSha256 ∧
        (∀ e, e ∈ m.entries ↔ e ∈ canonical.entries) ∧
        s'.2.output = some t ∧ ExactTree canonical.entries t)
      (fun _ s' => s'.2.output = s.2.output) := by
  refine (ensures_pull sys plane reference s).mono ?_ fun _ _ he => he
  intro result s' hpulled
  obtain ⟨hfree, version, w, m, w', canonical, t, ⟨hversion, _⟩, ⟨hm, _⟩, hrest⟩ := hpulled
  exact ⟨hfree, version, w, m, w', canonical, t, hversion, hm, hrest⟩

end Workflow

end RoboLake
