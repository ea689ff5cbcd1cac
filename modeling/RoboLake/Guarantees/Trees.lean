import RoboLake.Domain.Segments
import RoboLake.Infrastructure.AtomicTree
import RoboLake.Registry.Reachable

/-! # Reconstructed trees

A manifest comes back from a file system as it was written, unless the file system
takes two of its names for one.
-/

namespace RoboLake

open Foundation Foundation.Ancestors FileTree TreeDownload Manifest

variable {κ : Type} [DecidableEq κ] {key : PyStr → κ}

/-! ## Parents -/

theorem mkdirPrivateParents_ok {t : FileTree PyStr Bytes} {current parts : List PyStr}
    (h : WellFormed key t) (hcurrent : (current, Node.dir) ∈ t)
    (hclear : ∀ r, r ≠ [] → r <+: parts → ∀ n ∈ t,
      n.1.map key = (current ++ r).map key → n = (current ++ r, .dir)) :
    ∃ t', mkdirPrivateParents key t current parts = .ok t' ∧ WellFormed key t' ∧
      ∀ n, n ∈ t' ↔ n ∈ t ∨ ∃ r, r ≠ [] ∧ r <+: parts ∧ n = (current ++ r, .dir) := by
  induction parts generalizing t current with
  | nil =>
      refine ⟨t, rfl, h, fun n => ?_⟩
      rw [way_nil_iff, or_false]
  | cons part parts ih =>
      have hassoc : ∀ r, current ++ [part] ++ r = current ++ part :: r := by
        intro r
        rw [List.append_assoc]
        rfl
      rw [mkdirPrivateParents]
      cases hfind : FileTree.find key t (current ++ [part]) with
      | some n =>
          obtain ⟨hmem, hkeys⟩ := h.find_eq_some_iff.mp hfind
          have hn := hclear [part] (List.cons_ne_nil _ _) ⟨parts, rfl⟩ n hmem hkeys
          subst hn
          obtain ⟨t', hok, hwf, hmembers⟩ := ih h hmem (by
            intro r hr hbegins n hn hsame
            rw [hassoc] at hsame ⊢
            exact hclear (part :: r) (List.cons_ne_nil _ _)
              (List.cons_prefix_cons.mpr ⟨rfl, hbegins⟩) n hn hsame)
          refine ⟨t', hok, hwf, ?_⟩
          intro n
          rw [hmembers, way_cons_iff]
          constructor
          · intro hn
            exact hn.imp_right .inr
          · intro hn
            rcases hn with hn | rfl | hn
            · exact .inl hn
            · exact .inl hmem
            · exact .inr hn
      | none =>
          have hadd : FileTree.add key t current part .dir =
              .ok (t ++ [(current ++ [part], .dir)]) :=
            add_ok.mpr ⟨current, h.find_eq_some_iff.mpr ⟨hcurrent, rfl⟩, hfind, rfl⟩
          have hmem : (current ++ [part], Node.dir) ∈ t ++ [(current ++ [part], Node.dir)] := by
            simp
          obtain ⟨t', hok, hwf, hmembers⟩ := ih (h.add hadd) hmem (by
            intro r hr hbegins n hn hsame
            rcases List.mem_append.mp hn with hn | hn
            · rw [hassoc] at hsame ⊢
              exact hclear (part :: r) (List.cons_ne_nil _ _)
                (List.cons_prefix_cons.mpr ⟨rfl, hbegins⟩) n hn hsame
            · rw [List.mem_singleton.mp hn] at hsame
              have hlength := congrArg List.length hsame
              simp only [List.length_map, List.length_append] at hlength
              exact absurd (List.length_eq_zero_iff.mp (by omega)) hr)
          refine ⟨t', Except.bind_ok.mpr ⟨_, osCall_ok.mpr hadd, hok⟩, hwf, ?_⟩
          intro n
          rw [hmembers, way_cons_iff, List.mem_append, List.mem_singleton, or_assoc]

theorem mkdirPrivateParents_wellFormed {t t' : FileTree PyStr Bytes} {current parts : List PyStr}
    (h : WellFormed key t) (hok : mkdirPrivateParents key t current parts = .ok t') :
    WellFormed key t' := by
  induction parts generalizing t current with
  | nil =>
      cases hok
      exact h
  | cons part parts ih =>
      rw [mkdirPrivateParents] at hok
      split at hok
      · exact ih h hok
      · cases hok
      · obtain ⟨t₁, hadd, hok⟩ := Except.bind_ok.mp hok
        exact ih (h.add (osCall_ok.mp hadd)) hok

variable [Platform]

/-! ## One entry -/

theorem place_ok {d : TreeDownload} {entry : ManifestEntry} {token : UUID} (content : Bytes)
    (hentry : entry ∈ d.manifest.entries) (hprepared : d.prepared = [])
    (h : WellFormed key d.staging) (hpath : components entry ≠ [])
    (hclear : ∀ r, r ≠ [] → r <+: parentPath entry → ∀ n ∈ d.staging,
      n.1.map key = r.map key → n = (r, .dir))
    (hfresh : ∀ n ∈ d.staging,
      n.1.map key ≠ (parentPath entry ++ [partName (finalName entry) token]).map key)
    (hnames : key (partName (finalName entry) token) ≠ key (finalName entry))
    (hfree : ∀ n ∈ d.staging, n.1.map key ≠ (components entry).map key) :
    ∃ d₁ d₂, prepare key d entry token = .ok d₁ ∧ write key d₁ token entry content = .ok d₂ ∧
      d₂.manifest = d.manifest ∧ d₂.prepared = [] ∧
      d₂.completed = d.completed ++ [entry.relativePath.value] ∧ WellFormed key d₂.staging ∧
      ∀ n, n ∈ d₂.staging ↔ n ∈ d.staging ∨
        (∃ r, r ≠ [] ∧ r <+: parentPath entry ∧ n = (r, .dir)) ∨
        n = (components entry, .file content) := by
  have hsplit : parentPath entry ++ [finalName entry] = components entry := by
    rw [parentPath, finalName, List.getLastD_eq_getLast?, List.getLast?_eq_getLast_of_ne_nil hpath,
      Option.getD_some, List.dropLast_append_getLast]
  obtain ⟨t₁, hmkdir, hwf₁, hmem₁⟩ := mkdirPrivateParents_ok h h.rooted (by
    intro r hr hbegins n hn hkeys
    rw [List.nil_append] at hkeys ⊢
    exact hclear r hr hbegins n hn hkeys)
  simp only [List.nil_append] at hmem₁
  have hdir : (parentPath entry, Node.dir) ∈ t₁ := by
    by_cases hroot : parentPath entry = []
    · rw [hroot]
      exact hwf₁.rooted
    · exact (hmem₁ _).mpr (.inr ⟨_, hroot, List.prefix_rfl, rfl⟩)
  -- A path as long as a child of the parent directory is no parent of the entry.
  have hlonger : ∀ (name : PyStr) (n : List PyStr × Node Bytes),
      (∃ r, r ≠ [] ∧ r <+: parentPath entry ∧ n = (r, .dir)) →
        n.1.map key ≠ (parentPath entry ++ [name]).map key := by
    intro name n hn hkeys
    obtain ⟨r, _, hbegins, rfl⟩ := hn
    have hlength := congrArg List.length hkeys
    have hshort := hbegins.length_le
    simp only [List.length_map, List.length_append, List.length_singleton] at hlength
    omega
  obtain ⟨t₂, t₃, hadd, hmove, hwf₃, hmem₃⟩ := hwf₁.add_fill_move
    (partName (finalName entry) token) (finalName entry) hdir (by
      intro n hn
      rcases (hmem₁ n).mp hn with hn | hn
      · exact hfresh n hn
      · exact hlonger _ n hn) (by
      intro n hn
      rcases (hmem₁ n).mp hn with hn | hn
      · rw [hsplit]
        exact hfree n hn
      · exact hlonger _ n hn) hnames [] content
  refine ⟨{ d with
      staging := t₂
      prepared := [(token, ⟨entry, parentPath entry, partName (finalName entry) token,
        finalName entry⟩)] },
    { d with
      staging := t₃
      prepared := []
      completed := d.completed ++ [entry.relativePath.value] }, ?_, ?_, rfl, rfl, rfl, hwf₃, ?_⟩
  · unfold prepare
    rw [if_neg (not_not.mpr hentry)]
    refine Except.bind_ok.mpr ⟨t₁, hmkdir, Except.bind_ok.mpr ⟨t₂, osCall_ok.mpr hadd, ?_⟩⟩
    rw [hprepared]
    rfl
  · unfold write
    simp only [List.lookup, beq_self_eq_true]
    rw [if_neg (by simp)]
    refine Except.bind_ok.mpr ⟨t₃, osCall_ok.mpr hmove, ?_⟩
    simp
    rfl
  · intro n
    rw [hmem₃, hmem₁, hsplit, or_assoc]

theorem place_inv {d d₁ d₂ : TreeDownload} {entry : ManifestEntry} {token : UUID}
    {content : Bytes} (hprepare : prepare key d entry token = .ok d₁)
    (hwrite : write key d₁ token entry content = .ok d₂) :
    ∃ t, mkdirPrivateParents key d.staging [] (parentPath entry) = .ok t ∧
      FileTree.add key t (parentPath entry) (partName (finalName entry) token) (.file []) =
        .ok d₁.staging ∧
      FileTree.move key (FileTree.fill key d₁.staging
        (parentPath entry ++ [partName (finalName entry) token]) content) (parentPath entry)
        (partName (finalName entry) token) (finalName entry) = .ok d₂.staging := by
  unfold prepare at hprepare
  split at hprepare
  · cases hprepare
  · obtain ⟨t₁, hmkdir, hprepare⟩ := Except.bind_ok.mp hprepare
    obtain ⟨t₂, hadd, hprepare⟩ := Except.bind_ok.mp hprepare
    cases hprepare
    have hlookup : ∀ state : PreparedState,
        (d.prepared.filter (fun p => p.1 ≠ token) ++ [(token, state)]).lookup token =
          some state := by
      intro state
      rw [List.lookup_append]
      have hnone : (d.prepared.filter fun p => p.1 ≠ token).lookup token = none := by
        rw [List.lookup_eq_none_iff]
        intro p hp
        have hne : p.1 ≠ token := by simpa using (List.mem_filter.mp hp).2
        simpa using hne.symm
      rw [hnone]
      simp [List.lookup]
    unfold write at hwrite
    simp only [hlookup] at hwrite
    rw [if_neg (by simp)] at hwrite
    obtain ⟨t₃, hmove, hwrite⟩ := Except.bind_ok.mp hwrite
    cases hwrite
    exact ⟨t₁, hmkdir, osCall_ok.mp hadd, osCall_ok.mp hmove⟩

theorem place_wellFormed {d d₁ d₂ : TreeDownload} {entry : ManifestEntry} {token : UUID}
    {content : Bytes} (h : WellFormed key d.staging) (hprepare : prepare key d entry token = .ok d₁)
    (hwrite : write key d₁ token entry content = .ok d₂) : WellFormed key d₂.staging := by
  obtain ⟨t, hmkdir, hadd, hmove⟩ := place_inv hprepare hwrite
  have hwf := (mkdirPrivateParents_wellFormed h hmkdir).add hadd
  refine WellFormed.move (hwf.fill ?_) hmove
  -- The only node with the keys of the part path is the part file.
  intro n hn hkeys
  obtain ⟨spelled, hparent, hfree, heq⟩ := add_ok.mp hadd
  rw [heq] at hn
  rcases List.mem_append.mp hn with hn | hn
  · exact absurd hkeys (find_eq_none_iff.mp hfree n hn)
  · rw [List.mem_singleton.mp hn]
    exact fun hdir => by cases hdir

theorem placeAll_wellFormed {tokens : ManifestEntry → UUID} {contents : ManifestEntry → Bytes}
    {d d' : TreeDownload} {entries : List ManifestEntry} (h : WellFormed key d.staging)
    (hok : placeAll key tokens contents d entries = .ok d') : WellFormed key d'.staging := by
  induction entries generalizing d with
  | nil =>
      cases hok
      exact h
  | cons entry rest ih =>
      obtain ⟨d₁, hprepare, hok⟩ := Except.bind_ok.mp hok
      obtain ⟨d₂, hwrite, hok⟩ := Except.bind_ok.mp hok
      exact ih (place_wellFormed h hprepare hwrite) hok

/-! ## Whole manifests -/

def pathsOf (entries : List ManifestEntry) : List (List PyStr) := entries.map components

def FreshTokens (key : PyStr → κ) (tokens : ManifestEntry → UUID) (m : Manifest) : Prop :=
  ∀ e ∈ m.entries, ∀ e' ∈ m.entries, ∀ s ∈ components e',
    key (partName (finalName e) (tokens e)) ≠ key s

theorem components_ne (e : ManifestEntry) : components e ≠ [] := by
  unfold components segments
  exact List.splitOnP_ne_nil _ _

theorem prefix_parentPath_iff {e : ManifestEntry} {r : List PyStr} :
    r <+: parentPath e ↔ r ≠ components e ∧ r <+: components e := by
  have hsplit := List.dropLast_append_getLast (components_ne e)
  constructor
  · intro h
    refine ⟨?_, h.trans (List.dropLast_prefix _)⟩
    rintro rfl
    have hlength := h.length_le
    rw [parentPath, List.length_dropLast] at hlength
    have hpos := List.length_pos_iff.mpr (components_ne e)
    omega
  · rintro ⟨hne, rest, hrest⟩
    cases rest using List.reverseRecOn with
    | nil =>
        rw [List.append_nil] at hrest
        exact absurd hrest hne
    | append_singleton rest last =>
        rw [parentPath, ← hrest, ← List.append_assoc, List.dropLast_concat]
        exact List.prefix_append _ _

/-- The staged tree of some entries: their files and the directories above them. -/
structure Placed (key : PyStr → κ) (contents : ManifestEntry → Bytes) (m : Manifest)
    (done : List ManifestEntry) (d : TreeDownload) : Prop where
  manifest : d.manifest = m
  prepared : d.prepared = []
  completed : d.completed = done.map fun e => e.relativePath.value
  wellFormed : WellFormed key d.staging
  nodes : ∀ n, n ∈ d.staging ↔ n = ([], .dir) ∨
    (∃ e ∈ done, ∃ r, r ≠ [] ∧ r <+: parentPath e ∧ n = (r, .dir)) ∨
    ∃ e ∈ done, n = (components e, .file (contents e))

/-- Entries are placed one after the other where their paths can be held as they are spelled. -/
theorem placeAll_ok {tokens : ManifestEntry → UUID} {contents : ManifestEntry → Bytes}
    {m : Manifest} {d : TreeDownload} {done todo : List ManifestEntry}
    (hcoherent : Coherent key (pathsOf m.entries)) (hseparate : Separate key (pathsOf m.entries))
    (hfresh : FreshTokens key tokens m) (hentries : done ++ todo = m.entries)
    (hplaced : Placed key contents m done d) :
    ∃ d', placeAll key tokens contents d todo = .ok d' ∧ Placed key contents m m.entries d' := by
  induction todo generalizing d done with
  | nil =>
      rw [List.append_nil] at hentries
      exact ⟨d, rfl, hentries ▸ hplaced⟩
  | cons entry todo ih =>
      obtain ⟨hmanifest, hprepared, hcompleted, hwf, hnodes⟩ := hplaced
      have hentry : entry ∈ m.entries := by
        rw [← hentries]
        simp
      have hdone : ∀ e ∈ done, e ∈ m.entries := by
        intro e he
        rw [← hentries]
        exact List.mem_append_left _ he
      have hpath : ∀ e ∈ m.entries, components e ∈ pathsOf m.entries :=
        fun e he => List.mem_map_of_mem he
      have hearlier : ∀ e ∈ done, (components e).map key ≠ (components entry).map key := by
        have hnodup := hseparate.1
        rw [pathsOf, ← hentries, List.map_append, List.map_append, List.nodup_append] at hnodup
        intro e he
        exact hnodup.2.2 _ (List.mem_map_of_mem (List.mem_map_of_mem he)) _
          (by rw [List.map_cons, List.map_cons]; exact List.mem_cons_self)
      have hlast : ∀ e ∈ m.entries, ∀ r, r <+: components e → r ≠ [] →
          r.map key ≠
            (parentPath entry ++ [partName (finalName entry) (tokens entry)]).map key := by
        intro e he r hr hne hkeys
        have hends := congrArg List.getLast? hkeys
        rw [List.map_append, List.map_singleton, List.getLast?_concat, List.getLast?_map,
          List.getLast?_eq_getLast_of_ne_nil hne, Option.map_some, Option.some.injEq] at hends
        exact hfresh entry hentry e he _ (hr.subset (List.getLast_mem hne)) hends.symm
      -- A node with the keys of a parent is that parent.
      have hclear : ∀ r, r ≠ [] → r <+: parentPath entry → ∀ n ∈ d.staging,
          n.1.map key = r.map key → n = (r, .dir) := by
        intro r hr hbegins n hn hkeys
        obtain ⟨hproper, hbegins⟩ := prefix_parentPath_iff.mp hbegins
        rcases (hnodes n).mp hn with rfl | ⟨e, he, r', _, hr', rfl⟩ | ⟨e, he, rfl⟩
        · exact absurd (List.map_eq_nil_iff.mp hkeys.symm) hr
        · obtain ⟨hproper', hbegins'⟩ := prefix_parentPath_iff.mp hr'
          rw [hcoherent _ (hpath e (hdone e he)) _ (hpath entry hentry) r' r hproper' hproper
            hbegins' hbegins hkeys]
        · exact absurd hkeys (hseparate.2 _ (hpath e (hdone e he)) _ (hpath entry hentry) r hproper
            hbegins)
      have hpart : ∀ n ∈ d.staging, n.1.map key ≠
          (parentPath entry ++ [partName (finalName entry) (tokens entry)]).map key := by
        intro n hn
        rcases (hnodes n).mp hn with rfl | ⟨e, he, r, hr, hbegins, rfl⟩ | ⟨e, he, rfl⟩
        · intro hkeys
          have hlength := congrArg List.length hkeys
          simp at hlength
        · exact hlast e (hdone e he) r (prefix_parentPath_iff.mp hbegins).2 hr
        · exact hlast e (hdone e he) _ List.prefix_rfl (components_ne e)
      have hnames : key (partName (finalName entry) (tokens entry)) ≠ key (finalName entry) := by
        have hmem : finalName entry ∈ components entry := by
          rw [finalName, List.getLastD_eq_getLast?,
            List.getLast?_eq_getLast_of_ne_nil (components_ne entry), Option.getD_some]
          exact List.getLast_mem _
        exact hfresh entry hentry entry hentry _ hmem
      have hfree : ∀ n ∈ d.staging, n.1.map key ≠ (components entry).map key := by
        intro n hn hkeys
        rcases (hnodes n).mp hn with rfl | ⟨e, he, r, hr, hbegins, rfl⟩ | ⟨e, he, rfl⟩
        · exact components_ne entry (List.map_eq_nil_iff.mp hkeys.symm)
        · obtain ⟨hproper, hbegins⟩ := prefix_parentPath_iff.mp hbegins
          exact hseparate.2 _ (hpath entry hentry) _ (hpath e (hdone e he)) r hproper hbegins
            hkeys.symm
        · exact hearlier e he hkeys
      have hactive : entry ∈ d.manifest.entries := by rwa [hmanifest]
      obtain ⟨d₁, d₂, hprepare, hwrite, hmanifest₂, hprepared₂, hcompleted₂, hwf₂, hnodes₂⟩ :=
        place_ok (contents entry) hactive hprepared hwf (components_ne entry) hclear hpart hnames
          hfree
      have hplaced₂ : Placed key contents m (done ++ [entry]) d₂ := by
        refine ⟨hmanifest₂.trans hmanifest, hprepared₂, ?_, hwf₂, ?_⟩
        · rw [hcompleted₂, hcompleted, List.map_append]
          rfl
        · intro n
          rw [hnodes₂, hnodes]
          simp only [List.mem_append, List.mem_singleton, or_and_right, exists_or, exists_eq_left]
          rw [or_assoc, or_or_or_comm]
      obtain ⟨d', hrest, hplaced'⟩ := ih (by rw [List.append_assoc]; exact hentries) hplaced₂
      refine ⟨d', ?_, hplaced'⟩
      exact Except.bind_ok.mpr ⟨d₁, hprepare, Except.bind_ok.mpr ⟨d₂, hwrite, hrest⟩⟩

/-- A manifest comes back as it was written exactly when its paths can be held as spelled. -/
theorem materialize_exact_iff {tokens : ManifestEntry → UUID} {contents : ManifestEntry → Bytes}
    {m : Manifest} (hfresh : FreshTokens key tokens m) :
    (∃ t, materialize key tokens contents m = .ok t ∧ (files t).Perm (pathsOf m.entries)) ↔
      Coherent key (pathsOf m.entries) ∧ Separate key (pathsOf m.entries) := by
  constructor
  · intro h
    obtain ⟨t, hok, hfiles⟩ := h
    obtain ⟨d, hplaced, hcommit⟩ := Except.bind_ok.mp hok
    have hwf := placeAll_wellFormed (wellFormed_empty) hplaced
    unfold TreeDownload.commit at hcommit
    split at hcommit
    · cases hcommit
    · split at hcommit
      · cases hcommit
      · cases hcommit
        exact hwf.spelled hfiles
  · intro h
    obtain ⟨hcoherent, hseparate⟩ := h
    have hstart : Placed key contents m [] { manifest := m } := by
      refine ⟨rfl, rfl, rfl, wellFormed_empty, ?_⟩
      intro n
      simp [FileTree.empty]
    obtain ⟨d, hok, hmanifest, hprepared, hcompleted, hwf, hnodes⟩ :=
      placeAll_ok hcoherent hseparate hfresh (List.nil_append _) hstart
    have hcommit : d.commit = .ok d.staging := by
      unfold TreeDownload.commit
      rw [if_neg (not_not.mpr hprepared), if_neg]
      rw [hcompleted, hmanifest, not_or, not_not, not_not]
      exact ⟨fun p hp => hp, fun e he => List.mem_map_of_mem he⟩
    refine ⟨d.staging, Except.bind_ok.mpr ⟨d, hok, hcommit⟩, ?_⟩
    have hleft : (files d.staging).Nodup := hwf.files_nodup.of_map _
    have hright : (pathsOf m.entries).Nodup := hseparate.1.of_map _
    rw [List.perm_ext_iff_of_nodup hleft hright]
    intro p
    rw [mem_files]
    constructor
    · intro hp
      obtain ⟨content, hmem⟩ := hp
      rcases (hnodes _).mp hmem with hroot | ⟨_, _, _, _, _, hdir⟩ | ⟨e, he, hfile⟩
      · cases hroot
      · cases hdir
      · rw [(Prod.mk.inj hfile).1]
        exact List.mem_map_of_mem he
    · intro hp
      obtain ⟨e, he, rfl⟩ := List.mem_map.mp hp
      exact ⟨contents e, (hnodes _).mpr (.inr (.inr ⟨e, he, rfl⟩))⟩

/-! ## File systems that fold names -/

/-- Ancestor directories of the entries that have one key are spelled the same. -/
def AncestorsCoherent (entries : List ManifestEntry) : Prop :=
  ∀ e ∈ entries, ∀ e' ∈ entries, ∀ a a' : PyStr, IsAncestor slash a e.relativePath.value →
    IsAncestor slash a' e'.relativePath.value → nfc (casefold a) = nfc (casefold a') → a = a'

theorem ancestorsCoherent_iff (hfolds : FoldsSegments) {entries : List ManifestEntry} :
    AncestorsCoherent entries ↔ Coherent segmentKey (pathsOf entries) := by
  constructor
  · intro h p hp q hq d e hd he hdp heq hkeys
    obtain ⟨x, hx, rfl⟩ := List.mem_map.mp hp
    obtain ⟨y, hy, rfl⟩ := List.mem_map.mp hq
    by_cases hroot : d = []
    · rw [hroot, List.map_nil, eq_comm, List.map_eq_nil_iff] at hkeys
      rw [hroot, hkeys]
    · have hroot' : e ≠ [] := by
        intro hempty
        rw [hempty, List.map_nil, List.map_eq_nil_iff] at hkeys
        exact hroot hkeys
      have hjoin := segments_intercalate hroot fun s hs => hdp.subset hs
      have hjoin' := segments_intercalate hroot' fun s hs => heq.subset hs
      have hsame := h x hx y hy ([slash].intercalate d) ([slash].intercalate e)
        (isAncestor_iff_segments.mpr ⟨by rwa [hjoin], by rwa [hjoin]⟩)
        (isAncestor_iff_segments.mpr ⟨by rwa [hjoin'], by rwa [hjoin']⟩)
        ((key_eq_iff hfolds).mpr (by rwa [hjoin, hjoin']))
      rw [← hjoin, hsame, hjoin']
  · intro h e he e' he' a a' ha ha' hkeys
    obtain ⟨hne, hbegins⟩ := isAncestor_iff_segments.mp ha
    obtain ⟨hne', hbegins'⟩ := isAncestor_iff_segments.mp ha'
    exact segments_injective (h _ (List.mem_map_of_mem he) _ (List.mem_map_of_mem he') _ _ hne hne'
      hbegins hbegins' ((key_eq_iff hfolds).mp hkeys))

/-- The key of one entry is an ancestor of the key of another. -/
def HasAncestorKey (entries : List ManifestEntry) : Prop :=
  ∃ e ∈ entries, ∃ e' ∈ entries,
    IsAncestor slash (collisionKey e.relativePath) (collisionKey e'.relativePath)

theorem segments_collisionKey (hfolds : FoldsSegments) (e : ManifestEntry) :
    segments (collisionKey e.relativePath) = (components e).map segmentKey :=
  hfolds e.relativePath.value

theorem separate_iff (hfolds : FoldsSegments) {entries : List ManifestEntry}
    (hnodup : (keys entries).Nodup) :
    Separate segmentKey (pathsOf entries) ↔ ¬HasAncestorKey entries := by
  constructor
  · intro h hancestor
    obtain ⟨e, he, e', he', hkeys⟩ := hancestor
    obtain ⟨hne, hbegins⟩ := isAncestor_iff_segments.mp hkeys
    rw [segments_collisionKey hfolds, segments_collisionKey hfolds] at hne hbegins
    obtain ⟨d, hd, hsame⟩ := List.prefix_map_iff.mp hbegins
    refine h.2 _ (List.mem_map_of_mem he) _ (List.mem_map_of_mem he') d ?_ hd hsame
    rintro rfl
    exact hne hsame
  · intro h
    refine ⟨?_, ?_⟩
    · have hpaths : (pathsOf entries).map (List.map segmentKey) =
          (keys entries).map segments := by
        rw [pathsOf, keys, List.map_map, List.map_map]
        apply List.map_congr_left
        intro e _
        exact (segments_collisionKey hfolds e).symm
      rw [hpaths]
      exact hnodup.map fun _ _ => segments_injective
    · intro p hp q hq d hne hbegins hkeys
      obtain ⟨e, he, rfl⟩ := List.mem_map.mp hp
      obtain ⟨e', he', rfl⟩ := List.mem_map.mp hq
      refine h ⟨e, he, e', he', isAncestor_iff_segments.mpr ⟨?_, ?_⟩⟩
      · rw [segments_collisionKey hfolds, segments_collisionKey hfolds, hkeys]
        intro heq
        have hlength := congrArg List.length heq
        rw [List.length_map, List.length_map] at hlength
        exact hne (hbegins.eq_of_length hlength)
      · rw [segments_collisionKey hfolds, segments_collisionKey hfolds, hkeys]
        exact hbegins.map _

/-- A built manifest survives a file system that folds names, with its directories spelled as they
are, exactly when no two sibling directories on its paths have one key and no entry's key is an
ancestor of another's. -/
theorem trees_survive_folding_iff {supplied : List ManifestEntry} {m : Manifest}
    {tokens : ManifestEntry → UUID} {contents : ManifestEntry → Bytes}
    (hbuild : build supplied = .ok m) (hfolds : FoldsSegments)
    (hfresh : FreshTokens segmentKey tokens m) :
    (AncestorsCoherent m.entries ∧ ∃ t, materialize segmentKey tokens contents m = .ok t ∧
      (files t).Perm (pathsOf m.entries)) ↔
    ¬HasSiblingClash segmentKey (pathsOf m.entries) ∧ ¬HasAncestorKey m.entries := by
  rw [ancestorsCoherent_iff hfolds, materialize_exact_iff hfresh,
    separate_iff hfolds (keys_nodup_of_build hbuild), coherent_iff]
  constructor
  · intro h
    exact h.2
  · intro h
    exact ⟨h.1, h⟩

/-! ## Name lengths -/

/-- The names of the file system that one entry creates: its directories, its part file and its
final name. -/
def createdNames (e : ManifestEntry) (token : UUID) : List PyStr :=
  parentPath e ++ [partName (finalName e) token, finalName e]

omit [Platform] in
theorem mem_of_creates_mkdir {t t' : FileTree PyStr Bytes} {current parts : List PyStr}
    (hok : mkdirPrivateParents key t current parts = .ok t') {name : PyStr}
    (h : Creates t t' name) : name ∈ parts := by
  induction parts generalizing t current with
  | nil =>
      cases hok
      obtain ⟨_, hnew, hold, _⟩ := h
      exact absurd hnew hold
  | cons part parts ih =>
      rw [mkdirPrivateParents] at hok
      split at hok
      · exact List.mem_cons_of_mem part (ih hok h)
      · cases hok
      · obtain ⟨t₁, hadd, hok⟩ := Except.bind_ok.mp hok
        rcases h.split t₁ with h | h
        · rw [(creates_add_iff (osCall_ok.mp hadd)).mp h]
          exact List.mem_cons_self
        · exact List.mem_cons_of_mem part (ih hok h)

omit [Platform] in
theorem subset_mkdirPrivateParents {t t' : FileTree PyStr Bytes} {current parts : List PyStr}
    (hok : mkdirPrivateParents key t current parts = .ok t') : t ⊆ t' := by
  induction parts generalizing t current with
  | nil =>
      cases hok
      exact List.Subset.refl _
  | cons part parts ih =>
      rw [mkdirPrivateParents] at hok
      split at hok
      · exact ih hok
      · cases hok
      · obtain ⟨t₁, hadd, hok⟩ := Except.bind_ok.mp hok
        obtain ⟨_, _, _, rfl⟩ := add_ok.mp (osCall_ok.mp hadd)
        exact List.Subset.trans (List.subset_append_left _ _) (ih hok)

/-- Preparing and writing an entry makes these names only, and always the part file's. -/
theorem createdNames_of_place {d d₁ d₂ : TreeDownload} {e : ManifestEntry} {token : UUID}
    {content : Bytes} (hprepare : prepare key d e token = .ok d₁)
    (hwrite : write key d₁ token e content = .ok d₂) :
    (∀ name, Creates d.staging d₁.staging name ∨ Creates d₁.staging d₂.staging name →
      name ∈ createdNames e token) ∧
    Creates d.staging d₁.staging (partName (finalName e) token) := by
  obtain ⟨t, hmkdir, hadd, hmove⟩ := place_inv hprepare hwrite
  constructor
  · intro name hname
    rcases hname with hname | hname
    · rcases hname.split t with hname | hname
      · exact List.mem_append_left _ (mem_of_creates_mkdir hmkdir hname)
      · rw [(creates_add_iff hadd).mp hname]
        exact List.mem_append_right _ List.mem_cons_self
    · rcases hname.split (FileTree.fill key d₁.staging
        (parentPath e ++ [partName (finalName e) token]) content) with hname | hname
      · exact absurd hname not_creates_fill
      · rw [eq_of_creates_move hmove hname]
        exact List.mem_append_right _ (List.mem_cons_of_mem _ List.mem_cons_self)
  · obtain ⟨path, hnew, hold, hlast⟩ := (creates_add_iff hadd).mpr rfl
    refine ⟨path, hnew, fun hmem => hold ?_, hlast⟩
    exact List.map_subset Prod.fst (subset_mkdirPrivateParents hmkdir) hmem

def nameBytes (name : PyStr) : Nat := (name.flatMap utf8).length

omit [Platform] in
theorem nameBytes_append (s t : PyStr) : nameBytes (s ++ t) = nameBytes s + nameBytes t := by
  rw [nameBytes, List.flatMap_append, List.length_append]
  rfl

omit [Platform] in
theorem nameBytes_asciiStr {cs : List Char} (h : ∀ c ∈ cs, c.toNat < 128) :
    nameBytes (asciiStr cs) = cs.length := by
  induction cs with
  | nil => rfl
  | cons c cs ih =>
      have hc := h c List.mem_cons_self
      have hvalue : (Fin.ofNat 0x110000 c.toNat).val = c.toNat := Nat.mod_eq_of_lt (by omega)
      have hone : (utf8 (Fin.ofNat 0x110000 c.toNat)).length = 1 := by
        rw [utf8, hvalue, if_pos hc]
        rfl
      have hrest := ih fun x hx => h x (List.mem_cons_of_mem c hx)
      have hsplit : asciiStr (c :: cs) = [Fin.ofNat 0x110000 c.toNat] ++ asciiStr cs := rfl
      rw [hsplit, nameBytes_append, hrest, nameBytes, List.flatMap_singleton, hone,
        List.length_cons, Nat.add_comm]

omit [Platform] in
/-- A part file's name is thirty-nine bytes longer than the final name. -/
theorem nameBytes_partName (name : PyStr) (token : UUID) :
    nameBytes (partName name token) = nameBytes name + 39 := by
  have hhex : nameBytes (asciiStr token.hex) = 32 := by
    have hascii : ∀ c ∈ token.hex, c.toNat < 128 := by
      apply Hex.forall_mem_encode
      intro n hn
      exact (by decide : ∀ n : Fin 16, (Hex.digit n.val).toNat < 128) ⟨n, hn⟩
    rw [nameBytes_asciiStr hascii, UUID.hex, Hex.length_encode, UUID.bytes]
    simp [bigEndian]
  have hdot : nameBytes (text ".") = 1 := rfl
  have hpart : nameBytes (text ".part") = 5 := rfl
  rw [partName, nameBytes_append, nameBytes_append, nameBytes_append, nameBytes_append, hhex, hdot,
    hpart]
  omega

theorem nameBytes_le_of_mem {e : ManifestEntry} {name : PyStr} (h : name ∈ components e) :
    nameBytes name ≤ maxPathSegmentBytes := by
  obtain ⟨encoded, _, hsafe⟩ := (Option.any_eq_true _ _).mp e.relativePath.safe
  unfold RelativePath.isSafe at hsafe
  simp only [Bool.not_eq_true', Bool.or_eq_false_iff, List.any_eq_false, decide_eq_true_eq] at hsafe
  have hbound := hsafe.1.2 name h
  exact not_lt.mp hbound

/-- Every name that preparing and writing an entry creates is within the limit of a path segment
exactly when its final name leaves room for what the part file adds. -/
theorem created_names_fit_iff (e : ManifestEntry) (token : UUID) :
    ((∀ name ∈ createdNames e token, nameBytes name ≤ maxPathSegmentBytes) ↔
      nameBytes (finalName e) + 39 ≤ maxPathSegmentBytes) ∧
    ∀ (key : PyStr → κ) (content : Bytes) (d d₁ d₂ : TreeDownload),
      prepare key d e token = .ok d₁ → write key d₁ token e content = .ok d₂ →
      ((∀ name, Creates d.staging d₁.staging name ∨ Creates d₁.staging d₂.staging name →
        nameBytes name ≤ maxPathSegmentBytes) ↔
        nameBytes (finalName e) + 39 ≤ maxPathSegmentBytes) := by
  have hlast : finalName e ∈ components e := by
    rw [finalName, List.getLastD_eq_getLast?,
      List.getLast?_eq_getLast_of_ne_nil (components_ne e), Option.getD_some]
    exact List.getLast_mem _
  have hfits : (∀ name ∈ createdNames e token, nameBytes name ≤ maxPathSegmentBytes) ↔
      nameBytes (finalName e) + 39 ≤ maxPathSegmentBytes := by
    constructor
    · intro h
      rw [← nameBytes_partName (finalName e) token]
      exact h _ (by simp [createdNames])
    · intro h name hname
      rcases List.mem_append.mp hname with hname | hname
      · exact nameBytes_le_of_mem ((List.dropLast_subset _) hname)
      · rcases List.mem_cons.mp hname with rfl | hname
        · rwa [nameBytes_partName]
        · rw [List.mem_singleton.mp hname]
          exact nameBytes_le_of_mem hlast
  refine ⟨hfits, ?_⟩
  intro key content d d₁ d₂ hprepare hwrite
  obtain ⟨hcreated, hpart⟩ := createdNames_of_place hprepare hwrite
  constructor
  · intro h
    rw [← nameBytes_partName (finalName e) token]
    exact h _ (.inl hpart)
  · intro h name hname
    exact hfits.mpr h name (hcreated name hname)

end RoboLake

namespace RoboLake.Folding

open Foundation Foundation.Ancestors FileTree TreeDownload Manifest

def lower (c : CodePoint) : CodePoint :=
  if 65 ≤ c.val ∧ c.val ≤ 90 then Fin.ofNat 0x110000 (c.val + 32) else c

/-- The digests of the texts of the manifests below. -/
def treeDigest : Sha256Digest :=
  Sample.digest 0x245bc9771db22119a7976b7877dc9abc18dbe378930fb86f4ca8a9626f2f3bb9

def siblingsDigest : Sha256Digest :=
  Sample.digest 0xfc4d35c9df7926560131e92cf6a04fd9acee37e0d15cd3a0a5a5383b6a4d2a36

/-- A platform that folds the letters of ASCII; the first manifest alone has an `A` in its text. -/
scoped instance platform : Platform where
  sha256 data := if 65 ∈ data then treeDigest else siblingsDigest
  nfc := id
  nfc_nfc := Sample.platform.nfc_nfc
  casefold := List.map lower
  isalpha c := (65 ≤ c.val && c.val ≤ 90) || (97 ≤ c.val && c.val ≤ 122)
  jsonLoads _ := .error .valueError
  jsonClosed _ := []

set_option maxRecDepth 100000 in
def upperPath : RelativePath := ⟨text "A/x", rfl, by decide +kernel⟩

set_option maxRecDepth 100000 in
def lowerPath : RelativePath := ⟨text "a/y", rfl, by decide +kernel⟩

set_option maxRecDepth 100000 in
def siblingPath : RelativePath := ⟨text "a/z", rfl, by decide +kernel⟩

def upperEntry : ManifestEntry where
  relativePath := upperPath
  sizeBytes := 1
  sha256 := Sample.digest 0x2d711642b726b04401627ca9fbac32f5c8530fb1903cc4db02258717921a4881

def lowerEntry : ManifestEntry where
  relativePath := lowerPath
  sizeBytes := 1
  sha256 := Sample.digest 0xa1fce4363854ff888cff4b8e7875d600c2682390412a8cf79b37d0b11148b0fa

def siblingEntry : ManifestEntry where
  relativePath := siblingPath
  sizeBytes := 1
  sha256 := Sample.digest 0x594e519ae499312b29433b7dd8a97ff068defcba9755b6d5d00e84c524d67b06

def tree : Manifest where
  entries := [upperEntry, lowerEntry]
  canonicalBytes := canonicalJson [upperEntry, lowerEntry]
  sha256 := treeDigest

def siblings : Manifest where
  entries := [lowerEntry, siblingEntry]
  canonicalBytes := canonicalJson [lowerEntry, siblingEntry]
  sha256 := siblingsDigest

set_option maxRecDepth 100000 in
theorem build_siblings : build [lowerEntry, siblingEntry] = .ok siblings := by
  decide

set_option maxRecDepth 100000 in
theorem build_tree : build [upperEntry, lowerEntry] = .ok tree := by
  decide

theorem lower_eq_slash {c : CodePoint} : lower c = slash ↔ c = slash := by
  unfold lower
  split
  · rename_i hc
    have hvalue : (Fin.ofNat 0x110000 (c.val + 32)).val = c.val + 32 := Nat.mod_eq_of_lt (by omega)
    have hslash : slash.val = 47 := rfl
    constructor
    · intro h
      rw [h] at hvalue
      omega
    · intro h
      rw [h] at hc
      omega
  · rfl

theorem foldsSegments : FoldsSegments := by
  intro s
  show List.splitOn slash (s.map lower) = (List.splitOn slash s).map (List.map lower)
  induction s with
  | nil => rfl
  | cons c s ih =>
      rw [List.map_cons, List.splitOn_cons_eq_if_modifyHead, List.splitOn_cons_eq_if_modifyHead]
      by_cases hc : c = slash
      · rw [if_pos (beq_iff_eq.mpr hc), if_pos (beq_iff_eq.mpr (lower_eq_slash.mpr hc)), ih]
        rfl
      · rw [if_neg fun h => hc (beq_iff_eq.mp h),
          if_neg fun h => hc (lower_eq_slash.mp (beq_iff_eq.mp h)), ih]
        cases List.splitOn slash s with
        | nil => rfl
        | cons x xs => rfl

set_option maxRecDepth 100000 in
theorem freshTokens : FreshTokens segmentKey (fun _ => 0) tree := by
  unfold FreshTokens
  decide

theorem directories_clash : HasSiblingClash segmentKey (pathsOf tree.entries) := by
  refine ⟨components upperEntry, List.mem_cons_self, components lowerEntry,
    List.mem_cons_of_mem _ List.mem_cons_self, [], text "A", text "a", [text "x"], [text "y"], ?_⟩
  decide

theorem freshTokens_siblings : FreshTokens segmentKey (fun _ => 0) siblings := by
  unfold FreshTokens
  decide

theorem siblings_apart : ¬HasSiblingClash segmentKey (pathsOf siblings.entries) := by
  have hpaths : ∀ p ∈ pathsOf siblings.entries, p.length = 2 ∧ p.head? = some (text "a") := by
    decide
  rintro ⟨p, hp, q, hq, above, x, y, rest, rest', hne, _, hrest, _, rfl, rfl⟩
  obtain ⟨hlength, hx⟩ := hpaths _ hp
  have habove : above = [] := by
    have hpos := List.length_pos_iff.mpr hrest
    rw [List.length_append, List.length_cons] at hlength
    exact List.length_eq_zero_iff.mp (by omega)
  have hy := (hpaths _ hq).2
  rw [habove, List.nil_append, List.head?_cons, Option.some.injEq] at hx hy
  exact hne (hx.trans hy.symm)

/-- A file system that folds names loses the spelling of one of two directories, and keeps the files
of a single one. -/
theorem sample_directories_merge :
    ¬(AncestorsCoherent tree.entries ∧ ∃ t, materialize segmentKey (fun _ => 0)
      (fun _ => []) tree = .ok t ∧ (files t).Perm (pathsOf tree.entries)) ∧
    ∃ t, materialize segmentKey (fun _ => 0) (fun _ => []) siblings = .ok t ∧
      (files t).Perm [[text "a", text "y"], [text "a", text "z"]] := by
  constructor
  · intro h
    exact ((trees_survive_folding_iff build_tree foldsSegments freshTokens).mp h).1
      directories_clash
  · have hancestors : ¬HasAncestorKey siblings.entries := by
      unfold HasAncestorKey
      decide
    obtain ⟨_, t, hmaterialize, hfiles⟩ := (trees_survive_folding_iff build_siblings foldsSegments
      freshTokens_siblings).mpr ⟨siblings_apart, hancestors⟩
    have hpaths : pathsOf siblings.entries = [[text "a", text "y"], [text "a", text "z"]] := by
      decide
    rw [hpaths] at hfiles
    exact ⟨t, hmaterialize, hfiles⟩

/-- Directories that differ in case stand in one accepted manifest. -/
theorem sample_ancestors_fold :
    ¬∀ supplied m, build supplied = .ok m → AncestorsCoherent m.entries := by
  intro hall
  have hsame := hall _ _ build_tree upperEntry List.mem_cons_self lowerEntry
    (List.mem_cons_of_mem _ List.mem_cons_self) (text "A") (text "a") ⟨text "x", rfl⟩
    ⟨text "y", rfl⟩ (by decide)
  exact absurd hsame (by decide)

set_option maxRecDepth 100000 in
/-- A file whose name has 217 letters. -/
def longEntry : ManifestEntry where
  relativePath := ⟨List.replicate 217 ⟨97, by decide⟩, rfl, by decide⟩
  sizeBytes := 1
  sha256 := treeDigest

def longTree : Manifest where
  entries := [longEntry]
  canonicalBytes := canonicalJson [longEntry]
  sha256 := treeDigest

set_option maxRecDepth 100000 in
theorem nameBytes_longEntry : nameBytes (finalName longEntry) = 217 := by decide

set_option maxRecDepth 100000 in
theorem places_longEntry : ((prepare id { manifest := longTree } longEntry 0).bind fun d =>
    write id d 0 longEntry []).toBool = true := by
  decide

/-- Preparing and writing it makes a name that is too long. -/
theorem sample_long_name_is_created : ∃ d₁ d₂ : TreeDownload,
    prepare id { manifest := longTree } longEntry 0 = .ok d₁ ∧
    write id d₁ 0 longEntry [] = .ok d₂ ∧
    ¬∀ name, Creates FileTree.empty d₁.staging name ∨ Creates d₁.staging d₂.staging name →
      nameBytes name ≤ maxPathSegmentBytes := by
  have hplaces := places_longEntry
  cases hprepare : prepare id { manifest := longTree } longEntry 0 with
  | error e =>
      rw [hprepare] at hplaces
      cases hplaces
  | ok d₁ =>
      rw [hprepare] at hplaces
      cases hwrite : write id d₁ 0 longEntry [] with
      | error e =>
          change (write id d₁ 0 longEntry []).toBool = true at hplaces
          rw [hwrite] at hplaces
          cases hplaces
      | ok d₂ =>
          refine ⟨d₁, d₂, rfl, hwrite, ?_⟩
          have hfits := (created_names_fit_iff longEntry 0).2 id [] _ d₁ d₂ hprepare hwrite
          intro hall
          have hlength := nameBytes_longEntry
          have hlimit : maxPathSegmentBytes = 255 := rfl
          have hroom := hfits.mp hall
          omega

/-- The part file of an accepted path can have a name that is too long. -/
theorem sample_part_name_too_long :
    ¬∀ (e : ManifestEntry) (token : UUID), ∀ name ∈ createdNames e token,
      nameBytes name ≤ maxPathSegmentBytes := by
  intro hall
  have hpart := hall longEntry 0 _ (List.mem_append_right _ List.mem_cons_self)
  rw [nameBytes_partName] at hpart
  have hlength := nameBytes_longEntry
  have hlimit : maxPathSegmentBytes = 255 := rfl
  omega

end RoboLake.Folding
