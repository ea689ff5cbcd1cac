import RoboLake.Guarantees.Trees
import RoboLake.Infrastructure.HttpTransfer

/-! # Staging trees

Between two entries a staging tree holds exactly the verified files that have been
placed, with the directories on their way. What is committed is the exact tree of
the manifest.
-/

namespace RoboLake

open Foundation FileTree

/-! ## Placing an entry -/

theorem mem_of_mkdirPrivateParents {t t' : FileTree PyStr Bytes} {current parts : List PyStr}
    (h : WellFormed id t) (hcurrent : (current, Node.dir) ∈ t)
    (hok : mkdirPrivateParents id t current parts = .ok t') (n : List PyStr × Node Bytes) :
    n ∈ t' ↔ n ∈ t ∨ ∃ r, r ≠ [] ∧ r <+: parts ∧ n = (current ++ r, .dir) := by
  induction parts generalizing t current with
  | nil =>
      cases hok
      rw [way_nil_iff, or_false]
  | cons part parts ih =>
      rw [way_cons_iff]
      rw [mkdirPrivateParents] at hok
      split at hok
      · rename_i spelled hfind
        obtain ⟨hmem, hkeys⟩ := h.find_eq_some_iff.mp hfind
        have hspelled : spelled = current ++ [part] := by simpa only [List.map_id] using hkeys
        have hhere : (current ++ [part], Node.dir) ∈ t := by
          rwa [← hspelled]
        rw [ih h hhere hok]
        constructor
        · intro hn
          exact hn.imp_right .inr
        · intro hn
          rcases hn with hn | rfl | hn
          · exact .inl hn
          · exact .inl hhere
          · exact .inr hn
      · cases hok
      · obtain ⟨t₁, hadd, hok⟩ := Except.bind_ok.mp hok
        have hadd := osCall_ok.mp hadd
        obtain ⟨spelled, hparent, _, rfl⟩ := add_ok.mp hadd
        have hspelled : spelled = current := by
          simpa only [List.map_id] using (h.find_eq_some_iff.mp hparent).2
        subst hspelled
        rw [ih (h.add hadd) (List.mem_append_right _ List.mem_cons_self) hok, List.mem_append,
          List.mem_singleton, or_assoc]

variable [Platform]

theorem parentPath_append_finalName (e : ManifestEntry) :
    parentPath e ++ [finalName e] = components e := by
  rw [parentPath, finalName, List.getLastD_eq_getLast?,
    List.getLast?_eq_getLast_of_ne_nil (components_ne e), Option.getD_some,
    List.dropLast_append_getLast]

theorem prepare_spec {d d' : TreeDownload} {entry : ManifestEntry} {token : UUID}
    (h : WellFormed id d.staging) (hprepared : d.prepared = [])
    (hok : TreeDownload.prepare id d entry token = .ok d') :
    entry ∈ d.manifest.entries ∧
    d' = { d with
      staging := d'.staging
      prepared := [(token, ⟨entry, parentPath entry, partName (finalName entry) token,
        finalName entry⟩)] } ∧
    WellFormed id d'.staging ∧
    (∀ n ∈ d.staging, n.1 ≠ parentPath entry ++ [partName (finalName entry) token]) ∧
    ∀ n, n ∈ d'.staging ↔ n ∈ d.staging ∨
      (∃ r, r ≠ [] ∧ r <+: parentPath entry ∧ n = (r, .dir)) ∨
      n = (parentPath entry ++ [partName (finalName entry) token], .file []) := by
  unfold TreeDownload.prepare at hok
  split at hok
  · cases hok
  · rename_i hentry
    obtain ⟨t₁, hmkdir, hok⟩ := Except.bind_ok.mp hok
    obtain ⟨t₂, hadd, hok⟩ := Except.bind_ok.mp hok
    have hadd := osCall_ok.mp hadd
    have hwf₁ := mkdirPrivateParents_wellFormed h hmkdir
    have hmem₁ := mem_of_mkdirPrivateParents h h.rooted hmkdir
    obtain ⟨spelled, hparent, hfree, ht₂⟩ := add_ok.mp hadd
    have hspelled : spelled = parentPath entry := by
      simpa only [List.map_id] using (hwf₁.find_eq_some_iff.mp hparent).2
    cases hok
    refine ⟨not_not.mp hentry, ?_, hwf₁.add hadd, ?_, ?_⟩
    · rw [hprepared]
      rfl
    · intro n hn hpath
      apply find_eq_none_iff.mp hfree n ((hmem₁ n).mpr (.inl hn))
      rw [hpath]
    · intro n
      rw [ht₂, List.mem_append, List.mem_singleton, hmem₁, hspelled, or_assoc]
      simp only [List.nil_append]

/-- What placing an entry does to the staging tree. -/
theorem place_spec {d d₁ d₂ : TreeDownload} {entry : ManifestEntry} {token : UUID}
    {content : Bytes} (h : WellFormed id d.staging) (hprepared : d.prepared = [])
    (hprepare : TreeDownload.prepare id d entry token = .ok d₁)
    (hwrite : TreeDownload.write id d₁ token entry content = .ok d₂) :
    d₂.manifest = d.manifest ∧ d₂.prepared = [] ∧
    d₂.completed = d.completed ++ [entry.relativePath.value] ∧ WellFormed id d₂.staging ∧
    ∀ n, n ∈ d₂.staging ↔
      ((n ∈ d.staging ∨ ∃ r, r ≠ [] ∧ r <+: parentPath entry ∧ n = (r, .dir)) ∧
        n.1 ≠ components entry) ∨ n = (components entry, .file content) := by
  have hwf := place_wellFormed h hprepare hwrite
  obtain ⟨_, hd₁, hwf₁, hfresh, hmem₁⟩ := prepare_spec h hprepared hprepare
  rw [hd₁] at hwrite
  unfold TreeDownload.write at hwrite
  simp only [List.lookup, beq_self_eq_true] at hwrite
  rw [if_neg (by simp)] at hwrite
  obtain ⟨t, hmove, hwrite⟩ := Except.bind_ok.mp hwrite
  obtain ⟨spelled, old, written, hparent, hsource, _, ht⟩ := move_ok.mp (osCall_ok.mp hmove)
  have hfill : ∀ n, n ∈ FileTree.fill id d₁.staging
      (parentPath entry ++ [partName (finalName entry) token]) content ↔
        (n ∈ d.staging ∨ ∃ r, r ≠ [] ∧ r <+: parentPath entry ∧ n = (r, .dir)) ∨
        n = (parentPath entry ++ [partName (finalName entry) token], .file content) := by
    intro n
    rw [mem_fill, List.map_id, List.map_id, hmem₁]
    constructor
    · intro hn
      rcases hn with ⟨hn | hn | rfl, hpath⟩ | ⟨hcontent, hpath, _⟩
      · exact .inl (.inl hn)
      · exact .inl (.inr hn)
      · exact absurd rfl hpath
      · exact .inr (Prod.ext hpath hcontent)
    · intro hn
      rcases hn with hn | rfl
      · refine .inl ⟨hn.elim .inl fun hdir => .inr (.inl hdir), ?_⟩
        rcases hn with hn | ⟨r, _, hbegins, rfl⟩
        · exact hfresh n hn
        · intro hpath
          have hlength := hbegins.length_le
          rw [show r = _ from hpath, List.length_append, List.length_singleton] at hlength
          omega
      · exact .inr ⟨rfl, rfl, .file [], (hmem₁ _).mpr (.inr (.inr rfl))⟩
  have hfilled : WellFormed id (FileTree.fill id d₁.staging
      (parentPath entry ++ [partName (finalName entry) token]) content) := by
    apply hwf₁.fill
    intro n hn hkeys hdir
    rw [List.map_id, List.map_id] at hkeys
    have hpart : (parentPath entry ++ [partName (finalName entry) token], Node.file []) ∈
        d₁.staging := (hmem₁ _).mpr (.inr (.inr rfl))
    rw [hwf₁.eq_of_keys hn hpart (by rw [hkeys])] at hdir
    cases hdir
  have hspelled : spelled = parentPath entry := by
    simpa only [List.map_id] using (hfilled.find_eq_some_iff.mp hparent).2
  -- The file that is renamed is the part file.
  have hcontent : written = content := by
    obtain ⟨hmem, hkeys⟩ := hfilled.find_eq_some_iff.mp hsource
    have hpart := (hfill (parentPath entry ++ [partName (finalName entry) token],
      Node.file content)).mpr (.inr rfl)
    have hsame := congrArg Prod.snd (hfilled.eq_of_keys hmem hpart hkeys)
    exact Node.file.inj hsame
  cases hwrite
  refine ⟨rfl, by simp, rfl, hwf, ?_⟩
  intro n
  change n ∈ t ↔ _
  rw [ht, List.mem_append, List.mem_singleton, mem_erase, mem_erase, hfill, hspelled,
    hcontent, parentPath_append_finalName, List.map_id, List.map_id, List.map_id]
  constructor
  · intro hn
    rcases hn with ⟨⟨hn | rfl, hpath⟩, hfinal⟩ | hn
    · exact .inl ⟨hn, hfinal⟩
    · exact absurd rfl hpath
    · exact .inr hn
  · intro hn
    rcases hn with ⟨hn, hfinal⟩ | hn
    · refine .inl ⟨⟨.inl hn, ?_⟩, hfinal⟩
      rcases hn with hn | ⟨r, _, hbegins, rfl⟩
      · exact hfresh n hn
      · intro hpath
        have hlength := hbegins.length_le
        rw [show r = _ from hpath, List.length_append, List.length_singleton] at hlength
        omega
    · exact .inr hn

/-! ## The staged tree -/

/-- The staging tree between two entries: exactly the verified files of what is done, and the
directories on their way. -/
structure Staged (m : Manifest) (done : List ManifestEntry) (d : TreeDownload) : Prop where
  manifest : d.manifest = m
  prepared : d.prepared = []
  completed : d.completed = done.map fun e => e.relativePath.value
  known : ∀ e ∈ done, e ∈ m.entries
  wellFormed : WellFormed id d.staging
  verified : ∀ p content, (p, .file content) ∈ d.staging →
    ∃ e ∈ done, p = components e ∧ Verified e content
  placed : ∀ e ∈ done, ∃ content, (components e, .file content) ∈ d.staging
  needed : ∀ p, (p, .dir) ∈ d.staging → p = [] ∨ ∃ e ∈ done, p <+: parentPath e

theorem staged_start (m : Manifest) : Staged m [] { manifest := m } := by
  refine ⟨rfl, rfl, rfl, ?_, wellFormed_empty, ?_, ?_, ?_⟩
  · intro e he
    exact absurd he List.not_mem_nil
  · intro p content hfile
    simp [FileTree.empty] at hfile
  · intro e he
    exact absurd he List.not_mem_nil
  · intro p hdir
    simp only [FileTree.empty, List.mem_singleton, Prod.mk.injEq, and_true] at hdir
    exact .inl hdir

theorem Staged.place {m : Manifest} {done : List ManifestEntry} {d d₁ d₂ : TreeDownload}
    {entry : ManifestEntry} {token : UUID} {content : Bytes} (h : Staged m done d)
    (hprepare : TreeDownload.prepare id d entry token = .ok d₁)
    (hwrite : TreeDownload.write id d₁ token entry content = .ok d₂)
    (hverified : Verified entry content) : Staged m (done ++ [entry]) d₂ := by
  have hentry := (prepare_spec h.wellFormed h.prepared hprepare).1
  obtain ⟨hmanifest, hprepared, hcompleted, hwf, hmem⟩ :=
    place_spec h.wellFormed h.prepared hprepare hwrite
  refine ⟨hmanifest.trans h.manifest, hprepared, ?_, ?_, hwf, ?_, ?_, ?_⟩
  · rw [hcompleted, h.completed, List.map_append]
    rfl
  · intro e he
    rcases List.mem_append.mp he with he | he
    · exact h.known e he
    · rw [List.mem_singleton.mp he, ← h.manifest]
      exact hentry
  · intro p c hfile
    rcases (hmem _).mp hfile with ⟨hold | ⟨_, _, _, hdir⟩, _⟩ | hnew
    · obtain ⟨e, he, hp, hc⟩ := h.verified p c hold
      exact ⟨e, List.mem_append_left _ he, hp, hc⟩
    · cases hdir
    · cases hnew
      exact ⟨entry, List.mem_append_right _ List.mem_cons_self, rfl, hverified⟩
  · intro e he
    by_cases hsame : components e = components entry
    · rw [hsame]
      exact ⟨content, (hmem _).mpr (.inr rfl)⟩
    · rcases List.mem_append.mp he with he | he
      · obtain ⟨c, hc⟩ := h.placed e he
        exact ⟨c, (hmem _).mpr (.inl ⟨.inl hc, hsame⟩)⟩
      · exact absurd (by rw [List.mem_singleton.mp he]) hsame
  · intro p hdir
    rcases (hmem _).mp hdir with ⟨hold | ⟨r, _, hbegins, heq⟩, _⟩ | hnew
    · rcases h.needed p hold with hroot | ⟨e, he, hp⟩
      · exact .inl hroot
      · exact .inr ⟨e, List.mem_append_left _ he, hp⟩
    · cases heq
      exact .inr ⟨entry, List.mem_append_right _ List.mem_cons_self, hbegins⟩
    · cases hnew

/-- A tree that holds exactly one verified file for each entry, at its path, and only the
directories on the way to one. -/
structure ExactTree (entries : List ManifestEntry) (t : FileTree PyStr Bytes) : Prop where
  wellFormed : WellFormed id t
  file : ∀ e ∈ entries, ∃ content, (components e, .file content) ∈ t ∧ Verified e content
  onlyFiles : ∀ p content, (p, .file content) ∈ t → ∃ e ∈ entries, p = components e
  onlyParents : ∀ p, (p, .dir) ∈ t ↔ p = [] ∨ ∃ e ∈ entries, p <+: parentPath e

theorem eq_of_path {data : Bytes} {m : Manifest} (h : Manifest.fromCanonicalBytes data = .ok m)
    {e e' : ManifestEntry} (he : e ∈ m.entries) (he' : e' ∈ m.entries)
    (hpath : components e = components e') : e = e' := by
  obtain ⟨_, supplied, hbuild⟩ := Manifest.fromCanonicalBytes_spec h
  have hkeys := Manifest.keys_nodup_of_build hbuild
  refine List.inj_on_of_nodup_map hkeys he he' ?_
  rw [Manifest.collisionKey, Manifest.collisionKey, segments_injective hpath]

theorem Staged.commit_ok {m : Manifest} {d : TreeDownload} (h : Staged m m.entries d) :
    d.commit = .ok d.staging := by
  unfold TreeDownload.commit
  rw [if_neg (not_not.mpr h.prepared), if_neg]
  rw [h.completed, h.manifest, not_or, not_not, not_not]
  exact ⟨fun p hp => hp, fun e he => List.mem_map_of_mem he⟩

/-- What a downloader commits is the exact tree of its manifest. -/
theorem Staged.exact {data : Bytes} {m : Manifest} {done : List ManifestEntry} {d : TreeDownload}
    {t : FileTree PyStr Bytes} (h : Staged m done d)
    (hparse : Manifest.fromCanonicalBytes data = .ok m) (hcommit : d.commit = .ok t) :
    (∀ e, e ∈ done ↔ e ∈ m.entries) ∧ ExactTree m.entries t := by
  unfold TreeDownload.commit at hcommit
  split at hcommit
  · cases hcommit
  · split at hcommit
    · cases hcommit
    · rename_i hcomplete
      cases hcommit
      rw [not_or, not_not, not_not, h.completed, h.manifest] at hcomplete
      have hdone : ∀ e, e ∈ done ↔ e ∈ m.entries := by
        intro e
        constructor
        · exact h.known e
        · intro he
          obtain ⟨e', he', hpath⟩ := List.mem_map.mp (hcomplete.2 e he)
          have hsame : components e' = components e := congrArg segments hpath
          rwa [← eq_of_path hparse (h.known e' he') he hsame]
      refine ⟨hdone, h.wellFormed, ?_, ?_, ?_⟩
      · intro e he
        obtain ⟨content, hfile⟩ := h.placed e ((hdone e).mpr he)
        obtain ⟨e', he', hpath, hverified⟩ := h.verified _ _ hfile
        rw [← eq_of_path hparse he (h.known e' he') hpath] at hverified
        exact ⟨content, hfile, hverified⟩
      · intro p content hfile
        obtain ⟨e, he, hp, _⟩ := h.verified p content hfile
        exact ⟨e, h.known e he, hp⟩
      · intro p
        constructor
        · intro hdir
          rcases h.needed p hdir with hroot | ⟨e, he, hp⟩
          · exact .inl hroot
          · exact .inr ⟨e, h.known e he, hp⟩
        · intro hp
          rcases hp with rfl | ⟨e, he, hbegins⟩
          · exact h.wellFormed.rooted
          · obtain ⟨content, hfile⟩ := h.placed e ((hdone e).mpr he)
            obtain ⟨hne, rest, hrest⟩ := prefix_parentPath_iff.mp hbegins
            refine h.wellFormed.dir_of_prefix hfile hrest.symm ?_
            intro hempty
            rw [hempty, List.append_nil] at hrest
            exact hne hrest

end RoboLake
