import RoboLake.Foundation.Distinct
import RoboLake.Guarantees.Pushes
import RoboLake.Guarantees.Staging
import RoboLake.Infrastructure.Scanner
import RoboLake.Registry.Reachable

/-! # Scans

A scan returns exactly when the operating system shows it nothing but directories and
stable regular files, and then it does not matter in which order it shows them. A tree
that a pull has published scans to the manifest it was pulled from.
-/

namespace RoboLake

open Foundation FileTree

/-! ## What a source shows -/

/-- The files below a directory whose names all lead to directories and to files that open, each
with its raw path. -/
inductive Listing.Shows : List PyStr → Listing → List (List PyStr × FileReading) → Prop
  | done {parent : List PyStr} : Shows parent .done []
  | directory {parent : List PyStr} {name : PyStr} {entries rest : Listing}
      {below beside : List (List PyStr × FileReading)} :
      Shows (parent ++ [name]) entries below → Shows parent rest beside →
      Shows parent (.directory name entries rest) (below ++ beside)
  | file {parent : List PyStr} {name : PyStr} {reading : FileReading} {rest : Listing}
      {beside : List (List PyStr × FileReading)} :
      Shows parent rest beside →
      Shows parent (.file name (.ok reading) rest) ((parent ++ [name], reading) :: beside)

/-- The source is a directory of a supported platform, and it is opened as it was found. -/
structure SourceRoot.Opens (source : SourceRoot) (identity : FileIdentity) (listing : Listing) :
    Prop where
  platform : source.platformSupported = true
  found : source.lstat = some (.directory, identity)
  opened : source.opened = .ok (identity, listing)

def FileReading.content (reading : FileReading) : Bytes := (iterFileChunks reading.chunks).flatten

variable [Platform] {scanner : FileSystemScanner} {root : PyStr} {identity : FileIdentity}

/-- A stable reading of a regular file within the limit, and the file it is scanned to. -/
structure FileSystemScanner.Reads (scanner : FileSystemScanner) (root : PyStr)
    (identity : FileIdentity) (shown : List PyStr × FileReading)
    (file : ScannedFile LocalFileRef) : Prop where
  path : RelativePath.parse (joinParts shown.1) = .ok file.entry.relativePath
  regular : shown.2.isRegular = true
  within : shown.2.before.sizeBytes ≤ scanner.maxSinglePutBytes
  complete : shown.2.raised = false
  unchanged : shown.2.after = shown.2.before
  size : file.entry.sizeBytes = shown.2.before.sizeBytes
  digest : file.entry.sha256 = Platform.sha256 shown.2.content
  localRef : file.localRef = ⟨root, identity, shown.1, shown.2.before⟩

/-! ## The scan of one directory -/

theorem scanFile_ok_iff {rawParts : List PyStr} {opened : Except Errno FileReading}
    {file : ScannedFile LocalFileRef} :
    scanner.scanFile root identity rawParts opened = .ok file ↔
      ∃ reading, opened = .ok reading ∧ scanner.Reads root identity (rawParts, reading) file := by
  unfold FileSystemScanner.scanFile
  constructor
  · intro h
    cases hpath : RelativePath.parse (joinParts rawParts) with
    | error e =>
        rw [hpath] at h
        cases h
    | ok relative =>
        rw [hpath] at h
        cases opened with
        | error errno =>
            change (requireOpened (α := FileReading) _ (.error errno) >>= _) = _ at h
            unfold requireOpened at h
            split at h
            · cases ‹Except.error _ = Except.ok _›
            · split at h
              · cases h
              · cases h
        | ok reading =>
            refine ⟨reading, rfl, ?_⟩
            change (if _ then _ else _) = _ at h
            split at h
            · cases h
            · rename_i hregular
              split at h
              · cases h
              · rename_i hsize
                split at h
                · cases h
                · rename_i hraised
                  split at h
                  · cases h
                  · rename_i hchanged
                    cases h
                    exact {
                      path := hpath
                      regular := Bool.not_eq_false _ ▸ hregular
                      within := Nat.not_lt.mp hsize
                      complete := Bool.eq_false_iff.mpr hraised
                      unchanged := not_not.mp hchanged
                      size := rfl
                      digest := rfl
                      localRef := rfl }
  · intro h
    obtain ⟨reading, rfl, hreads⟩ := h
    obtain ⟨entry, localRef⟩ := file
    obtain ⟨hpath, hregular, hwithin, hcomplete, hunchanged, hsize, hdigest, hlocal⟩ := hreads
    simp only at hpath hregular hwithin hcomplete hunchanged hsize hdigest hlocal
    rw [hpath]
    change (if _ then _ else _) = _
    rw [if_neg (by rw [hregular]; exact Bool.noConfusion), if_neg (Nat.not_lt.mpr hwithin),
      if_neg (by rw [hcomplete]; exact Bool.noConfusion), if_neg (not_not.mpr hunchanged), hlocal]
    obtain ⟨relativePath, sizeBytes, sha256⟩ := entry
    simp only at hsize hdigest
    rw [hsize, hdigest]
    rfl

/-- A directory is scanned exactly when each file below it is, one after the other. -/
theorem scanDirectory_ok_iff {parent : List PyStr} {listing : Listing}
    {output files : List (ScannedFile LocalFileRef)} :
    scanner.scanDirectory root identity parent listing output = .ok files ↔
      ∃ readings more, listing.Shows parent readings ∧
        List.Forall₂ (scanner.Reads root identity) readings more ∧ files = output ++ more := by
  induction listing generalizing parent output files with
  | done =>
      unfold FileSystemScanner.scanDirectory
      constructor
      · intro h
        cases h
        exact ⟨[], [], .done, .nil, (List.append_nil _).symm⟩
      · intro h
        obtain ⟨readings, more, hshows, hreads, hfiles⟩ := h
        cases hshows
        cases hreads
        rw [hfiles, List.append_nil]
        rfl
  | raised =>
      unfold FileSystemScanner.scanDirectory
      constructor
      · intro h
        cases h
      · intro h
        obtain ⟨_, _, hshows, _⟩ := h
        cases hshows
  | vanished name =>
      unfold FileSystemScanner.scanDirectory
      constructor
      · intro h
        cases h
      · intro h
        obtain ⟨_, _, hshows, _⟩ := h
        cases hshows
  | symlink name =>
      unfold FileSystemScanner.scanDirectory
      constructor
      · intro h
        cases h
      · intro h
        obtain ⟨_, _, hshows, _⟩ := h
        cases hshows
  | special name =>
      unfold FileSystemScanner.scanDirectory
      constructor
      · intro h
        cases h
      · intro h
        obtain ⟨_, _, hshows, _⟩ := h
        cases hshows
  | refusedDirectory name errno =>
      unfold FileSystemScanner.scanDirectory requireOpened
      constructor
      · intro h
        dsimp only at h
        split at h
        · cases h
        · cases h
      · intro h
        obtain ⟨_, _, hshows, _⟩ := h
        cases hshows
  | directory name entries rest ihBelow ihBeside =>
      unfold FileSystemScanner.scanDirectory
      constructor
      · intro h
        cases hbelow : scanner.scanDirectory root identity (parent ++ [name]) entries output with
        | error e =>
            rw [hbelow] at h
            cases h
        | ok middle =>
            rw [hbelow] at h
            obtain ⟨below, more, hshows, hreads, hmiddle⟩ := ihBelow.mp hbelow
            obtain ⟨beside, more', hshows', hreads', hfiles⟩ := ihBeside.mp h
            refine ⟨below ++ beside, more ++ more', hshows.directory hshows',
              List.rel_append hreads hreads', ?_⟩
            rw [hfiles, hmiddle, List.append_assoc]
      · intro h
        obtain ⟨readings, more, hshows, hreads, hfiles⟩ := h
        cases hshows with
        | directory hshows hshows' =>
            rename_i below beside
            have hfirst := List.forall₂_take below.length hreads
            have hrest := List.forall₂_drop below.length hreads
            rw [List.take_left] at hfirst
            rw [List.drop_left] at hrest
            have hbelow : scanner.scanDirectory root identity (parent ++ [name]) entries output =
                .ok (output ++ more.take below.length) :=
              ihBelow.mpr ⟨below, _, hshows, hfirst, rfl⟩
            rw [hbelow]
            apply ihBeside.mpr
            refine ⟨beside, _, hshows', hrest, ?_⟩
            rw [hfiles, List.append_assoc, List.take_append_drop]
  | file name opened rest ih =>
      unfold FileSystemScanner.scanDirectory
      constructor
      · intro h
        cases hfile : scanner.scanFile root identity (parent ++ [name]) opened with
        | error e =>
            rw [hfile] at h
            cases h
        | ok file =>
            rw [hfile] at h
            obtain ⟨reading, rfl, hread⟩ := scanFile_ok_iff.mp hfile
            obtain ⟨beside, more, hshows, hreads, hfiles⟩ := ih.mp h
            refine ⟨_, file :: more, hshows.file, .cons hread hreads, ?_⟩
            rw [hfiles, List.append_assoc]
            rfl
      · intro h
        obtain ⟨readings, more, hshows, hreads, hfiles⟩ := h
        cases hshows with
        | file hshows =>
            cases hreads with
            | cons hread hreads =>
                rename_i file more
                have hfile := scanFile_ok_iff.mpr ⟨_, rfl, hread⟩
                rw [hfile]
                apply ih.mpr
                exact ⟨_, more, hshows, hreads, by rw [hfiles, List.append_assoc]; rfl⟩

/-! ## The scan -/

variable {source : SourceRoot} {scanned : ScannedDataset LocalFileRef}

/-- A built manifest orders the files that it was built from. -/
theorem eq_orderedFiles_iff {m : Manifest} {files ordered : List (ScannedFile LocalFileRef)}
    (hbuild : Manifest.build (files.map ScannedFile.entry) = .ok m) :
    ordered = FileSystemScanner.orderedFiles m files ↔
      ordered.Perm files ∧ ordered.map ScannedFile.entry = m.entries := by
  have hkeys : (m.entries.map ManifestEntry.relativePath).Nodup := by
    have hnodup : ((m.entries.map ManifestEntry.relativePath).map Manifest.collisionKey).Nodup := by
      rw [List.map_map]
      exact Manifest.keys_nodup_of_build hbuild
    exact hnodup.of_map _
  have hperm : m.entries.Perm (files.map ScannedFile.entry) := by
    rw [(Manifest.build_spec hbuild).1]
    exact List.perm_insertionSort _ _
  exact Distinct.eq_lookup_iff hkeys hperm

theorem scan_ok_iff :
    scanner.scan source = .ok scanned ↔ ∃ identity listing readings files,
      source.Opens identity listing ∧ listing.Shows [] readings ∧
      List.Forall₂ (scanner.Reads source.root identity) readings files ∧
      Manifest.build (files.map ScannedFile.entry) = .ok scanned.manifest ∧
      scanned.files.Perm files ∧ Scanned scanned := by
  unfold FileSystemScanner.scan
  constructor
  · intro h
    split at h
    · cases h
    · rename_i hplatform
      split at h
      · cases h
      · rename_i kind identity hfound
        split at h
        · cases h
        · rename_i hkind
          rw [not_not] at hkind
          subst hkind
          cases hopened : source.opened with
          | error errno =>
              rw [hopened] at h
              unfold requireOpened at h
              split at h
              · cases ‹Except.error _ = Except.ok _›
              · split at h
                · cases h
                · cases h
          | ok opened =>
              obtain ⟨rootIdentity, listing⟩ := opened
              rw [hopened] at h
              change (if _ then _ else _) = _ at h
              split at h
              · cases h
              · rename_i hsame
                rw [not_not] at hsame
                subst hsame
                cases hscan : scanner.scanDirectory source.root rootIdentity [] listing [] with
                | error e =>
                    rw [hscan] at h
                    cases h
                | ok files =>
                    rw [hscan] at h
                    cases hbuild : Manifest.build (files.map ScannedFile.entry) with
                    | error e =>
                        change (Manifest.build (files.map ScannedFile.entry) >>= _) = _ at h
                        rw [hbuild] at h
                        cases h
                    | ok m =>
                        change (Manifest.build (files.map ScannedFile.entry) >>= _) = _ at h
                        rw [hbuild] at h
                        cases h
                        obtain ⟨readings, more, hshows, hreads, rfl⟩ :=
                          scanDirectory_ok_iff.mp hscan
                        obtain ⟨hperm, hentries⟩ := (eq_orderedFiles_iff hbuild).mp rfl
                        have hsizes := Manifest.hasConflictingSizes_eq_false.mp
                          (Manifest.build_spec hbuild).2.2.2.2
                        refine ⟨rootIdentity, listing, readings, _, ⟨?_, hfound, hopened⟩, hshows,
                          hreads, hbuild, hperm, hentries, hsizes⟩
                        exact Bool.not_eq_false _ ▸ hplatform
  · intro h
    obtain ⟨identity, listing, readings, files, hopens, hshows, hreads, hbuild, hperm, hentries,
      _⟩ := h
    have hscan : scanner.scanDirectory source.root identity [] listing [] = .ok files :=
      scanDirectory_ok_iff.mpr ⟨readings, files, hshows, hreads, rfl⟩
    have hordered := (eq_orderedFiles_iff hbuild).mpr ⟨hperm, hentries⟩
    rw [if_neg (by rw [hopens.platform]; exact Bool.noConfusion), hopens.found]
    dsimp only
    rw [if_neg (not_not.mpr rfl), hopens.opened]
    change (if _ then _ else _) = _
    rw [if_neg (not_not.mpr rfl), hscan]
    change (Manifest.build (files.map ScannedFile.entry) >>= _) = _
    rw [hbuild]
    obtain ⟨m, ordered⟩ := scanned
    simp only at hordered
    rw [hordered]
    rfl

/-! ## The order of a scan -/

omit [Platform] in
theorem SourceRoot.Opens.unique {identity' : FileIdentity} {listing listing' : Listing}
    (h : source.Opens identity listing) (h' : source.Opens identity' listing') :
    identity = identity' ∧ listing = listing' := by
  have hopened := h.opened
  rw [h'.opened, Except.ok.injEq, Prod.mk.injEq] at hopened
  exact ⟨hopened.1.symm, hopened.2.symm⟩

omit [Platform] in
theorem Listing.Shows.unique {parent : List PyStr} {listing : Listing}
    {readings readings' : List (List PyStr × FileReading)} (h : listing.Shows parent readings)
    (h' : listing.Shows parent readings') : readings = readings' := by
  induction h generalizing readings' with
  | done =>
      cases h'
      rfl
  | directory _ _ ihBelow ihBeside =>
      cases h' with
      | directory hbelow hbeside => rw [ihBelow hbelow, ihBeside hbeside]
  | file _ ih =>
      cases h' with
      | file hbeside => rw [ih hbeside]

private theorem scan_of_reordered {source' : SourceRoot} {listing listing' : Listing}
    {readings readings' : List (List PyStr × FileReading)}
    (hopens : source.Opens identity listing) (hopens' : source'.Opens identity listing')
    (hroot : source.root = source'.root) (hshows : listing.Shows [] readings)
    (hshows' : listing'.Shows [] readings') (hperm : readings.Perm readings')
    (h : scanner.scan source = .ok scanned) : scanner.scan source' = .ok scanned := by
  obtain ⟨identity₁, listing₁, readings₁, files, hopens₁, hshows₁, hreads, hbuild, hfiles,
    hscanned⟩ := scan_ok_iff.mp h
  obtain ⟨rfl, rfl⟩ := hopens₁.unique hopens
  cases hshows₁.unique hshows
  obtain ⟨files', hreads', hperm'⟩ := List.perm_comp_forall₂ hperm.symm hreads
  rw [hroot] at hreads'
  apply scan_ok_iff.mpr
  refine ⟨_, listing', readings', files', hopens', hshows', hreads', ?_, ?_, hscanned⟩
  · rw [← hbuild]
    exact Manifest.build_perm (hperm'.map _)
  · exact hfiles.trans hperm'.symm

/-- Two scans that are shown the same files return the same dataset or both fail, in whatever order
and through whatever directories the files are shown. -/
theorem scan_ignores_order {source' : SourceRoot} {listing listing' : Listing}
    {readings readings' : List (List PyStr × FileReading)}
    (hopens : source.Opens identity listing) (hopens' : source'.Opens identity listing')
    (hroot : source.root = source'.root) (hshows : listing.Shows [] readings)
    (hshows' : listing'.Shows [] readings') (hperm : readings.Perm readings') :
    scanner.scan source = .ok scanned ↔ scanner.scan source' = .ok scanned := by
  constructor
  · intro h
    exact scan_of_reordered hopens hopens' hroot hshows hshows' hperm h
  · intro h
    exact scan_of_reordered hopens' hopens hroot.symm hshows' hshows hperm.symm h

/-! ## Scans of a published tree -/

/-- A regular file with this content that does not change while it is read. -/
structure FileReading.Finds (reading : FileReading) (content : Bytes) : Prop where
  regular : reading.isRegular = true
  complete : reading.raised = false
  unchanged : reading.after = reading.before
  size : reading.before.sizeBytes = content.length
  bytes : reading.content = content

/-- A source shows a tree when it finds each of its files, in some order, and nothing else. -/
structure Listing.ShowsTree (listing : Listing) (t : FileTree PyStr Bytes)
    (readings : List (List PyStr × FileReading)) : Prop where
  shows : listing.Shows [] readings
  finds : ∀ r ∈ readings, r.2.Finds r.2.content
  files : (readings.map fun r => (r.1, r.2.content)).Perm (contents t)

theorem parse_joinParts (e : ManifestEntry) :
    RelativePath.parse (joinParts (components e)) = .ok e.relativePath := by
  rw [joinParts, components, segments, List.intercalate_splitOn]
  exact Manifest.parse_value e.relativePath

theorem ExactTree.verified {entries : List ManifestEntry} {t : FileTree PyStr Bytes}
    (h : ExactTree entries t) {e : ManifestEntry} (he : e ∈ entries) {content : Bytes}
    (hfile : (components e, Node.file content) ∈ t) : Verified e content := by
  obtain ⟨content', hfile', hverified⟩ := h.file e he
  have hsame := h.wellFormed.eq_of_keys hfile hfile' rfl
  cases hsame
  exact hverified

omit [Platform] in
private theorem exists_forall₂ {α β : Type} {R : α → β → Prop} {P : β → Prop} {xs : List α}
    (h : ∀ x ∈ xs, ∃ y, R x y ∧ P y) : ∃ ys, List.Forall₂ R xs ys ∧ ∀ y ∈ ys, P y := by
  induction xs with
  | nil => exact ⟨[], .nil, fun _ hy => absurd hy List.not_mem_nil⟩
  | cons x xs ih =>
      obtain ⟨y, hR, hP⟩ := h x List.mem_cons_self
      obtain ⟨ys, hall, hPs⟩ := ih fun x' hx' => h x' (List.mem_cons_of_mem x hx')
      refine ⟨y :: ys, .cons hR hall, ?_⟩
      intro y' hy'
      rcases List.mem_cons.mp hy' with rfl | hy'
      · exact hP
      · exact hPs y' hy'

private theorem perm_entries {data : Bytes} {m : Manifest} {t : FileTree PyStr Bytes}
    {listing : Listing} {readings : List (List PyStr × FileReading)}
    {files : List (ScannedFile LocalFileRef)}
    (hparse : Manifest.fromCanonicalBytes data = .ok m) (hexact : ExactTree m.entries t)
    (hshows : listing.ShowsTree t readings) (hknown : ∀ f ∈ files, f.entry ∈ m.entries)
    (hpaths : files.map (fun f => components f.entry) = readings.map Prod.fst) :
    (files.map ScannedFile.entry).Perm m.entries := by
  have hlisted : (readings.map Prod.fst).Perm (FileTree.files t) := by
    have hmapped := hshows.files.map Prod.fst
    rwa [map_fst_contents, List.map_map] at hmapped
  have hnodup : (files.map ScannedFile.entry).Nodup := by
    have hdistinct : ((files.map ScannedFile.entry).map components).Nodup := by
      rw [List.map_map]
      change (files.map fun f => components f.entry).Nodup
      rw [hpaths, hlisted.nodup_iff]
      exact hexact.wellFormed.files_nodup.of_map _
    exact hdistinct.of_map _
  have hentries : m.entries.Nodup := by
    obtain ⟨_, supplied, hbuilt⟩ := Manifest.fromCanonicalBytes_spec hparse
    exact (Manifest.keys_nodup_of_build hbuilt).of_map _
  rw [List.perm_ext_iff_of_nodup hnodup hentries]
  intro e
  constructor
  · intro he
    obtain ⟨f, hf, rfl⟩ := List.mem_map.mp he
    exact hknown f hf
  · intro he
    obtain ⟨content, hfile, _⟩ := hexact.file e he
    have hpath : components e ∈ files.map fun f => components f.entry := by
      rw [hpaths, hlisted.mem_iff]
      exact mem_files.mpr ⟨content, hfile⟩
    obtain ⟨f, hf, hsame⟩ := List.mem_map.mp hpath
    rw [← eq_of_path hparse (hknown f hf) he hsame]
    exact List.mem_map_of_mem hf

/-- A tree that holds exactly the files of a manifest scans to that manifest. -/
theorem scan_recovers_manifest {data : Bytes} {m : Manifest} {t : FileTree PyStr Bytes}
    {listing : Listing} {readings : List (List PyStr × FileReading)}
    (hparse : Manifest.fromCanonicalBytes data = .ok m) (hexact : ExactTree m.entries t)
    (hsmall : ∀ e ∈ m.entries, e.sizeBytes ≤ scanner.maxSinglePutBytes)
    (hopens : source.Opens identity listing) (hshows : listing.ShowsTree t readings) :
    ∃ files, scanner.scan source = .ok ⟨m, files⟩ := by
  have hfound : ∀ r ∈ readings, ∃ file,
      (scanner.Reads source.root identity r file ∧ components file.entry = r.1) ∧
        file.entry ∈ m.entries := by
    intro r hr
    have hfile := mem_contents.mp
      (hshows.files.mem_iff.mp (List.mem_map_of_mem (f := fun r => (r.1, r.2.content)) hr))
    obtain ⟨e, he, hpath⟩ := hexact.onlyFiles _ _ hfile
    rw [hpath] at hfile
    have hverified := hexact.verified he hfile
    have hfinds := hshows.finds r hr
    refine ⟨⟨e, ⟨source.root, identity, r.1, r.2.before⟩⟩, ⟨?_, hpath.symm⟩, he⟩
    exact {
      path := by rw [hpath]; exact parse_joinParts e
      regular := hfinds.regular
      within := by rw [hfinds.size, hverified.1]; exact hsmall e he
      complete := hfinds.complete
      unchanged := hfinds.unchanged
      size := by rw [hfinds.size]; exact hverified.1.symm
      digest := hverified.2.symm
      localRef := rfl }
  obtain ⟨files, hfiles, hknown⟩ := exists_forall₂ hfound
  have hpaths : files.map (fun f => components f.entry) = readings.map Prod.fst := by
    have hsame := hfiles.flip.imp fun _ _ h => h.2
    rwa [← List.forall₂_map_right_iff, ← List.forall₂_map_left_iff, List.forall₂_eq_eq_eq] at hsame
  have hperm : (files.map ScannedFile.entry).Perm m.entries :=
    perm_entries hparse hexact hshows hknown hpaths
  obtain ⟨_, supplied, hbuilt⟩ := Manifest.fromCanonicalBytes_spec hparse
  have hbuild : Manifest.build (files.map ScannedFile.entry) = .ok m := by
    rw [Manifest.build_perm hperm]
    exact Manifest.build_entries hbuilt
  have hordered := (eq_orderedFiles_iff hbuild).mp rfl
  refine ⟨FileSystemScanner.orderedFiles m files, scan_ok_iff.mpr ?_⟩
  refine ⟨identity, listing, readings, files, hopens, hshows.shows, hfiles.imp fun _ _ h => h.1,
    hbuild, hordered.1, hordered.2, ?_⟩
  exact Manifest.hasConflictingSizes_eq_false.mp (Manifest.build_spec hbuild).2.2.2.2

end RoboLake

namespace RoboLake.Directory

open Foundation FileTree

/-! ## A sample directory

The file `a` holds a zero byte, the file `b` a one. The platform gives SHA-256 on the
texts that the calls below hash, told apart by their lengths, and reads back the
manifests of the first file and of both.
-/

def digest : Sha256Digest :=
  Sample.digest 0x6e340b9cffb37a989ca544e6bb780a2c78901d3fb33738768511a30617afa01d

def secondDigest : Sha256Digest :=
  Sample.digest 0x4bf5122f344554c53bde2ebb8cd2b7e3d1600ad631c385a5d7cce23c7785459a

def manifestDigest : Sha256Digest :=
  Sample.digest 0x8b5bae3713de138343b187050d36ef26cc533986eff2bd5b2f12db1a9f8b7f5f

def bothDigest : Sha256Digest :=
  Sample.digest 0xec99422a842a799f84d88b6fd94799ad3d8345b3de869008d16ddf76ed41bab8

def creationDigest : Sha256Digest :=
  Sample.digest 0xe7f3ae40b6cc78d7e7b2cc69f4c9c86a0e1fe71f82c88e20c37c962397a513c0

def registrationDigest : Sha256Digest :=
  Sample.digest 0x206107a3777c15049e346a95f81d8725634900dd46eaaee873bba0040a6602f2

def preparationDigest : Sha256Digest :=
  Sample.digest 0x6526eb862aa4497450534546946001e050e8f87e75c84803c9756fe825ef9528

def hashText (data : Bytes) : Sha256Digest :=
  match data.length with
  | 1 => if data = [0] then digest else secondDigest
  | 9 => creationDigest
  | 64 => preparationDigest
  | 145 => manifestDigest
  | 217 => registrationDigest
  | _ => bothDigest

scoped instance platform : Platform :=
  { Sample.platform with
    sha256 := hashText
    jsonLoads := fun data =>
      if data.length = 145 then .ok (Pair.manifestJson [Pair.fileJson "a" digest])
      else .ok (Pair.manifestJson [Pair.fileJson "a" digest, Pair.fileJson "b" secondDigest]) }

set_option maxRecDepth 100000 in
def path : RelativePath := ⟨text "a", rfl, by decide⟩

set_option maxRecDepth 100000 in
def secondPath : RelativePath := ⟨text "b", rfl, by decide⟩

def entry : ManifestEntry := ⟨path, 1, digest⟩

def secondEntry : ManifestEntry := ⟨secondPath, 1, secondDigest⟩

def manifest : Manifest where
  entries := [entry]
  canonicalBytes := Manifest.canonicalJson [entry]
  sha256 := manifestDigest

def bothManifest : Manifest where
  entries := [entry, secondEntry]
  canonicalBytes := Manifest.canonicalJson [entry, secondEntry]
  sha256 := bothDigest

def identity (inode : Nat) : FileIdentity := ⟨1, inode, 1, 0⟩

/-- A stable read of the file with this inode; the first file has `2`. -/
def reading (inode : Nat) : FileReading where
  isRegular := true
  before := identity inode
  chunks := [[if inode = 2 then 0 else 1], []]
  after := identity inode

def listing (names : List (PyStr × Nat)) : Listing :=
  names.foldr (fun n rest => .file n.1 (.ok (reading n.2)) rest) .done

/-- A source directory whose names lead to files of one byte, in this order. -/
def source (names : List (PyStr × Nat)) : SourceRoot where
  root := text "/data"
  lstat := some (.directory, identity 1)
  opened := .ok (identity 1, listing names)

theorem source_opens (names : List (PyStr × Nat)) :
    (source names).Opens (identity 1) (listing names) :=
  ⟨rfl, rfl, rfl⟩

set_option maxRecDepth 100000 in
/-- Both orders of two names scan to one dataset. -/
theorem directory_scan_ignores_order :
    ∃ scanned, FileSystemScanner.scan {} (source [(text "a", 2), (text "b", 3)]) = .ok scanned ∧
      FileSystemScanner.scan {} (source [(text "b", 3), (text "a", 2)]) = .ok scanned := by
  have hok : (FileSystemScanner.scan {} (source [(text "a", 2), (text "b", 3)])).toBool = true := by
    decide
  cases hscan : FileSystemScanner.scan {} (source [(text "a", 2), (text "b", 3)]) with
  | error e =>
      rw [hscan] at hok
      cases hok
  | ok scanned =>
      refine ⟨scanned, rfl, ?_⟩
      exact (scan_ignores_order (source_opens [(text "a", 2), (text "b", 3)])
        (source_opens [(text "b", 3), (text "a", 2)]) rfl (.file (.file .done))
        (.file (.file .done)) (List.Perm.swap _ _ _)).mp hscan

def tree : FileTree PyStr Bytes := [([], .dir), ([text "a"], .file [0]), ([text "b"], .file [1])]

theorem components_entry : components entry = [text "a"] := by decide

theorem components_secondEntry : components secondEntry = [text "b"] := by decide

theorem parentPath_of_mem {e : ManifestEntry} (he : e ∈ bothManifest.entries) :
    parentPath e = [] := by
  rcases List.mem_cons.mp he with rfl | he
  · rw [parentPath, components_entry]
    rfl
  · rw [List.mem_singleton.mp he, parentPath, components_secondEntry]
    rfl

theorem tree_exact : ExactTree bothManifest.entries tree := by
  refine ⟨⟨by decide, List.mem_cons_self, ?_⟩, ?_, ?_, ?_⟩
  · intro n hn hne
    rcases List.mem_cons.mp hn with rfl | hn
    · exact absurd rfl hne
    · rcases List.mem_cons.mp hn with rfl | hn
      · exact List.mem_cons_self
      · rw [List.mem_singleton.mp hn]
        exact List.mem_cons_self
  · intro e he
    rcases List.mem_cons.mp he with rfl | he
    · rw [components_entry]
      exact ⟨[0], List.mem_cons_of_mem _ List.mem_cons_self, rfl, rfl⟩
    · rw [List.mem_singleton.mp he, components_secondEntry]
      exact ⟨[1], List.mem_cons_of_mem _ (List.mem_cons_of_mem _ List.mem_cons_self), rfl, rfl⟩
  · intro p content hfile
    rcases List.mem_cons.mp hfile with hroot | hfile
    · cases hroot
    · rcases List.mem_cons.mp hfile with hfirst | hsecond
      · cases hfirst
        exact ⟨entry, List.mem_cons_self, components_entry.symm⟩
      · cases List.mem_singleton.mp hsecond
        exact ⟨secondEntry, List.mem_cons_of_mem _ List.mem_cons_self,
          components_secondEntry.symm⟩
  · intro p
    constructor
    · intro hdir
      rcases List.mem_cons.mp hdir with hroot | hfile
      · cases hroot
        exact .inl rfl
      · rcases List.mem_cons.mp hfile with hfirst | hsecond
        · cases hfirst
        · cases List.mem_singleton.mp hsecond
    · intro hp
      rcases hp with rfl | ⟨e, he, hbegins⟩
      · exact List.mem_cons_self
      · rw [parentPath_of_mem he, List.prefix_nil] at hbegins
        rw [hbegins]
        exact List.mem_cons_self

set_option maxRecDepth 100000 in
/-- The tree of both files, listed from the last to the first, scans to their manifest. -/
theorem directory_recovers_manifest :
    ∃ files, FileSystemScanner.scan {} (source [(text "b", 3), (text "a", 2)]) =
      .ok ⟨bothManifest, files⟩ := by
  have hparse : Manifest.fromCanonicalBytes bothManifest.canonicalBytes = .ok bothManifest := by
    decide
  refine scan_recovers_manifest hparse tree_exact (by decide) (source_opens _)
    ⟨.file (.file .done), ?_, ?_⟩
  · intro r hr
    rcases List.mem_cons.mp hr with rfl | hr
    · exact ⟨rfl, rfl, rfl, rfl, rfl⟩
    · rw [List.mem_singleton.mp hr]
      exact ⟨rfl, rfl, rfl, rfl, rfl⟩
  · exact List.Perm.swap _ _ _

end RoboLake.Directory
