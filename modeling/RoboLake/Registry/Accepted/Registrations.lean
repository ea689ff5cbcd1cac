import RoboLake.Domain.Canonical
import RoboLake.Registry.Accepted.Versions
import RoboLake.Registry.Numbering

/-! # Registrations that commit

The totals of a Version are computed from the manifest and recounted from the rows when
it is sealed. Every manifest that was built within the column ranges passes all checks
on the way, whichever of its Blobs are stored already.
-/

namespace RoboLake

open Foundation Work Store Migrations

variable [Platform] {env : Env} {r : Registry} {m : Manifest}

/-! ## Built manifests -/

def Apart (x y : ManifestEntry × Nat) : Prop :=
  x.1.relativePath ≠ y.1.relativePath ∧ x.2 ≠ y.2

theorem entries_of_build {supplied : List ManifestEntry}
    (h : Manifest.build supplied = .ok m) :
    m.entries.length ≤ maxManifestEntries ∧
      (m.entries.map ManifestEntry.relativePath).Nodup := by
  unfold Manifest.build at h
  by_cases hcount : supplied.length > maxManifestEntries
  · rw [if_pos hcount] at h
    cases h
  · rw [if_neg hcount] at h
    simp only at h
    split at h
    · cases h
    · split at h
      · cases h
      · rename_i hcollision
        split at h
        · cases h
        · cases h
          have hperm := List.perm_insertionSort Manifest.pathLe supplied
          rw [Bool.not_eq_true, Manifest.hasCollision_collisionKeys] at hcollision
          have hkeys : ((supplied.map ManifestEntry.relativePath).map
              Manifest.collisionKey).Nodup := by
            rw [List.map_map]
            exact hcollision.1
          refine ⟨?_, (hperm.map _).nodup_iff.mpr hkeys.of_map⟩
          rw [hperm.length_eq]
          exact Nat.not_lt.mp hcount

theorem apart_of_nodup {entries : List ManifestEntry} {k : Nat}
    (h : (entries.map ManifestEntry.relativePath).Nodup) : (entries.zipIdx k).Pairwise Apart := by
  induction entries generalizing k with
  | nil => exact .nil
  | cons e entries ih =>
      rw [List.map_cons, List.nodup_cons] at h
      rw [List.zipIdx_cons]
      refine .cons ?_ (ih h.2)
      intro y hy
      obtain ⟨hindex, _, hget⟩ := List.mem_zipIdx hy
      refine ⟨?_, ?_⟩
      · intro hpath
        refine h.1 (List.mem_map.mpr ⟨y.1, ?_, hpath.symm⟩)
        rw [hget]
        exact List.getElem_mem _
      · simp only
        omega

theorem path_checks (p : RelativePath) : p.value ≠ [] ∧ p.bytes.length ≤ 1024 := by
  obtain ⟨encoded, hencoded, hsafe⟩ := (Option.any_eq_true _ _).mp p.safe
  unfold encodeUtf8 at hencoded
  split at hencoded
  · cases hencoded
  · cases hencoded
    simp only [RelativePath.isSafe, Bool.not_eq_true', Bool.or_eq_false_iff,
      decide_eq_false_iff_not] at hsafe
    obtain ⟨⟨⟨⟨⟨⟨⟨hempty, _⟩, _⟩, _⟩, hlength⟩, _⟩, _⟩, _⟩ := hsafe
    refine ⟨?_, Nat.not_lt.mp hlength⟩
    intro hnil
    rw [hnil] at hempty
    cases hempty

omit [Platform] in
theorem objectKeyFor_injective {d d' : Sha256Digest} (h : objectKeyFor d = objectKeyFor d') :
    d = d' := by
  have hlength : d.value.length = d'.value.length := by
    rw [d.length_value, d'.length_value]
  unfold objectKeyFor at h
  have htail := List.append_inj_right' h (by simp [hlength])
  have hvalue := (List.cons.inj htail).2
  exact Sha256Digest.ext hvalue

/-! ## Blobs and entries -/

section Entries

variable {s : TxState}

/-- A digest is stored with its size, or a Blob of that size can be inserted for it. A stored Blob
of another size is a conflict. -/
theorem answers_getOrCreateBlob {digest : Sha256Digest} {size : Nat}
    {Q : BlobModel → TxState → Prop} {E : Failure → Prop} (h : Lawful s.db)
    (hfits : size < bigint) (hfree : s.db.blobs.get? (s.uuids 0) = none)
    (hconflict : ∀ b ∈ s.db.blobs.rows, b.sha256 = digest → b.sizeBytes ≠ size →
      E (contentConflict "One SHA-256 digest has conflicting sizes."))
    (hQ : ∀ b blobs, b.sha256 = digest → b.sizeBytes = size → blobs.get? b.id = some b →
      (blobs = s.db.blobs ∨ blobs = s.db.blobs.insert b ∧ b.id = s.uuids 0) →
      Q b { s.drawn with db := { s.db with blobs := blobs } }) :
    Answers (getOrCreateBlob digest size) s Q E := by
  unfold getOrCreateBlob
  refine answers_bind.mpr (answers_of_ends (ends_uuid4.mpr ?_))
  refine answers_bind.mpr (answers_of_ends (ends_select.mpr ?_))
  cases hfound : s.drawn.db.blobs.rows.find? fun b => b.sha256 = digest with
  | some b =>
      have hmem : b ∈ s.db.blobs.rows := List.mem_of_find?_eq_some hfound
      have hsha := List.find?_some hfound
      simp only [decide_eq_true_eq] at hsha
      by_cases hsize : b.sizeBytes = size
      · refine answers_of_ends ?_
        simp only [ends_pure, ends_bind, ends_require]
        exact ⟨hsize, hQ b s.db.blobs hsha hsize (Relation.get?_of_mem hmem) (.inl rfl)⟩
      · refine answers_of_error ?_ (hconflict b hmem hsha hsize)
        simp only [run_pure_bind]
        exact run_require_bind_error.mpr (.inl ⟨hsize, rfl⟩)
  | none =>
      have habsent : ∀ b ∈ s.db.blobs.rows, b.sha256 ≠ digest := by
        simpa using List.find?_eq_none.mp hfound
      let row : BlobModel := {
        id := s.uuids 0
        sha256 := digest
        sizeBytes := size
        objectKey := objectKeyFor digest
        state := .pending }
      have hrules : Satisfied (blobConstraints s.db row) := by
        rw [blobConstraints, satisfied_append]
        constructor
        · simp [blobChecks, row, hfits]
        · simp only [satisfied_cons, Rule.violated_unique, satisfied_nil, and_true]
          constructor
          · intro hclash
            obtain ⟨b, hb, _, hobject⟩ := hclash
            have hchecks := h.blob_checks b hb
            simp only [blobChecks, satisfied_cons, Rule.violated_check, Ternary.refuted_of,
              not_not] at hchecks
            have hkeys : objectKeyFor b.sha256 = objectKeyFor digest :=
              hchecks.2.2.1.symm.trans hobject
            exact habsent b hb (objectKeyFor_injective hkeys)
          · intro hclash
            obtain ⟨b, hb, _, hsha⟩ := hclash
            exact habsent b hb hsha
      refine answers_of_ends ?_
      simp only [ends_bind, ends_perform, ends_pure, ends_require]
      refine ⟨_, exec_insertBlob_ok.mpr ⟨hrules, hfree, rfl⟩, trivial, ?_⟩
      exact hQ row _ rfl rfl (Relation.get?_insert_self hfree) (.inr ⟨rfl, rfl⟩)

theorem entryRules_of_new {db : Database} {row : DatasetEntryModel} {v : DatasetVersionModel}
    (hv : db.versions.get? row.datasetVersionId = some v) (hsealed : v.sealedAt = none)
    (hordinal : row.manifestOrdinal < bigint)
    (hb : (db.blobs.get? row.blobId).isSome = true)
    (hnew : ∀ e ∈ db.entries.rows, e.datasetVersionId = row.datasetVersionId →
      e.relativePath ≠ row.relativePath ∧ e.manifestOrdinal ≠ row.manifestOrdinal) :
    Satisfied (entryRules db row) ∧ db.entries.get? (key row) = none := by
  have hkey : db.entries.get? (key row) = none := by
    cases hget : db.entries.get? (key row) with
    | none => rfl
    | some e =>
        have hsame : key e = key row := Relation.key_of_get? hget
        obtain ⟨hversion, hpath⟩ := Prod.mk.inj hsame
        exact absurd hpath (hnew e (Relation.mem_of_get? hget) hversion).1
  refine ⟨?_, hkey⟩
  simp only [entryRules, satisfied_cons, Rule.violated_raiseIf, Rule.violated_range,
    Rule.violated_check, Rule.violated_unique, Rule.violated_foreignKey, Ternary.holds_of,
    Ternary.refuted_of, not_not, satisfied_nil, and_true]
  refine ⟨?_, hordinal, path_checks row.relativePath, ?_, ?_, hb, ?_⟩
  · rw [hv, Option.bind_some, hsealed]
    intro hclash
    cases hclash
  · rw [hkey]
    intro hclash
    cases hclash
  · intro hclash
    obtain ⟨e, he, hversion, hsame⟩ := hclash
    exact (hnew e he hversion).2 hsame
  · rw [hv]
    rfl

/-! ## The entry loop -/

/-- The tables while a Version is sealed, and what keeps the rest of the loop running. -/
structure Sealing (base : Database) (draft : DatasetVersionModel)
    (items rest : List (ManifestEntry × Nat)) (s : TxState) : Prop where
  lawful : Lawful s.db
  registering : Registering base draft.id items rest s.db
  origin : ∀ b ∈ s.db.blobs.rows, b ∈ base.blobs.rows ∨
    ∃ x ∈ items, b.sha256 = x.1.sha256 ∧ b.sizeBytes = x.1.sizeBytes
  distinct : ∀ i < rest.length, ∀ j < rest.length, s.uuids i = s.uuids j → i = j
  free : ∀ k < rest.length, s.db.blobs.get? (s.uuids k) = none
  touched : s.touched = [.version draft.id]

def SizeConflict (blobs : Relation BlobModel) (entries : List ManifestEntry) (e : Failure) : Prop :=
  e = contentConflict "One SHA-256 digest has conflicting sizes." ∧
    ∃ b ∈ blobs.rows, ∃ x ∈ entries, b.sha256 = x.sha256 ∧ b.sizeBytes ≠ x.sizeBytes

/-- The items of a loop have sizes and ordinals that fit, distinct paths and ordinals, and one size
for one digest. -/
structure Registrable (items : List (ManifestEntry × Nat)) : Prop where
  fits : ∀ x ∈ items, x.1.sizeBytes < bigint ∧ x.2 < bigint
  apart : items.Pairwise Apart
  consistent : ∀ x ∈ items, ∀ y ∈ items, x.1.sha256 = y.1.sha256 → x.1.sizeBytes = y.1.sizeBytes

theorem item_of_row {versionId : UUID} {blobs : Relation BlobModel}
    {items : List (ManifestEntry × Nat)} {rows : List DatasetEntryModel}
    (h : List.Forall₂ (EntryOf versionId blobs) items rows) {e : DatasetEntryModel}
    (he : e ∈ rows) : ∃ x ∈ items, EntryOf versionId blobs x e := by
  induction h with
  | nil => cases he
  | cons hrow _ ih =>
      rcases List.mem_cons.mp he with rfl | he
      · exact ⟨_, List.mem_cons_self, hrow⟩
      · obtain ⟨x, hx, hentry⟩ := ih he
        exact ⟨x, List.mem_cons_of_mem _ hx, hentry⟩

/-- A round inserts the entry, with a Blob if its digest is new. -/
theorem answers_registerEntry {base : Database} {draft : DatasetVersionModel}
    {items rest : List (ManifestEntry × Nat)} {item : ManifestEntry × Nat}
    (hitems : Registrable items) (hdraft : base.versions.get? draft.id = some draft)
    (hsealed : draft.sealedAt = none)
    (hbase : ∀ e ∈ base.entries.rows, e.datasetVersionId ≠ draft.id)
    (h : Sealing base draft items (item :: rest) s) :
    Answers (registerEntry draft.id item) s (fun _ s' => Sealing base draft items rest s')
      (SizeConflict base.blobs (items.map Prod.fst)) := by
  obtain ⟨done, news, hsplit, hrows, hnews⟩ := h.registering.entries
  have hitem : item ∈ items := by
    rw [hsplit]
    exact List.mem_append_right _ List.mem_cons_self
  obtain ⟨hsize, hordinal⟩ := hitems.fits item hitem
  have hversions : s.db.versions = base.versions := by rw [h.registering.frame]
  have hanswers : Answers (registerEntry draft.id item) s (fun _ s' =>
      (∃ b blobs, b.sha256 = item.1.sha256 ∧ b.sizeBytes = item.1.sizeBytes ∧
        (blobs = s.db.blobs ∨ blobs = s.db.blobs.insert b ∧ b.id = s.uuids 0) ∧
        s'.db.blobs = blobs) ∧ s'.uuids = s.drawn.uuids ∧ s'.touched = s.touched)
      (SizeConflict base.blobs (items.map Prod.fst)) := by
    unfold registerEntry
    rw [answers_bind]
    refine answers_getOrCreateBlob h.lawful hsize (h.free 0 (Nat.succ_pos _)) ?_ ?_
    · -- A Blob inserted by an earlier round has the size of its digest.
      intro b hb hsha hne
      rcases h.origin b hb with hstored | ⟨x, hx, hxsha, hxsize⟩
      · exact ⟨rfl, b, hstored, item.1, List.mem_map.mpr ⟨item, hitem, rfl⟩, hsha, hne⟩
      · exact absurd (hxsize.trans (hitems.consistent x hx item hitem (hxsha.symm.trans hsha))) hne
    · intro b blobs hsha hbsize hb hgrown
      have hv : s.db.versions.get? draft.id = some draft := hversions ▸ hdraft
      have hnew : ∀ e ∈ s.db.entries.rows, e.datasetVersionId = draft.id →
          e.relativePath ≠ item.1.relativePath ∧ e.manifestOrdinal ≠ item.2 := by
        intro e he hversion
        rw [hrows] at he
        rcases List.mem_append.mp he with hold | hnew
        · exact absurd hversion (hbase e hold)
        · obtain ⟨x, hx, _, hindex, hpath, _⟩ := item_of_row hnews hnew
          have hapart : Apart x item := by
            have hpairs := hitems.apart
            rw [hsplit, List.pairwise_append] at hpairs
            exact hpairs.2.2 x hx item List.mem_cons_self
          rw [hpath, hindex]
          exact hapart
      have hstored : (blobs.get? b.id).isSome = true := by
        rw [hb]
        rfl
      obtain ⟨hrules, hfree⟩ := @entryRules_of_new _ { s.db with blobs := blobs }
        ⟨draft.id, item.2, item.1.relativePath, b.id⟩ draft hv hsealed hordinal hstored hnew
      refine answers_of_ends (ends_perform.mpr ?_)
      exact ⟨_, exec_insertEntry_ok.mpr ⟨hrules, hfree, rfl⟩,
        ⟨b, blobs, hsha, hbsize, hgrown, rfl⟩, rfl, rfl⟩
  refine hanswers.mono ?_
  rintro _ s' hrun ⟨⟨b, blobs, hsha, hbsize, hgrown, hblobs⟩, huuids, htouched⟩
  refine ⟨h.lawful.run hrun, registering_step h.registering hrun, ?_, ?_, ?_,
    htouched.trans h.touched⟩
  · intro b' hb'
    rw [hblobs] at hb'
    rcases hgrown with rfl | ⟨rfl, _⟩
    · exact h.origin b' hb'
    · rcases Relation.mem_of_mem_insert hb' with hold | rfl
      · exact h.origin b' hold
      · exact .inr ⟨item, hitem, hsha, hbsize⟩
  · rw [huuids]
    intro i hi j hj hij
    have hsucc := h.distinct (i + 1) (Nat.succ_lt_succ hi) (j + 1) (Nat.succ_lt_succ hj) hij
    omega
  · intro k hk
    rw [huuids, hblobs]
    change blobs.get? (s.uuids (k + 1)) = none
    have hlt : k + 1 < (item :: rest).length := Nat.succ_lt_succ hk
    rcases hgrown with rfl | ⟨rfl, hid⟩
    · exact h.free (k + 1) hlt
    · have hne : s.uuids (k + 1) ≠ b.id := by
        rw [hid]
        intro hsame
        have hzero := h.distinct (k + 1) hlt 0 (Nat.succ_pos _) hsame
        omega
      have hfree : s.db.blobs.get? b.id = none := by
        rw [hid]
        exact h.free 0 (Nat.succ_pos _)
      rw [Relation.get?_insert_ne hfree hne]
      exact h.free (k + 1) hlt

end Entries

/-! ## Sealing -/

theorem ordinals_of_rows {versionId : UUID} {blobs : Relation BlobModel}
    {entries : List ManifestEntry} {rows : List DatasetEntryModel}
    (h : List.Forall₂ (EntryOf versionId blobs) entries.zipIdx rows) :
    rows.map DatasetEntryModel.manifestOrdinal = List.range entries.length := by
  have hmap : rows.map DatasetEntryModel.manifestOrdinal = entries.zipIdx.map Prod.snd := by
    generalize entries.zipIdx = items at h
    induction h with
    | nil => rfl
    | cons hrow _ ih =>
        rw [List.map_cons, List.map_cons, ih, hrow.2.1]
  rw [hmap, List.zipIdx_map_snd, List.range_eq_range']

/-- What is recounted of the rows of a manifest is what was computed of it. -/
theorem sealRules_of_rows {db : Database} {v : DatasetVersionModel} (h : Lawful db)
    (hrows : List.Forall₂ (EntryOf v.id db.blobs) m.entries.zipIdx (db.entriesOf v.id))
    (hfiles : v.fileCount = m.fileCount) (hlogical : v.logicalBytes = m.logicalBytes)
    (hcount : v.uniqueBlobCount = m.uniqueBlobCount)
    (hbytes : v.uniqueBlobBytes = m.uniqueBlobBytes) : Satisfied (sealRules db v) := by
  have hcarries : List.Forall₂ (Carries db) m.entries (entryBlobs db v.id) := carries_of_rows hrows
  have hordinals := ordinals_of_rows hrows
  have hlength : (db.entriesOf v.id).length = m.entries.length := by
    have hlengths := congrArg List.length hordinals
    rwa [List.length_map, List.length_range] at hlengths
  obtain ⟨hdistinct, hdistinctBytes⟩ := dedup_of_carries h hcarries (Manifest.digestSize m.entries)
    fun e he => digestSize_of_carries h hcarries he
  simp only [sealRules, satisfied_cons, Rule.violated_raiseIf, Ternary.holds_of, satisfied_nil,
    and_true, not_or, not_and_or, not_not]
  refine ⟨⟨?_, ?_⟩, ?_, ?_, ?_⟩
  · rw [hlength, hfiles]
    rfl
  · by_cases hempty : db.entriesOf v.id = []
    · exact .inl hempty
    · right
      have hpos : 0 < m.entries.length := by
        rw [← hlength]
        exact List.length_pos_of_ne_nil hempty
      rw [hordinals, hlength]
      constructor
      · refine List.min?_eq_some_iff.mpr ⟨List.mem_range.mpr hpos, ?_⟩
        intro k _
        exact Nat.zero_le k
      · refine List.max?_eq_some_iff.mpr ⟨List.mem_range.mpr (by omega), ?_⟩
        intro k hk
        have hlt := List.mem_range.mp hk
        omega
  · rw [hlogical, map_eq_of_carries hcarries fun _ _ hcarried => hcarried.2.2]
    rfl
  · rw [hcount]
    exact hdistinct
  · rw [hbytes]
    exact hdistinctBytes

structure FitsColumns (m : Manifest) : Prop where
  sizes : ∀ e ∈ m.entries, e.sizeBytes < bigint
  logicalBytes : m.logicalBytes < bigint
  uniqueBlobBytes : m.uniqueBlobBytes < bigint

/-- The first identifiers that are drawn are new: they differ, and no stored row has one. -/
structure FreshDraws (db : Database) (uuids : Nat → UUID) (count : Nat) : Prop where
  distinct : ∀ i < count, ∀ j < count, uuids i = uuids j → i = j
  versions : ∀ k < count, db.versions.get? (uuids k) = none
  blobs : ∀ k < count, db.blobs.get? (uuids k) = none

def SizesAgree (db : Database) (m : Manifest) : Prop :=
  ∀ b ∈ db.blobs.rows, ∀ e ∈ m.entries, b.sha256 = e.sha256 → b.sizeBytes = e.sizeBytes

omit [Platform] in
theorem le_foldr_max {xs : List Nat} {x : Nat} (h : x ∈ xs) : x ≤ xs.foldr max 0 := by
  induction xs with
  | nil => cases h
  | cons y ys ih =>
      rw [List.foldr_cons]
      rcases List.mem_cons.mp h with rfl | h
      · exact le_max_left _ _
      · exact (ih h).trans (le_max_right _ _)

theorem lt_nextVersionNumber {db : Database} {v : DatasetVersionModel}
    (hv : v ∈ db.versions.rows) : v.versionNumber < nextVersionNumber db v.datasetId := by
  refine Nat.lt_succ_of_le (le_foldr_max ?_)
  exact List.mem_map.mpr ⟨v, List.mem_filter.mpr ⟨hv, decide_eq_true rfl⟩, rfl⟩

theorem uniqueBlobCount_le (m : Manifest) : m.uniqueBlobCount ≤ m.entries.length := by
  have hlength := List.Sublist.length_le (List.dedup_sublist (m.entries.map ManifestEntry.sha256))
  rwa [List.length_map] at hlength

theorem registrable_of_build {supplied : List ManifestEntry}
    (h : Manifest.build supplied = .ok m) (hfits : FitsColumns m) :
    Registrable m.entries.zipIdx := by
  obtain ⟨hcount, hpaths⟩ := entries_of_build h
  obtain ⟨_, _, _, _, hconsistent⟩ := Manifest.build_spec h
  have hsizes := Manifest.hasConflictingSizes_eq_false.mp hconsistent
  have hmem : ∀ x ∈ m.entries.zipIdx, x.1 ∈ m.entries ∧ x.2 < m.entries.length := by
    intro x hx
    obtain ⟨_, hlt, hget⟩ := List.mem_zipIdx hx
    refine ⟨?_, by omega⟩
    rw [hget]
    exact List.getElem_mem _
  refine ⟨?_, apart_of_nodup hpaths, ?_⟩
  · intro x hx
    obtain ⟨hentry, hlt⟩ := hmem x hx
    refine ⟨hfits.sizes x.1 hentry, ?_⟩
    unfold maxManifestEntries at hcount
    unfold bigint
    omega
  · intro x hx y hy
    exact hsizes x.1 (hmem x hx).1 y.1 (hmem y hy).1

theorem versionChecks_of_build {supplied : List ManifestEntry}
    (h : Manifest.build supplied = .ok m) (hfits : FitsColumns m) {id datasetId : UUID}
    {number : Nat} (hpos : 0 < number) (hnumber : number < bigint)
    (sealedAt : Option Timestamp) :
    Satisfied (versionChecks { draftVersion id datasetId number m with sealedAt := sealedAt }) := by
  obtain ⟨hcount, _⟩ := entries_of_build h
  obtain ⟨_, _, _, hschema, _⟩ := Manifest.build_spec h
  have hunique := uniqueBlobCount_le m
  have hfiles : m.fileCount = m.entries.length := rfl
  unfold maxManifestEntries at hcount
  simp only [versionChecks, satisfied_cons, Rule.violated_range, Rule.violated_check,
    Ternary.refuted_of, not_not, satisfied_nil, and_true]
  refine ⟨hnumber, ?_, hfits.logicalBytes, ?_, hfits.uniqueBlobBytes, ?_, hpos, hschema⟩
  · change m.fileCount < bigint
    unfold bigint
    omega
  · change m.uniqueBlobCount < bigint
    unfold bigint
    omega
  · intro d hd
    cases hd

theorem versionConstraints_of_new {db : Database} {v : DatasetVersionModel}
    (hchecks : Satisfied (versionChecks v))
    (hdataset : (db.datasets.get? v.datasetId).isSome = true)
    (hnumber : v.versionNumber = nextVersionNumber db v.datasetId)
    (hmanifest : ∀ x ∈ db.versions.rows, ¬(x.datasetId = v.datasetId ∧
      x.manifestSha256 = v.manifestSha256)) : Satisfied (versionConstraints db v) := by
  simp only [versionConstraints, satisfied_append, satisfied_cons, Rule.violated_unique,
    Rule.violated_foreignKey, satisfied_nil, and_true]
  refine ⟨hchecks, ?_, ?_, hdataset⟩
  · intro hclash
    obtain ⟨x, hx, _, hsame⟩ := hclash
    exact hmanifest x hx hsame
  · intro hclash
    obtain ⟨x, hx, _, hxd, hxn⟩ := hclash
    have hlt := lt_nextVersionNumber hx
    rw [hxd, hxn, hnumber] at hlt
    exact lt_irrefl _ hlt

/-- A built manifest that fits is inserted and sealed. -/
theorem answers_sealVersion {s : TxState} {datasetId : UUID} {supplied : List ManifestEntry}
    {Q : DatasetVersionModel → TxState → Prop} (h : Lawful s.db) (htouched : s.touched = [])
    (hbuild : Manifest.build supplied = .ok m) (hfits : FitsColumns m)
    (hdraws : FreshDraws s.db s.uuids (m.entries.length + 1))
    (hdataset : (s.db.datasets.get? datasetId).isSome = true)
    (hnumber : nextVersionNumber s.db datasetId < bigint)
    (hmanifest : ∀ v ∈ s.db.versions.rows, ¬(v.datasetId = datasetId ∧
      v.manifestSha256 = m.sha256))
    (hQ : ∀ v s', v.datasetId = datasetId → v.manifestSha256 = m.sha256 →
      v.manifestBytes = m.canonicalBytes → v.sealedAt ≠ none →
      s'.db.versions = s.db.versions.insert v →
      s.db.versions.get? v.id = none → s'.db.idempotency = s.db.idempotency →
      (∀ t ∈ s'.touched, t = .version v.id) → Q v s') :
    Answers (sealVersion datasetId m) s Q (SizeConflict s.db.blobs m.entries) := by
  let draft := draftVersion (s.uuids 0) datasetId (nextVersionNumber s.db datasetId) m
  have hpos : 0 < nextVersionNumber s.db datasetId := Nat.succ_pos _
  have hfree : s.db.versions.get? draft.id = none := hdraws.versions 0 (Nat.succ_pos _)
  have hrules : Satisfied (versionConstraints s.db draft) :=
    versionConstraints_of_new (versionChecks_of_build hbuild hfits hpos hnumber none) hdataset rfl
      hmanifest
  let base : Database := { s.db with versions := s.db.versions.insert draft }
  let s₁ : TxState := { s.drawn with db := base, touched := s.touched ++ [.version draft.id] }
  have hexec : execWrite (.insertVersion draft) s.drawn = .ok s₁ :=
    exec_insertVersion_ok.mpr ⟨hrules, hfree, rfl⟩
  have hdraft : base.versions.get? draft.id = some draft := Relation.get?_insert_self hfree
  have hbase : ∀ e ∈ base.entries.rows, e.datasetVersionId ≠ draft.id := by
    intro e he hversion
    obtain ⟨v, hv⟩ := h.entry_version.get he
    rw [hversion, hfree] at hv
    cases hv
  have hstart : Sealing base draft m.entries.zipIdx m.entries.zipIdx s₁ := by
    refine ⟨lawful_of_exec hexec h, ⟨rfl, BlobsGrown.refl _, [], [], rfl,
      (List.append_nil _).symm, .nil⟩, ?_, ?_, ?_, ?_⟩
    · intro b hb
      exact .inl hb
    · rw [List.length_zipIdx]
      intro i hi j hj hij
      have hsucc := hdraws.distinct (i + 1) (Nat.succ_lt_succ hi) (j + 1)
        (Nat.succ_lt_succ hj) hij
      omega
    · rw [List.length_zipIdx]
      intro k hk
      exact hdraws.blobs (k + 1) (Nat.succ_lt_succ hk)
    · change s.touched ++ _ = _
      rw [htouched]
      rfl
  unfold sealVersion
  refine answers_bind.mpr (answers_of_ends (ends_select.mpr ?_))
  refine answers_bind.mpr (answers_of_ends (ends_uuid4.mpr ?_))
  refine answers_bind.mpr (answers_of_ends (ends_perform.mpr ⟨s₁, hexec, ?_⟩))
  rw [answers_bind]
  refine Answers.mono (answers_forEach (J := Sealing base draft m.entries.zipIdx) ?_ hstart) ?_
  · intro item rest s₂ hsealing
    have hround :=
      answers_registerEntry (registrable_of_build hbuild hfits) hdraft rfl hbase hsealing
    rwa [List.zipIdx_map_fst] at hround
  · intro _ s₂ _ hsealing
    refine answers_of_ends ?_
    rw [ends_bind, ends_utcNow, ends_bind]
    let final : DatasetVersionModel := { draft with sealedAt := some (s₂.wall 0) }
    obtain ⟨done, news, hdone, hrows, hnews⟩ := hsealing.registering.entries
    have hversions : s₂.db.versions = base.versions := by rw [hsealing.registering.frame]
    have hstored : s₂.db.versions.get? draft.id = some draft := hversions ▸ hdraft
    have hentries : s₂.db.entriesOf draft.id = news := by
      have hold : base.entries.rows.filter (fun e => e.datasetVersionId = draft.id) = [] :=
        List.filter_eq_nil_iff.mpr fun e he hversion => hbase e he (of_decide_eq_true hversion)
      have hnew : news.filter (fun e => e.datasetVersionId = draft.id) = news :=
        List.filter_eq_self.mpr fun e he => decide_eq_true (versionId_of_entryOf hnews e he)
      unfold Database.entriesOf
      rw [hrows, List.filter_append, hold, hnew, List.nil_append]
    have hsealed : Satisfied (sealRules s₂.db final) := by
      refine sealRules_of_rows hsealing.lawful ?_ rfl rfl rfl rfl
      change List.Forall₂ (EntryOf draft.id s₂.db.blobs) m.entries.zipIdx (s₂.db.entriesOf draft.id)
      rw [hentries, hdone, List.append_nil]
      exact hnews
    have hflush : Satisfied (guardDatasetVersion s₂.db draft final ++
        versionConstraints s₂.db final) := by
      rw [satisfied_append]
      constructor
      · unfold guardDatasetVersion
        rw [if_pos ⟨rfl, nofun⟩]
        simp only [satisfied_append, satisfied_cons, Rule.violated_raiseIf, Ternary.holds_of,
          satisfied_nil, and_true]
        refine ⟨⟨⟨?_, ?_⟩, hsealed⟩, ?_⟩
        · intro hready
          cases hready.1
        · intro hcontent
          exact hcontent.1 rfl
        · intro hstate
          exact hstate.1 rfl
      · exact hsealing.lawful.versionConstraints_kept hstored rfl rfl rfl
          (versionChecks_of_build hbuild hfits hpos hnumber _)
    refine @ends_flushVersion _ s₂.glanced _ draft final hsealing.lawful hstored hflush
      fun ts hts _ => ?_
    rw [ends_pure]
    refine hQ final _ rfl rfl rfl nofun ?_ hfree ?_ ?_
    · change s₂.db.versions.replace final = s.db.versions.insert final
      rw [hversions]
      exact Relation.replace_insert hfree rfl
    · change s₂.db.idempotency = s.db.idempotency
      rw [hsealing.registering.frame]
    · intro t ht
      rcases List.mem_append.mp ht with ht | ht
      · change t ∈ s₂.touched at ht
        rw [hsealing.touched] at ht
        exact List.mem_singleton.mp ht
      · exact hts t ht

/-! ## Registration -/

def FreshVersionKey (db : Database) (key : String) : Prop :=
  key.length ≤ 255 ∧ db.idempotency.get? (.versionRegister, key) = none

theorem ends_bindVersion {s : TxState} {key : String} {sha : Sha256Digest}
    {v : DatasetVersionModel} {Q : Unit → TxState → Prop} (hkey : FreshVersionKey s.db key)
    (hQ : ∀ s', s'.db = s.db.bind (versionBinding key sha v) → s'.touched = s.touched → Q () s') :
    Ends (perform (.insertIdempotency (versionBinding key sha v)) : Tx Unit) s Q := by
  obtain ⟨hlength, hfree⟩ := hkey
  have hrules : Satisfied (idempotencyRules s.db (versionBinding key sha v)) := by
    have hfree' : s.db.idempotency.get? (IdempotencyScope.versionRegister, key) = none := hfree
    simp [idempotencyRules, versionBinding, IdempotencyScope.isM2, Keyed.key, hfree', hlength]
  rw [ends_perform]
  exact ⟨_, exec_insertIdempotency_ok.mpr ⟨hrules, hfree, rfl⟩, hQ _ rfl rfl⟩

theorem bound_ne_none {db : Database} {key : String} {sha : Sha256Digest}
    {v : DatasetVersionModel} (h : db.idempotency.get? (.versionRegister, key) = none) :
    (db.bind (versionBinding key sha v)).idempotency.get? (.versionRegister, key) ≠ none := by
  have hbound := @Relation.get?_insert_self _ _ _ _ db.idempotency (versionBinding key sha v) h
  intro hnone
  have hsome : (db.idempotency.insert (versionBinding key sha v)).get? (.versionRegister, key) =
    some (versionBinding key sha v) := hbound
  rw [Database.bind] at hnone
  rw [hsome] at hnone
  cases hnone

/-- The Version of a registration is stored under the digest of the manifest: it was found, or it
holds the text of the manifest. The key is bound. -/
structure RegistersVersion (before after : Database) (datasetId : UUID) (m : Manifest)
    (key : String) (record : VersionRecord) (v : DatasetVersionModel) : Prop where
  stored : after.versions.get? v.id = some v
  named : ∃ d, before.datasets.get? datasetId = some d ∧ record = versionRecord v d.name
  dataset : v.datasetId = datasetId
  digest : v.manifestSha256 = m.sha256
  origin : v ∈ before.versions.rows ∨ v.manifestBytes = m.canonicalBytes
  bound : after.idempotency.get? (.versionRegister, key) ≠ none

/-- A built manifest that fits is registered: its Version is stored, or found and bound. All that
can refuse it is a stored Blob of another size. -/
theorem transact_registerVersion {datasetId : UUID} {supplied : List ManifestEntry} {key : String}
    {sha : Sha256Digest} (h : store.Reachable r) (hbuild : Manifest.build supplied = .ok m)
    (hloads : Manifest.LoadsDumped m) (hfits : FitsColumns m)
    (hdraws : FreshDraws r.db env.uuids (m.entries.length + 1))
    (hdataset : (r.db.datasets.get? datasetId).isSome = true)
    (hnumber : nextVersionNumber r.db datasetId < bigint) (hkey : FreshVersionKey r.db key) :
    (∃ record db, transact (registerVersion datasetId m key sha) env r =
        (.ok record, ⟨db, r.later env⟩) ∧
      ∃ v, RegistersVersion r.db db datasetId m key record v) ∨
    ∃ e, SizeConflict r.db.blobs m.entries e ∧
      transact (registerVersion datasetId m key sha) env r = (.error e, ⟨r.db, r.later env⟩) := by
  have hcommitted := committed_of_reachable h
  obtain ⟨d, hd⟩ := Option.isSome_iff_exists.mp hdataset
  have hcanonical := Manifest.fromCanonicalBytes_of_build hbuild hloads
  refine transact_of_answers ?_
  unfold registerVersion
  refine answers_bind.mpr (answers_of_ends (ends_ofExcept.mpr ⟨m, hcanonical, ?_⟩))
  refine answers_bind.mpr (answers_of_ends (ends_require.mpr ⟨rfl, ?_⟩))
  refine answers_bind.mpr (answers_of_ends (ends_fetch.mpr ⟨d, hd, ?_⟩))
  refine answers_bind.mpr (answers_of_ends (ends_select.mpr ?_))
  rw [db_beginTx, hkey.2]
  refine answers_bind.mpr (answers_of_ends (ends_select.mpr ?_))
  cases hfound : (beginTx env r).db.versions.rows.find? fun v =>
      v.datasetId = datasetId ∧ v.manifestSha256 = m.sha256 with
  | some v =>
      have hmem : v ∈ r.db.versions.rows := List.mem_of_find?_eq_some hfound
      have hmatch := List.find?_some hfound
      simp only [decide_eq_true_eq] at hmatch
      refine answers_of_ends ?_
      simp only [ends_bind, ends_pure]
      refine ends_bindVersion hkey fun s' hdb htouched => ⟨⟨v, ?_⟩, ?_⟩
      · have hstored : s'.db.versions.get? v.id = some v := by
          rw [hdb]
          exact Relation.get?_of_mem hmem
        have hbound : s'.db.idempotency.get? (.versionRegister, key) ≠ none := by
          rw [hdb]
          exact bound_ne_none hkey.2
        exact ⟨hstored, ⟨d, hd, rfl⟩, hmatch.1, hmatch.2, .inl hmem, hbound⟩
      · intro t ht
        rw [htouched] at ht
        cases ht
  | none =>
      have hmanifest : ∀ v ∈ r.db.versions.rows, ¬(v.datasetId = datasetId ∧
          v.manifestSha256 = m.sha256) := by
        simpa using List.find?_eq_none.mp hfound
      rw [answers_bind]
      refine @answers_sealVersion _ _ (beginTx env r) _ _ _ hcommitted.lawful rfl hbuild hfits
        hdraws hdataset hnumber hmanifest ?_
      intro v s₁ hvd hvs hbytes hsealed hversions hfree hidempotency htouched
      have hkey₁ : FreshVersionKey s₁.db key := ⟨hkey.1, by rw [hidempotency]; exact hkey.2⟩
      refine answers_of_ends ?_
      rw [ends_bind]
      refine ends_bindVersion hkey₁ fun s₂ hdb htouched₂ => ?_
      rw [ends_pure]
      refine ⟨⟨v, ?_⟩, ?_⟩
      · have hstored : s₂.db.versions.get? v.id = some v := by
          rw [hdb]
          change s₁.db.versions.get? v.id = some v
          rw [hversions]
          exact Relation.get?_insert_self hfree
        have hbound : s₂.db.idempotency.get? (.versionRegister, key) ≠ none := by
          rw [hdb]
          exact bound_ne_none hkey₁.2
        exact ⟨hstored, ⟨d, hd, rfl⟩, hvd, hvs, .inr hbytes, hbound⟩
      · intro t ht clock _
        rw [htouched₂] at ht
        rw [htouched t ht]
        refine requireSealedVersion_of_sealed ?_
        rw [hdb]
        change ∀ x ∈ s₁.db.versions.rows, x.sealedAt ≠ none
        rw [hversions]
        exact Relation.forall_insert hcommitted.sealed hfree hsealed

/-- A manifest of more bytes than the column holds is refused by the database when it would be
stored. -/
theorem transact_registerVersion_refused {datasetId : UUID} {supplied : List ManifestEntry}
    {key : String} {sha : Sha256Digest} (hbuild : Manifest.build supplied = .ok m)
    (hloads : Manifest.LoadsDumped m) (hlogical : bigint ≤ m.logicalBytes)
    (hdataset : (r.db.datasets.get? datasetId).isSome = true)
    (hkey : r.db.idempotency.get? (.versionRegister, key) = none)
    (hmanifest : ∀ v ∈ r.db.versions.rows, ¬(v.datasetId = datasetId ∧
      v.manifestSha256 = m.sha256)) :
    ∃ d, (transact (registerVersion datasetId m key sha) env r).1 = .error (.database d) := by
  obtain ⟨dataset, hd⟩ := Option.isSome_iff_exists.mp hdataset
  have hcanonical := Manifest.fromCanonicalBytes_of_build hbuild hloads
  let draft := draftVersion (env.uuids 0) datasetId (nextVersionNumber r.db datasetId) m
  have hrefused : ∃ d, execWrite (.insertVersion draft) (beginTx env r).drawn =
      .error (.database d) := by
    cases hexec : execWrite (.insertVersion draft) (beginTx env r).drawn with
    | error e =>
        obtain ⟨d, rfl⟩ := exec_error hexec
        exact ⟨d, rfl⟩
    | ok s =>
        obtain ⟨hrules, _, _⟩ := exec_insertVersion_ok.mp hexec
        rw [versionConstraints, satisfied_append] at hrules
        have hchecks := hrules.1
        simp only [versionChecks, draft, satisfied_cons, Rule.violated_range] at hchecks
        exact absurd hchecks.2.2.1 (Nat.not_lt.mpr hlogical)
  obtain ⟨d, hd'⟩ := hrefused
  have hnone : ((beginTx env r).db.versions.rows.find? fun v =>
      v.datasetId = datasetId ∧ v.manifestSha256 = m.sha256) = none := by
    refine List.find?_eq_none.mpr ?_
    intro v hv
    simp only [decide_eq_true_eq]
    exact hmanifest v hv
  have hrun : run (registerVersion datasetId m key sha) (beginTx env r) =
      .error (.database d) := by
    unfold registerVersion
    refine run_ofExcept_bind_error.mpr (.inr ⟨m, hcanonical, ?_⟩)
    refine run_require_bind_error.mpr (.inr ⟨rfl, ?_⟩)
    refine run_fetch_bind_error.mpr (.inr ⟨dataset, hd, ?_⟩)
    rw [run_select_bind, db_beginTx, hkey]
    simp only
    rw [run_select_bind, hnone]
    refine run_bind_error.mpr (.inl ?_)
    unfold sealVersion
    rw [run_select_bind]
    refine run_bind_error.mpr (.inr ⟨_, _, rfl, ?_⟩)
    exact run_perform_bind_error.mpr (.inl hd')
  exact ⟨d, by rw [transact_of_raised hrun]⟩

end RoboLake
