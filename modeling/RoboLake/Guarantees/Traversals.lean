import RoboLake.Application.Pull
import RoboLake.Guarantees.Downloads
import RoboLake.Guarantees.Progress
import RoboLake.Guarantees.Publication
import RoboLake.Registry.Accepted.Registrations

/-! # Download traversals

A READY Version offers its manifest one entry at a time. Whatever other clients do in
between, following the cursors yields the entries in order, each exactly once.
-/

namespace RoboLake

open Foundation Store Work

variable [Platform] {v : DatasetVersionModel} {m : Manifest} {s s' : Scene}

/-! ## Stored entries -/

theorem entry_of_rows {versionId : UUID} {blobs : Relation BlobModel}
    {entries : List ManifestEntry} {rows : List DatasetEntryModel} {j k : Nat}
    (h : List.Forall₂ (EntryOf versionId blobs) (entries.zipIdx j) rows) (hk : j ≤ k) :
    ((rows.find? fun e => e.manifestOrdinal = k).bind fun e =>
      (blobs.get? e.blobId).bind fun b =>
        some (⟨e.relativePath, b.sizeBytes, b.sha256⟩ : ManifestEntry)) = entries[k - j]? := by
  induction entries generalizing rows j with
  | nil =>
      cases h
      rfl
  | cons entry entries ih =>
      cases h with
      | cons hrow hrest =>
          obtain ⟨_, hordinal, hpath, b, hb, hsha, hsize⟩ := hrow
          rw [List.find?_cons]
          by_cases hhere : j = k
          · rw [hordinal, hhere]
            simp only [decide_true, Option.bind_some, hb, hpath, hsha, hsize]
            rw [Nat.sub_self]
            rfl
          · have hother : decide (j = k) = false := decide_eq_false hhere
            rw [hordinal]
            simp only [hother]
            have hlater : k - j = k - (j + 1) + 1 := by omega
            rw [ih hrest (by omega), hlater, List.getElem?_cons_succ]

/-- A stored manifest is read back by its ordinals. -/
theorem Registered.run_getDownloadEntry {t : TxState} (h : Registered t.db v m) (k : Nat) :
    run (getDownloadEntry v.id k) t = .ok (m.entries[k]?, t) := by
  have hrows := entry_of_rows h.rows (Nat.zero_le k)
  rw [Database.entriesOf, List.find?_filter] at hrows
  rw [getDownloadEntry, run_select_ok]
  refine ⟨?_, rfl⟩
  rw [Nat.sub_zero] at hrows
  rw [← hrows]
  simp only [decide_eq_true_eq, Option.pure_def, Option.bind_eq_bind]

/-! ## Scenes with a READY Version -/

/-- The scene has the READY Version, which stores the manifest. -/
structure Offers (v : DatasetVersionModel) (m : Manifest) (s : Scene) : Prop where
  reachable : store.Reachable s.registry
  stored : s.registry.db.versions.get? v.id = some v
  ready : v.state = .ready
  loads : Manifest.fromCanonicalBytes v.manifestBytes = .ok m

theorem Offers.registered (h : Offers v m s) : Registered s.registry.db v m := by
  obtain ⟨m', hregistered⟩ :=
    registered_of_reachable h.reachable v (Relation.mem_of_get? h.stored)
  have hloads := hregistered.loads
  rw [h.loads] at hloads
  cases hloads
  exact hregistered

theorem Offers.later (h : Offers v m s) (hreachable : store.Reachable s'.registry)
    (hextends : Extends s.registry.db s'.registry.db) : Offers v m s' := by
  obtain ⟨v', hv', hlater⟩ := hextends.versions _ v h.stored
  rw [hlater.ready h.ready] at hv'
  exact ⟨hreachable, hv', h.ready, h.loads⟩

theorem Offers.next (h : Offers v m s) : Offers v m s.next :=
  h.later (Scene.next_reachable h.reachable) (extends_of_run_store h.reachable _)

theorem Offers.call {α : Type} {tx : Tx α} (op : Operation) (hop : operationTx op = effect tx)
    (h : Offers v m s) : Offers v m (Served.call tx s).2 := by
  have hnext := h.next
  refine hnext.later (Served.call_reachable op hop h.reachable) ?_
  exact @extends_of_transact _ _ tx (s.turns 0).env _
    (committed_of_reachable hnext.reachable).lawful

theorem Offers.getStatus (h : Offers v m s) :
    ∃ status s', Served.call (getStatus v.id) s = (.ok status, s') ∧
      status.version.state = .ready ∧ status.version.fileCount = m.fileCount ∧
      Offers v m s' := by
  have hnext := h.next
  obtain ⟨status, d, _, hrun, _, hversion, _⟩ :=
    run_getStatus (t := beginTx (s.turns 0).env s.next.registry)
      (committed_of_reachable hnext.reachable).lawful hnext.stored hnext.registered
  have hcall := Served.call_of_read hrun
  refine ⟨status, _, hcall, ?_, ?_, ?_⟩
  · rw [hversion]
    exact h.ready
  · rw [hversion]
    exact hnext.registered.summaries.2.1.symm
  · have hoffers := h.call (.getStatus v.id) rfl
    rwa [hcall] at hoffers

theorem Offers.getDownloadEntry (h : Offers v m s) (k : Nat) :
    ∃ s', Served.call (getDownloadEntry v.id k) s = (.ok m.entries[k]?, s') ∧ Offers v m s' := by
  have hnext := h.next
  have hrun := Registered.run_getDownloadEntry (t := beginTx (s.turns 0).env s.next.registry)
    hnext.registered k
  have hcall := Served.call_of_read hrun
  refine ⟨_, hcall, ?_⟩
  have hoffers := h.call (.getDownloadEntry v.id k) rfl
  rwa [hcall] at hoffers

/-! ## One plan -/

/-- The cursor stands for the ordinal of a Version with that many files; past the last one there
is none. -/
def Locates (versionId : UUID) (fileCount : Nat) (cursor : Option PyStr) (k : Nat) : Prop :=
  if k < fileCount then cursorOrdinal cursor versionId fileCount = .ok k else cursor = none

omit [Platform] in
theorem locates_first (versionId : UUID) (fileCount : Nat) :
    Locates versionId fileCount none 0 := by
  unfold Locates
  split
  · rfl
  · rfl

theorem Offers.fileCount_le (h : Offers v m s) : m.fileCount ≤ maxManifestEntries := by
  obtain ⟨_, supplied, hbuild⟩ := Manifest.fromCanonicalBytes_spec h.loads
  exact (entries_of_build hbuild).1

omit [Platform] in
theorem nextCursorAfter_locates {versionId : UUID} {fileCount k : Nat}
    (hcount : fileCount ≤ maxManifestEntries) (hk : k < fileCount) :
    ∃ next, nextCursorAfter versionId k fileCount = .ok next ∧
      Locates versionId fileCount next (k + 1) ∧ (next = none ↔ k + 1 = fileCount) := by
  unfold nextCursorAfter Locates
  have hlimit : maxManifestEntries = 100000 := rfl
  by_cases hmore : k + 1 < fileCount
  · obtain ⟨cursor, hencode, hdecode⟩ := (cursor_codec_is_exact versionId fileCount).1 (k + 1 : Nat)
      (by omega) (by omega) (by omega)
    have hcast : ((k + 1 : Nat) : Int) = (k : Int) + 1 := by omega
    rw [hcast] at hencode
    rw [if_pos (by omega), hencode]
    refine ⟨some cursor, rfl, ?_, ?_⟩
    · rw [if_pos hmore]
      exact hdecode
    · constructor
      · intro hnone
        cases hnone
      · intro hlast
        omega
  · rw [if_neg (by omega)]
    refine ⟨none, rfl, ?_, ?_⟩
    · rw [if_neg hmore]
    · constructor
      · intro _
        omega
      · intro _
        rfl

variable (service : TransferService) (signGet : SignGet)

/-- The plan of an ordinal names its entry and the next ordinal. -/
theorem Offers.downloadPlan (h : Offers v m s) {k : Nat} {entry : ManifestEntry}
    {cursor : Option PyStr} (hentry : m.entries[k]? = some entry)
    (hcursor : Locates v.id m.fileCount cursor k) :
    ∃ next s', service.downloadPlan signGet v.id cursor s =
        (.ok ⟨some ⟨entry, presignGet signGet (objectKeyFor entry.sha256)
          service.presignedUrlTtlSeconds⟩, next, decide (k + 1 = m.fileCount)⟩, s') ∧
      Locates v.id m.fileCount next (k + 1) ∧ (next = none ↔ k + 1 = m.fileCount) ∧
      Offers v m s' := by
  have hk : k < m.fileCount := (List.getElem?_eq_some_iff.mp hentry).choose
  obtain ⟨next, hnext, hlocates, hlast⟩ :
      ∃ next, nextCursorAfter v.id (k : Int) m.fileCount = .ok next ∧
        Locates v.id m.fileCount next (k + 1) ∧ (next = none ↔ k + 1 = m.fileCount) :=
    nextCursorAfter_locates h.fileCount_le hk
  obtain ⟨status, s₁, hstatus, hstate, hcount, h₁⟩ := h.getStatus
  obtain ⟨s₂, hread, h₂⟩ := h₁.getDownloadEntry k
  have hordinal : cursorOrdinal cursor v.id m.fileCount = .ok (k : Int) := by
    unfold Locates at hcursor
    rwa [if_pos hk] at hcursor
  refine ⟨next, s₂, ?_, hlocates, hlast, h₂⟩
  rw [TransferService.downloadPlan, Served.bind_of_ok hstatus, if_neg (not_not.mpr hstate), hcount,
    if_neg (by omega)]
  rw [hordinal]
  have hpure : (MonadExcept.ofExcept (Except.ok (k : Int)) : Served Int) s₁ = (.ok (k : Int), s₁) :=
    rfl
  rw [Served.bind_of_ok hpure, Int.toNat_natCast, Served.bind_of_ok hread, hentry]
  simp only
  rw [hnext]
  have hdone : next.isNone = decide (k + 1 = m.fileCount) := by
    cases next with
    | none => simp [hlast.mp rfl]
    | some c =>
        have hmore : k + 1 ≠ m.fileCount := fun heq => nomatch hlast.mpr heq
        simp [hmore]
  rw [← hdone]
  rfl

/-! ## Whole traversals -/

def traverse (versionId : UUID) :
    Nat → Option PyStr → Served (List DownloadCapability)
  | 0, _ => pure []
  | fuel + 1, cursor => do
      let capability ← service.downloadPlan signGet versionId cursor
      match capability.nextCursor with
      | none => pure [capability]
      | some next => do
          let rest ← traverse versionId fuel (some next)
          pure (capability :: rest)

/-- The answer offers the entry of an ordinal, and only that of the last one is final. -/
structure Answers (fileCount : Nat) (expected : ManifestEntry × Nat)
    (answer : DownloadCapability) : Prop where
  item : answer.item = some ⟨expected.1, presignGet signGet (objectKeyFor expected.1.sha256)
    service.presignedUrlTtlSeconds⟩
  complete : answer.complete = true ↔ expected.2 + 1 = fileCount
  nextCursor : answer.nextCursor = none ↔ expected.2 + 1 = fileCount

theorem Offers.traverse (h : Offers v m s) {k fuel : Nat} {cursor : Option PyStr}
    (hk : k < m.fileCount) (hfuel : m.fileCount - k ≤ fuel)
    (hcursor : Locates v.id m.fileCount cursor k) :
    ∃ answers s', RoboLake.traverse service signGet v.id fuel cursor s = (.ok answers, s') ∧
      List.Forall₂ (Answers service signGet m.fileCount) (m.entries.zipIdx.drop k) answers := by
  induction fuel generalizing k cursor s with
  | zero => omega
  | succ fuel ih =>
      have hbound : k < m.entries.length := hk
      have hlength : k < m.entries.zipIdx.length := by rwa [List.length_zipIdx]
      obtain ⟨next, s₁, hplan, hlocates, hlast, h₁⟩ :=
        h.downloadPlan service signGet (List.getElem?_eq_getElem hbound) hcursor
      have hanswer : Answers service signGet m.fileCount (m.entries[k], k)
          ⟨some ⟨m.entries[k], presignGet signGet (objectKeyFor m.entries[k].sha256)
            service.presignedUrlTtlSeconds⟩, next, decide (k + 1 = m.fileCount)⟩ :=
        ⟨rfl, decide_eq_true_iff, hlast⟩
      rw [List.drop_eq_getElem_cons hlength, List.getElem_zipIdx, Nat.zero_add, RoboLake.traverse,
        Served.bind_of_ok hplan]
      cases next with
      | none =>
          have hdone := hlast.mp rfl
          have hrest : m.entries.zipIdx.drop (k + 1) = [] := by
            rw [List.drop_eq_nil_iff, List.length_zipIdx, hdone]
            exact le_rfl
          refine ⟨_, s₁, rfl, ?_⟩
          rw [hrest]
          exact .cons hanswer .nil
      | some cursor' =>
          have hmore : k + 1 ≠ m.fileCount := fun heq => nomatch hlast.mpr heq
          obtain ⟨rest, s₂, hrest, hanswers⟩ := ih h₁ (by omega) (by omega) hlocates
          simp only
          rw [Served.bind_of_ok hrest]
          exact ⟨_, s₂, rfl, .cons hanswer hanswers⟩

/-- Following the cursors of a READY Version answers for the entries of its manifest in order, each
exactly once and the last one alone as final, in as many calls as there are entries; an empty
Version answers once. Other clients may call whatever they want in between. -/
theorem traversal_is_exact (hreachable : store.Reachable s.registry)
    (hv : v ∈ s.registry.db.versions.rows) (hready : v.state = .ready) :
    ∃ m, Manifest.fromCanonicalBytes v.manifestBytes = .ok m ∧
      ∀ fuel, max 1 m.fileCount ≤ fuel →
        ∃ answers s', traverse service signGet v.id fuel none s = (.ok answers, s') ∧
          answers.length = max 1 m.fileCount ∧
          ((m.entries = [] ∧ answers = [⟨none, none, true⟩]) ∨
            (m.entries ≠ [] ∧
              List.Forall₂ (Answers service signGet m.fileCount) m.entries.zipIdx answers)) := by
  obtain ⟨m, hregistered⟩ := registered_of_reachable hreachable v hv
  have h : Offers v m s := ⟨hreachable, Relation.get?_of_mem hv, hready, hregistered.loads⟩
  refine ⟨m, hregistered.loads, ?_⟩
  intro fuel hfuel
  by_cases hempty : m.entries = []
  · have hcount : m.fileCount = 0 := by rw [Manifest.fileCount, hempty, List.length_nil]
    obtain ⟨status, s₁, hstatus, hstate, hfiles, _⟩ := h.getStatus
    have hplan : service.downloadPlan signGet v.id none s = (.ok ⟨none, none, true⟩, s₁) := by
      rw [TransferService.downloadPlan, Served.bind_of_ok hstatus, if_neg (not_not.mpr hstate),
        hfiles, if_pos hcount]
      rfl
    cases fuel with
    | zero => omega
    | succ fuel =>
        refine ⟨[⟨none, none, true⟩], s₁, ?_, ?_, .inl ⟨hempty, rfl⟩⟩
        · rw [traverse, Served.bind_of_ok hplan]
          rfl
        · rw [hcount]
          rfl
  · have hpos : 0 < m.fileCount := List.length_pos_iff.mpr hempty
    obtain ⟨answers, s', htraverse, hanswers⟩ := h.traverse service signGet hpos
      (show m.fileCount - 0 ≤ fuel by omega) (locates_first v.id m.fileCount)
    rw [List.drop_zero] at hanswers
    refine ⟨answers, s', htraverse, ?_, .inr ⟨hempty, hanswers⟩⟩
    rw [← hanswers.length_eq, List.length_zipIdx]
    exact (max_eq_right hpos).symm

end RoboLake

namespace RoboLake.Sample

open Foundation

@[irreducible] def publishedRegistry : Registry := store.runFrom store.start publication

theorem publishedRegistry_reachable : store.Reachable publishedRegistry := by
  unfold publishedRegistry
  exact ⟨publication, rfl⟩

def publishedScene : Scene where
  registry := publishedRegistry
  turns _ := ⟨[], env 7, .vacant⟩

def signingService : TransferService where
  sign _ _ _ _ := "put"

set_option maxRecDepth 100000 in
theorem published_version_is_ready :
    ∃ v ∈ publishedRegistry.db.versions.rows, v.id = 200 ∧ v.state = .ready := by
  have hready : publishedRegistry.db.versions.rows.any
      (fun v => v.id = 200 ∧ v.state = .ready) = true := by decide +kernel
  obtain ⟨v, hv, hstate⟩ := List.any_eq_true.mp hready
  exact ⟨v, hv, by simpa using hstate⟩

set_option maxRecDepth 100000 in
/-- The sample Version is traversed in as many calls as it has files. -/
theorem sample_traversal_is_exact :
    ∃ (m : Manifest) (answers : List DownloadCapability) (s' : Scene),
      traverse signingService (fun _ _ => "get") 200 (max 1 m.fileCount) none publishedScene =
        (.ok answers, s') ∧ answers.length = max 1 m.fileCount := by
  obtain ⟨v, hv, hid, hready⟩ := published_version_is_ready
  obtain ⟨m, _, hall⟩ := traversal_is_exact signingService (fun _ _ => "get")
    (s := publishedScene) publishedRegistry_reachable hv hready
  obtain ⟨answers, s', htraverse, hlength, _⟩ := hall _ le_rfl
  rw [hid] at htraverse
  exact ⟨m, answers, s', htraverse, hlength⟩

end RoboLake.Sample
