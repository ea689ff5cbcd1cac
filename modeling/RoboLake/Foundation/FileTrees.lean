import Mathlib

/-! # File trees whose names have keys

A tree is a list of nodes, each with its path as the names were spelled when it was
made. A path resolves by the keys of its names, so a file system that tells all
spellings apart has the identity as its key, and one that folds case a coarser one.
The spelling of a new node is its parent's with its own name, whatever spelling the
request used for the parent.
-/

namespace Foundation

/-- A directory, or a file with its content. -/
inductive Node (β : Type)
  | dir
  | file (content : β)

abbrev FileTree (ν β : Type) := List (List ν × Node β)

namespace FileTree

inductive Refusal
  | missing
  | taken
  | notDirectory
  | isDirectory

variable {ν κ β : Type}

/-! ## Well-formed trees -/

def empty : FileTree ν β := [([], .dir)]

/-- No two nodes share their keys, and every node stands in a directory as it is spelled. -/
structure WellFormed (key : ν → κ) (t : FileTree ν β) : Prop where
  distinct : (t.map fun n => n.1.map key).Nodup
  rooted : ([], Node.dir) ∈ t
  parents : ∀ n ∈ t, n.1 ≠ [] → (n.1.dropLast, Node.dir) ∈ t

variable {key : ν → κ} {t t' : FileTree ν β} {path : List ν}

theorem wellFormed_empty : WellFormed key (empty : FileTree ν β) := by
  refine ⟨List.nodup_singleton _, List.mem_singleton_self _, ?_⟩
  intro n hn hne
  rw [List.mem_singleton.mp hn] at hne
  exact absurd rfl hne

theorem WellFormed.eq_of_keys (h : WellFormed key t) {n m : List ν × Node β} (hn : n ∈ t)
    (hm : m ∈ t) (hkeys : n.1.map key = m.1.map key) : n = m :=
  List.inj_on_of_nodup_map h.distinct hn hm hkeys

/-- Every part of the path of a node is the path of a directory. -/
theorem WellFormed.dir_of_prefix (h : WellFormed key t) {n : List ν × Node β} (hn : n ∈ t)
    {d rest : List ν} (hd : n.1 = d ++ rest) (hrest : rest ≠ []) : (d, Node.dir) ∈ t := by
  induction rest using List.reverseRecOn generalizing n with
  | nil => exact absurd rfl hrest
  | append_singleton rest last ih =>
      have hparent : (d ++ rest, Node.dir) ∈ t := by
        have hne : n.1 ≠ [] := by
          rw [hd]
          simp
        have hmem := h.parents n hn hne
        rwa [hd, ← List.append_assoc, List.dropLast_concat] at hmem
      by_cases hmore : rest = []
      · rw [hmore, List.append_nil] at hparent
        exact hparent
      · exact ih hparent rfl hmore

/-! ## Directories on a way -/

theorem way_nil_iff {current : List ν} {n : List ν × Node β} :
    (∃ r, r ≠ [] ∧ r <+: [] ∧ n = (current ++ r, .dir)) ↔ False := by
  constructor
  · rintro ⟨r, hr, hbegins, _⟩
    exact hr (List.prefix_nil.mp hbegins)
  · exact False.elim

/-- The directories on a way down are the first of them and those on the way down from it. -/
theorem way_cons_iff {current parts : List ν} {part : ν} {n : List ν × Node β} :
    (∃ r, r ≠ [] ∧ r <+: part :: parts ∧ n = (current ++ r, .dir)) ↔
      n = (current ++ [part], .dir) ∨
        ∃ r, r ≠ [] ∧ r <+: parts ∧ n = (current ++ [part] ++ r, .dir) := by
  have hassoc : ∀ r, current ++ [part] ++ r = current ++ part :: r := by
    intro r
    rw [List.append_assoc]
    rfl
  constructor
  · rintro ⟨r, hr, hbegins, heq⟩
    cases r with
    | nil => exact absurd rfl hr
    | cons x r =>
        obtain ⟨hx, hrest⟩ := List.cons_prefix_cons.mp hbegins
        rw [hx] at heq
        by_cases hnil : r = []
        · rw [hnil] at heq
          exact .inl heq
        · exact .inr ⟨r, hnil, hrest, by rw [hassoc, heq]⟩
  · rintro (heq | ⟨r, hr, hbegins, heq⟩)
    · exact ⟨[part], List.cons_ne_nil _ _, ⟨parts, rfl⟩, heq⟩
    · refine ⟨part :: r, List.cons_ne_nil _ _, List.cons_prefix_cons.mpr ⟨rfl, hbegins⟩, ?_⟩
      rw [heq, hassoc]

/-! ## Listings -/

def files (t : FileTree ν β) : List (List ν) :=
  t.filterMap fun n =>
    match n.2 with
    | .dir => none
    | .file _ => some n.1

theorem mem_files : path ∈ files t ↔ ∃ content, (path, Node.file content) ∈ t := by
  unfold files
  rw [List.mem_filterMap]
  constructor
  · intro h
    obtain ⟨n, hn, hsome⟩ := h
    obtain ⟨p, kind⟩ := n
    cases kind with
    | dir => cases hsome
    | file content =>
        cases hsome
        exact ⟨content, hn⟩
  · intro h
    obtain ⟨content, hmem⟩ := h
    exact ⟨_, hmem, rfl⟩

def contents (t : FileTree ν β) : List (List ν × β) :=
  t.filterMap fun n =>
    match n.2 with
    | .dir => none
    | .file content => some (n.1, content)

theorem mem_contents {content : β} :
    (path, content) ∈ contents t ↔ (path, Node.file content) ∈ t := by
  unfold contents
  rw [List.mem_filterMap]
  constructor
  · intro h
    obtain ⟨n, hn, hsome⟩ := h
    obtain ⟨p, kind⟩ := n
    cases kind with
    | dir => cases hsome
    | file content' =>
        cases hsome
        exact hn
  · intro h
    exact ⟨_, h, rfl⟩

theorem map_fst_contents : (contents t).map Prod.fst = files t := by
  unfold contents files
  rw [List.map_filterMap]
  congr 1
  funext n
  obtain ⟨p, kind⟩ := n
  cases kind with
  | dir => rfl
  | file content => rfl

theorem WellFormed.files_nodup (h : WellFormed key t) : ((files t).map (List.map key)).Nodup := by
  have hkeys := h.distinct
  clear h
  induction t with
  | nil => exact List.nodup_nil
  | cons n t ih =>
      rw [List.map_cons, List.nodup_cons] at hkeys
      obtain ⟨hfresh, hrest⟩ := hkeys
      obtain ⟨p, kind⟩ := n
      cases kind with
      | dir => exact ih hrest
      | file content =>
          change ((p :: files t).map (List.map key)).Nodup
          rw [List.map_cons, List.nodup_cons]
          refine ⟨?_, ih hrest⟩
          intro hmem
          obtain ⟨q, hq, hsame⟩ := List.mem_map.mp hmem
          obtain ⟨content', hq⟩ := mem_files.mp hq
          exact hfresh (List.mem_map.mpr ⟨_, hq, hsame⟩)

/-! ## Paths that a tree can hold as they are spelled -/

/-- Directories above the paths that have the same keys are spelled the same. -/
def Coherent (key : ν → κ) (paths : List (List ν)) : Prop :=
  ∀ p ∈ paths, ∀ q ∈ paths, ∀ d e, d ≠ p → e ≠ q → d <+: p → e <+: q →
    d.map key = e.map key → d = e

/-- The paths have distinct keys, and none has the keys of a directory above another. -/
def Separate (key : ν → κ) (paths : List (List ν)) : Prop :=
  (paths.map (List.map key)).Nodup ∧
    ∀ p ∈ paths, ∀ q ∈ paths, ∀ d, d ≠ q → d <+: q → p.map key ≠ d.map key

theorem exists_first_difference {d e : List ν} (hkeys : d.map key = e.map key) (hne : d ≠ e) :
    ∃ above x y rest rest', x ≠ y ∧ key x = key y ∧ d = above ++ x :: rest ∧
      e = above ++ y :: rest' := by
  induction d generalizing e with
  | nil =>
      rw [List.map_nil, eq_comm, List.map_eq_nil_iff] at hkeys
      exact absurd hkeys.symm hne
  | cons x d ih =>
      cases e with
      | nil => cases hkeys
      | cons y e =>
          rw [List.map_cons, List.map_cons, List.cons.injEq] at hkeys
          by_cases hxy : x = y
          · subst hxy
            obtain ⟨above, x', y', rest, rest', hne', hkey, rfl, rfl⟩ :=
              ih hkeys.2 fun hde => hne (hde ▸ rfl)
            exact ⟨x :: above, x', y', rest, rest', hne', hkey, rfl, rfl⟩
          · exact ⟨[], x, y, d, e, hxy, hkeys.1, rfl, rfl⟩

/-- Two paths stand in one directory and go on below it with directories of the same key. -/
def HasSiblingClash (key : ν → κ) (paths : List (List ν)) : Prop :=
  ∃ p ∈ paths, ∃ q ∈ paths, ∃ above x y rest rest', x ≠ y ∧ key x = key y ∧ rest ≠ [] ∧
    rest' ≠ [] ∧ p = above ++ x :: rest ∧ q = above ++ y :: rest'

/-- Directories are spelled the same when no two siblings have the same key. -/
theorem coherent_iff {paths : List (List ν)} : Coherent key paths ↔ ¬HasSiblingClash key paths := by
  constructor
  · intro h hclash
    obtain ⟨p, hp, q, hq, above, x, y, rest, rest', hne, hkey, hrest, hrest', hpath, hpath'⟩ :=
      hclash
    have hd : above ++ [x] ≠ p ∧ above ++ [x] <+: p := by
      rw [hpath]
      exact ⟨by simpa using hrest.symm, by simp⟩
    have he : above ++ [y] ≠ q ∧ above ++ [y] <+: q := by
      rw [hpath']
      exact ⟨by simpa using hrest'.symm, by simp⟩
    have hsame := h p hp q hq _ _ hd.1 he.1 hd.2 he.2 (by simp [hkey])
    exact hne (by simpa using hsame)
  · intro h p hp q hq d e hd he hdp heq hkeys
    by_contra hne
    obtain ⟨above, x, y, rest, rest', hxy, hkey, rfl, rfl⟩ := exists_first_difference hkeys hne
    obtain ⟨tail, htail⟩ := hdp
    obtain ⟨tail', htail'⟩ := heq
    have hmore : tail ≠ [] := by
      intro hempty
      rw [hempty, List.append_nil] at htail
      exact hd htail
    have hmore' : tail' ≠ [] := by
      intro hempty
      rw [hempty, List.append_nil] at htail'
      exact he htail'
    refine h ⟨p, hp, q, hq, above, x, y, rest ++ tail, rest' ++ tail', hxy, hkey, ?_, ?_, ?_, ?_⟩
    · simp [hmore]
    · simp [hmore']
    · rw [← htail, List.append_assoc, List.cons_append]
    · rw [← htail', List.append_assoc, List.cons_append]

/-- A well-formed tree that lists exactly some paths holds all of them as they are spelled. -/
theorem WellFormed.spelled (h : WellFormed key t) {paths : List (List ν)}
    (hfiles : (files t).Perm paths) : Coherent key paths ∧ Separate key paths := by
  have hfile : ∀ p ∈ paths, ∃ content, (p, Node.file content) ∈ t := by
    intro p hp
    exact mem_files.mp (hfiles.mem_iff.mpr hp)
  have hdir : ∀ p ∈ paths, ∀ d, d ≠ p → d <+: p → (d, Node.dir) ∈ t := by
    intro p hp d hne hprefix
    obtain ⟨content, hmem⟩ := hfile p hp
    obtain ⟨rest, hrest⟩ := hprefix
    refine h.dir_of_prefix hmem hrest.symm ?_
    intro hempty
    rw [hempty, List.append_nil] at hrest
    exact hne hrest
  refine ⟨?_, (hfiles.map _).nodup_iff.mp h.files_nodup, ?_⟩
  · intro p hp q hq d e hd he hdp heq hkeys
    exact congrArg Prod.fst (h.eq_of_keys (hdir p hp d hd hdp) (hdir q hq e he heq) hkeys)
  · intro p hp q hq d hd hdq hkeys
    obtain ⟨content, hmem⟩ := hfile p hp
    have hsame := congrArg Prod.snd (h.eq_of_keys hmem (hdir q hq d hd hdq) hkeys)
    cases hsame

/-! ## Operations -/

section Operations

variable [DecidableEq κ] (key : ν → κ)

/-- The node that a path resolves to. -/
def find (t : FileTree ν β) (path : List ν) : Option (List ν × Node β) :=
  t.find? fun n => n.1.map key = path.map key

/-- Make a node in a directory, where no name has its key. -/
def add (t : FileTree ν β) (parent : List ν) (name : ν) (node : Node β) :
    Except Refusal (FileTree ν β) :=
  match find key t parent with
  | none => .error .missing
  | some (_, .file _) => .error .notDirectory
  | some (spelled, .dir) =>
      match find key t (parent ++ [name]) with
      | some _ => .error .taken
      | none => .ok (t ++ [(spelled ++ [name], node)])

/-- The nodes that a path does not resolve to. -/
def erase (t : FileTree ν β) (path : List ν) : FileTree ν β :=
  t.filter fun n => n.1.map key ≠ path.map key

/-- Rename a file within its directory, over a file that has the new name. -/
def move (t : FileTree ν β) (parent : List ν) (source target : ν) :
    Except Refusal (FileTree ν β) :=
  match find key t parent, find key t (parent ++ [source]) with
  | some (spelled, .dir), some (_, .file content) =>
      match find key t (parent ++ [target]) with
      | some (_, .dir) => .error .isDirectory
      | _ => .ok (erase key (erase key t (parent ++ [source])) (parent ++ [target]) ++
          [(spelled ++ [target], .file content)])
  | _, some (_, .dir) => .error .isDirectory
  | _, _ => .error .missing

variable {key} {t t' : FileTree ν β} {parent path : List ν} {name source target : ν}
  {node : Node β}

theorem WellFormed.find_eq_some_iff (h : WellFormed key t) {n : List ν × Node β} :
    find key t path = some n ↔ n ∈ t ∧ n.1.map key = path.map key := by
  constructor
  · intro hfind
    exact ⟨List.mem_of_find?_eq_some hfind, by simpa using List.find?_some hfind⟩
  · intro hn
    obtain ⟨hmem, hkeys⟩ := hn
    have hsome : (find key t path).isSome = true :=
      List.find?_isSome.mpr ⟨n, hmem, by simpa using hkeys⟩
    obtain ⟨m, hm⟩ := Option.isSome_iff_exists.mp hsome
    have hsame : m.1.map key = path.map key := by simpa using List.find?_some hm
    rw [hm, h.eq_of_keys (List.mem_of_find?_eq_some hm) hmem (hsame.trans hkeys.symm)]

theorem find_eq_none_iff :
    find key t path = none ↔ ∀ n ∈ t, n.1.map key ≠ path.map key := by
  simp [find]

def fill (key : ν → κ) (t : FileTree ν β) (path : List ν) (content : β) : FileTree ν β :=
  t.map fun n => if n.1.map key = path.map key then (n.1, .file content) else n

def extend {γ : Type} (key : ν → κ) (t : FileTree ν (List γ)) (path : List ν) (more : List γ) :
    FileTree ν (List γ) :=
  t.map fun n =>
    if n.1.map key = path.map key then
      match n.2 with
      | .dir => n
      | .file content => (n.1, .file (content ++ more))
    else n

/-! ## What the operations do -/

theorem add_ok : add key t parent name node = .ok t' ↔
    ∃ spelled, find key t parent = some (spelled, .dir) ∧
      find key t (parent ++ [name]) = none ∧ t' = t ++ [(spelled ++ [name], node)] := by
  unfold add
  cases hparent : find key t parent with
  | none => simp
  | some n =>
      obtain ⟨spelled, kind⟩ := n
      cases kind with
      | file content => simp
      | dir =>
          cases hfree : find key t (parent ++ [name]) with
          | some m => simp
          | none => simp [eq_comm]

theorem WellFormed.add (h : WellFormed key t)
    (hadd : FileTree.add key t parent name node = .ok t') :
    WellFormed key t' := by
  obtain ⟨spelled, hparent, hfree, rfl⟩ := add_ok.mp hadd
  obtain ⟨hmem, hkeys⟩ := h.find_eq_some_iff.mp hparent
  rw [find_eq_none_iff] at hfree
  refine ⟨?_, List.mem_append_left _ h.rooted, ?_⟩
  · rw [List.map_append, List.nodup_append]
    refine ⟨h.distinct, List.nodup_singleton _, ?_⟩
    intro k hk k' hk' heq
    obtain ⟨n, hn, rfl⟩ := List.mem_map.mp hk
    have hnew : k' = (spelled ++ [name]).map key := List.mem_singleton.mp hk'
    have hparentKeys : spelled.map key = parent.map key := hkeys
    apply hfree n hn
    rw [heq, hnew, List.map_append, List.map_append, hparentKeys]
  · intro n hn hne
    rcases List.mem_append.mp hn with hn | hn
    · exact List.mem_append_left _ (h.parents n hn hne)
    · rw [List.mem_singleton.mp hn, List.dropLast_concat]
      exact List.mem_append_left _ hmem

theorem mem_fill {n : List ν × Node β} {content : β} :
    n ∈ fill key t path content ↔ (n ∈ t ∧ n.1.map key ≠ path.map key) ∨
      n.2 = .file content ∧ n.1.map key = path.map key ∧ ∃ node, (n.1, node) ∈ t := by
  unfold fill
  rw [List.mem_map]
  constructor
  · intro h
    obtain ⟨m, hm, heq⟩ := h
    by_cases hkeys : m.1.map key = path.map key
    · rw [if_pos hkeys] at heq
      rw [← heq]
      exact .inr ⟨rfl, hkeys, m.2, hm⟩
    · rw [if_neg hkeys] at heq
      rw [← heq]
      exact .inl ⟨hm, hkeys⟩
  · intro h
    rcases h with ⟨hn, hkeys⟩ | ⟨hcontent, hkeys, node, hm⟩
    · exact ⟨n, hn, if_neg hkeys⟩
    · refine ⟨(n.1, node), hm, ?_⟩
      rw [if_pos hkeys, ← hcontent]

theorem WellFormed.fill (h : WellFormed key t) {content : β}
    (hfile : ∀ n ∈ t, n.1.map key = path.map key → n.2 ≠ .dir) :
    WellFormed key (FileTree.fill key t path content) := by
  have hdirs : ∀ d, (d, Node.dir) ∈ t → (d, Node.dir) ∈ FileTree.fill key t path content := by
    intro d hd
    exact mem_fill.mpr (.inl ⟨hd, fun hkeys => hfile _ hd hkeys rfl⟩)
  refine ⟨?_, hdirs _ h.rooted, ?_⟩
  · have hsame : (FileTree.fill key t path content).map (fun n => n.1.map key) =
        t.map fun n => n.1.map key := by
      unfold FileTree.fill
      rw [List.map_map]
      apply List.map_congr_left
      intro n _
      rw [Function.comp_apply]
      split <;> rfl
    rw [hsame]
    exact h.distinct
  · intro n hn hne
    rcases mem_fill.mp hn with ⟨hmem, _⟩ | ⟨_, _, node, hmem⟩
    · exact hdirs _ (h.parents n hmem hne)
    · exact hdirs _ (h.parents (n.1, node) hmem hne)

section Extend

variable {γ : Type} {t : FileTree ν (List γ)}

theorem extend_nil : extend key t path [] = t := by
  conv_rhs => rw [← List.map_id t]
  unfold extend
  apply List.map_congr_left
  intro n _
  obtain ⟨p, kind⟩ := n
  cases kind with
  | dir => simp
  | file content => simp

theorem extend_extend (more more' : List γ) :
    extend key (extend key t path more) path more' = extend key t path (more ++ more') := by
  unfold extend
  rw [List.map_map]
  apply List.map_congr_left
  intro n _
  obtain ⟨p, kind⟩ := n
  by_cases hkeys : p.map key = path.map key
  · cases kind with
    | dir => simp [hkeys]
    | file content => simp [hkeys]
  · simp [hkeys]

theorem extend_eq_fill {more : List γ}
    (hempty : ∀ n ∈ t, n.1.map key = path.map key → n.2 = .file []) :
    extend key t path more = fill key t path more := by
  unfold extend fill
  apply List.map_congr_left
  intro n hn
  by_cases hkeys : n.1.map key = path.map key
  · rw [if_pos hkeys, if_pos hkeys, hempty n hn hkeys]
    rfl
  · rw [if_neg hkeys, if_neg hkeys]

end Extend

theorem mem_erase {n : List ν × Node β} :
    n ∈ erase key t path ↔ n ∈ t ∧ n.1.map key ≠ path.map key := by
  simp [erase]

theorem WellFormed.erase (h : WellFormed key t)
    (hfile : ∀ n ∈ t, n.1.map key = path.map key → n.2 ≠ .dir) :
    WellFormed key (FileTree.erase key t path) := by
  have hdirs : ∀ d, (d, Node.dir) ∈ t → (d, Node.dir) ∈ FileTree.erase key t path := by
    intro d hd
    exact mem_erase.mpr ⟨hd, fun hkeys => hfile _ hd hkeys rfl⟩
  refine ⟨?_, hdirs _ h.rooted, ?_⟩
  · exact h.distinct.sublist (List.filter_sublist.map _)
  · intro n hn hne
    exact hdirs _ (h.parents n (mem_erase.mp hn).1 hne)

theorem move_ok : move key t parent source target = .ok t' ↔
    ∃ spelled old content, find key t parent = some (spelled, .dir) ∧
      find key t (parent ++ [source]) = some (old, .file content) ∧
      (∀ n, find key t (parent ++ [target]) = some n → n.2 ≠ .dir) ∧
      t' = FileTree.erase key (FileTree.erase key t (parent ++ [source])) (parent ++ [target]) ++
        [(spelled ++ [target], .file content)] := by
  unfold move
  cases hparent : find key t parent with
  | none =>
      cases find key t (parent ++ [source]) with
      | none => simp
      | some m =>
          obtain ⟨old, kind⟩ := m
          cases kind with
          | dir => simp
          | file content => simp
  | some n =>
      obtain ⟨spelled, kind⟩ := n
      cases hsource : find key t (parent ++ [source]) with
      | none => simp
      | some m =>
          obtain ⟨old, kind'⟩ := m
          cases kind with
          | file content =>
              cases kind' with
              | dir => simp
              | file content' => simp
          | dir =>
              cases kind' with
              | dir => simp
              | file content =>
                  cases htarget : find key t (parent ++ [target]) with
                  | none => simp [eq_comm]
                  | some k =>
                      obtain ⟨path, kind''⟩ := k
                      cases kind'' with
                      | dir => simp
                      | file content' => simp [eq_comm]

theorem WellFormed.move (h : WellFormed key t)
    (hmove : FileTree.move key t parent source target = .ok t') : WellFormed key t' := by
  obtain ⟨spelled, old, content, hparent, hsource, htarget, rfl⟩ := move_ok.mp hmove
  obtain ⟨hmem, hkeys⟩ := h.find_eq_some_iff.mp hparent
  obtain ⟨hold, holdKeys⟩ := h.find_eq_some_iff.mp hsource
  have hfirst : WellFormed key (FileTree.erase key t (parent ++ [source])) := by
    apply h.erase
    intro n hn hsame hdir
    rw [h.eq_of_keys hn hold (hsame.trans holdKeys.symm)] at hdir
    cases hdir
  have hsecond : WellFormed key
      (FileTree.erase key (FileTree.erase key t (parent ++ [source])) (parent ++ [target])) := by
    apply hfirst.erase
    intro n hn hsame
    exact htarget n (h.find_eq_some_iff.mpr ⟨(mem_erase.mp hn).1, hsame⟩)
  have hkept : (spelled, Node.dir) ∈
      FileTree.erase key (FileTree.erase key t (parent ++ [source])) (parent ++ [target]) := by
    have hlength := congrArg List.length hkeys
    rw [List.length_map, List.length_map] at hlength
    refine mem_erase.mpr ⟨mem_erase.mpr ⟨hmem, ?_⟩, ?_⟩
    · intro hsame
      have hlong := congrArg List.length hsame
      simp [hlength] at hlong
    · intro hsame
      have hlong := congrArg List.length hsame
      simp [hlength] at hlong
  refine ⟨?_, List.mem_append_left _ hsecond.rooted, ?_⟩
  · rw [List.map_append, List.nodup_append]
    refine ⟨hsecond.distinct, List.nodup_singleton _, ?_⟩
    intro k hk k' hk' heq
    obtain ⟨n, hn, rfl⟩ := List.mem_map.mp hk
    have hnew : k' = (spelled ++ [target]).map key := List.mem_singleton.mp hk'
    have hparentKeys : spelled.map key = parent.map key := hkeys
    apply (mem_erase.mp hn).2
    rw [heq, hnew, List.map_append, List.map_append, hparentKeys]
  · intro n hn hne
    rcases List.mem_append.mp hn with hn | hn
    · exact List.mem_append_left _ (hsecond.parents n hn hne)
    · rw [List.mem_singleton.mp hn, List.dropLast_concat]
      exact List.mem_append_left _ hkept

/-- A file that is written under a free name and then renamed to another appears under the second
one only. -/
theorem WellFormed.add_fill_move (h : WellFormed key t) (source target : ν)
    (hparent : (parent, Node.dir) ∈ t)
    (hsource : ∀ n ∈ t, n.1.map key ≠ (parent ++ [source]).map key)
    (htarget : ∀ n ∈ t, n.1.map key ≠ (parent ++ [target]).map key)
    (hnames : key source ≠ key target) (start content : β) :
    ∃ t₁ t₂, FileTree.add key t parent source (.file start) = .ok t₁ ∧
      FileTree.move key (FileTree.fill key t₁ (parent ++ [source]) content) parent source target =
        .ok t₂ ∧
      WellFormed key t₂ ∧
      ∀ n, n ∈ t₂ ↔ n ∈ t ∨ n = (parent ++ [target], .file content) := by
  have hadd : FileTree.add key t parent source (.file start) =
      .ok (t ++ [(parent ++ [source], .file start)]) :=
    add_ok.mpr ⟨_, h.find_eq_some_iff.mpr ⟨hparent, rfl⟩, find_eq_none_iff.mpr hsource, rfl⟩
  have hadded := h.add hadd
  have hfile : ∀ n ∈ t ++ [(parent ++ [source], Node.file start)],
      n.1.map key = (parent ++ [source]).map key → n.2 ≠ .dir := by
    intro n hn hkeys
    rcases List.mem_append.mp hn with hn | hn
    · exact absurd hkeys (hsource n hn)
    · rw [List.mem_singleton.mp hn]
      exact fun hdir => by cases hdir
  have hfilled : WellFormed key (FileTree.fill key (t ++ [(parent ++ [source], .file start)])
      (parent ++ [source]) content) := hadded.fill hfile
  have hmem : ∀ n, n ∈ FileTree.fill key (t ++ [(parent ++ [source], .file start)])
      (parent ++ [source]) content ↔ n ∈ t ∨ n = (parent ++ [source], .file content) := by
    intro n
    rw [mem_fill]
    constructor
    · intro hn
      rcases hn with ⟨hn, hkeys⟩ | ⟨hcontent, hkeys, node, hn⟩
      · rcases List.mem_append.mp hn with hn | hn
        · exact .inl hn
        · rw [List.mem_singleton.mp hn] at hkeys
          exact absurd rfl hkeys
      · rcases List.mem_append.mp hn with hn | hn
        · exact absurd hkeys (hsource (n.1, node) hn)
        · have hpath : n.1 = parent ++ [source] := congrArg Prod.fst (List.mem_singleton.mp hn)
          exact .inr (Prod.ext hpath hcontent)
    · intro hn
      rcases hn with hn | rfl
      · exact .inl ⟨List.mem_append_left _ hn, hsource n hn⟩
      · exact .inr ⟨rfl, rfl, .file start, by simp⟩
  have hfree : ∀ n ∈ FileTree.fill key (t ++ [(parent ++ [source], .file start)])
      (parent ++ [source]) content, n.1.map key ≠ (parent ++ [target]).map key := by
    intro n hn hkeys
    rcases (hmem n).mp hn with hn | rfl
    · exact htarget n hn hkeys
    · rw [List.map_append, List.map_append, List.append_cancel_left_eq] at hkeys
      exact hnames (List.cons.inj hkeys).1
  have hmove : FileTree.move key (FileTree.fill key (t ++ [(parent ++ [source], .file start)])
      (parent ++ [source]) content) parent source target = .ok _ :=
    move_ok.mpr ⟨parent, parent ++ [source], content,
      hfilled.find_eq_some_iff.mpr ⟨(hmem _).mpr (.inl hparent), rfl⟩,
      hfilled.find_eq_some_iff.mpr ⟨(hmem _).mpr (.inr rfl), rfl⟩,
      fun n hn => absurd (hn.symm.trans (find_eq_none_iff.mpr hfree)) (by simp), rfl⟩
  refine ⟨_, _, hadd, hmove, hfilled.move hmove, ?_⟩
  intro n
  rw [List.mem_append, List.mem_singleton, mem_erase, mem_erase, hmem]
  constructor
  · intro hn
    rcases hn with ⟨⟨hn | rfl, hkeys⟩, _⟩ | rfl
    · exact .inl hn
    · exact absurd rfl hkeys
    · exact .inr rfl
  · intro hn
    rcases hn with hn | rfl
    · exact .inl ⟨⟨.inl hn, hsource n hn⟩, htarget n hn⟩
    · exact .inr rfl

/-! ## Names that appear -/

/-- The second tree has a node of this name where the first has none. -/
def Creates (t t' : FileTree ν β) (name : ν) : Prop :=
  ∃ path ∈ t'.map Prod.fst, path ∉ t.map Prod.fst ∧ path.getLast? = some name

theorem Creates.split (t' : FileTree ν β) {t'' : FileTree ν β} (h : Creates t t'' name) :
    Creates t t' name ∨ Creates t' t'' name := by
  obtain ⟨path, hnew, hold, hlast⟩ := h
  by_cases hmid : path ∈ t'.map Prod.fst
  · exact .inl ⟨path, hmid, hold, hlast⟩
  · exact .inr ⟨path, hnew, hmid, hlast⟩

theorem creates_add_iff (hadd : add key t parent name node = .ok t') {x : ν} :
    Creates t t' x ↔ x = name := by
  obtain ⟨spelled, hparent, hfree, rfl⟩ := add_ok.mp hadd
  constructor
  · intro h
    obtain ⟨path, hnew, hold, hlast⟩ := h
    rw [List.map_append, List.mem_append] at hnew
    have hpath : path = spelled ++ [name] := List.mem_singleton.mp (hnew.resolve_left hold)
    rw [hpath, List.getLast?_concat, Option.some.injEq] at hlast
    exact hlast.symm
  · rintro rfl
    refine ⟨spelled ++ [x], by simp, ?_, List.getLast?_concat⟩
    intro hmem
    obtain ⟨n, hn, hpath⟩ := List.mem_map.mp hmem
    have hkeys : spelled.map key = parent.map key := by simpa using List.find?_some hparent
    apply find_eq_none_iff.mp hfree n hn
    rw [hpath, List.map_append, List.map_append, hkeys]

theorem not_creates_fill {content : β} : ¬Creates t (fill key t path content) name := by
  rintro ⟨p, hnew, hold, _⟩
  obtain ⟨n, hn, rfl⟩ := List.mem_map.mp hnew
  rcases mem_fill.mp hn with ⟨hn, _⟩ | ⟨_, _, node, hn⟩
  · exact hold (List.mem_map_of_mem hn)
  · exact hold (List.mem_map.mpr ⟨_, hn, rfl⟩)

theorem eq_of_creates_move (hmove : move key t parent source target = .ok t') {x : ν}
    (h : Creates t t' x) : x = target := by
  obtain ⟨spelled, _, content, _, _, _, rfl⟩ := move_ok.mp hmove
  obtain ⟨path, hnew, hold, hlast⟩ := h
  obtain ⟨n, hn, rfl⟩ := List.mem_map.mp hnew
  rcases List.mem_append.mp hn with hn | hn
  · exact absurd (List.mem_map_of_mem (mem_erase.mp (mem_erase.mp hn).1).1) hold
  · rw [List.mem_singleton.mp hn, List.getLast?_concat, Option.some.injEq] at hlast
    exact hlast.symm

end Operations

end FileTree

end Foundation
