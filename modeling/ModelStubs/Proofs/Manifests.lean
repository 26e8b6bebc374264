import ModelStubs.Proofs.PathOrder
import ModelStubs.Proofs.Search

/-!
# What a search finds

A walk that succeeds meets exactly the manifests at or below its directory that no excluded name is on the way to
(`Below`), in the order of their paths (`Lists`). This holds of a walk because it holds of each entry, which is no
directory, or is walked in the same way (`lists_entry`); links are followed by the walks across them.
-/

namespace ModelStubs.Search

variable {fs : FileSystem} {exclude : List Text} {dir p : Path} {way : List Location} {here l : Location} {name : Text}
  {node : Node} {found : List Path}

/-! ## The manifests below a path -/

/-- Whether `p` is `dir`, continued by names of which none is excluded, and leads to a file that is a manifest by name. -/
def Below (fs : FileSystem) (exclude : List Text) (dir p : Path) : Prop :=
  ∃ chain : List Text, (∀ name ∈ chain, isEntryName name = true ∧ name ∉ exclude) ∧ p = Path.joinAll dir chain ∧
    fs.hasFile p = true ∧ isManifest p = true

/-- What leads to a file leads somewhere. -/
theorem exists_file_of_hasFile (h : fs.hasFile p = true) :
    ∃ l content, fs.find? p = some l ∧ fs.node? l = some (.file content) := by
  rw [FileSystem.hasFile, FileSystem.lookup?] at h
  cases hp : fs.find? p with
  | none => simp [hp] at h
  | some l =>
    rw [hp, Option.bind_some] at h
    split at h
    · rename_i content hc
      exact ⟨l, content, rfl, hc⟩
    · cases h

/-- A path that leads somewhere when it is continued by names leads somewhere. -/
theorem exists_find?_of_joinAll {chain : List Text} (hd : dir ≠ []) (hn : ∀ name ∈ chain, isEntryName name = true)
    (h : fs.find? (Path.joinAll dir chain) = some l) : ∃ l, fs.find? dir = some l := by
  induction chain generalizing dir with
  | nil => exact ⟨l, h⟩
  | cons name chain ih =>
    have hname := hn name List.mem_cons_self
    obtain ⟨l', hl'⟩ := ih (Path.join_ne_nil dir (entryName_of_isEntryName hname))
      (fun n hm => hn n (List.mem_cons_of_mem _ hm)) h
    obtain ⟨here, hf, -⟩ := FileSystem.directory_of_join hd hname ((FileSystem.find?_eq_some_iff fs _ _).mp hl')
    exact ⟨here, hf⟩

/-- A path that leads somewhere when it is continued by one name or more leads to a directory. -/
theorem directory_of_joinAll {chain : List Text} (hd : dir ≠ []) (hn : ∀ n ∈ name :: chain, isEntryName n = true)
    (h : fs.find? (Path.joinAll dir (name :: chain)) = some l) :
    ∃ here, fs.find? dir = some here ∧ fs.node? here = some .directory := by
  have hname := hn name List.mem_cons_self
  obtain ⟨l', hl'⟩ := exists_find?_of_joinAll (Path.join_ne_nil dir (entryName_of_isEntryName hname))
    (fun n hm => hn n (List.mem_cons_of_mem _ hm)) h
  exact FileSystem.directory_of_join hd hname ((FileSystem.find?_eq_some_iff fs _ _).mp hl')

/-- Where there is no directory, only the path itself can be that of a manifest. -/
theorem below_iff_of_not_directory (hd : dir ≠ [])
    (h : ∀ here, fs.find? dir = some here → fs.node? here ≠ some .directory) :
    Below fs exclude dir p ↔ p = dir ∧ fs.hasFile p = true ∧ isManifest p = true := by
  constructor
  · rintro ⟨chain, hc, rfl, hf, hm⟩
    obtain ⟨l, -, hl, -⟩ := exists_file_of_hasFile hf
    cases chain with
    | nil => exact ⟨rfl, hf, hm⟩
    | cons name chain =>
      obtain ⟨here, hdir, hnode⟩ := directory_of_joinAll hd (fun n hn => (hc n hn).1) hl
      exact absurd hnode (h here hdir)
  · rintro ⟨rfl, hf, hm⟩
    exact ⟨[], nofun, rfl, hf, hm⟩

/-- The entry that a path leads to from a directory is there. -/
theorem exists_node_of_find?_join (h : fs.find? dir = some here) (hd : fs.node? here = some .directory)
    (hn : isEntryName name = true) (hl : fs.find? (Path.join dir name) = some l) :
    ∃ node, fs.node? (name :: here) = some node := by
  obtain ⟨k, hk⟩ := FileSystem.locate_join h hd hn
  rw [FileSystem.find?_eq_some_iff, hk] at hl
  split at hl
  · rw [FileSystem.walk_name fs k here [] hn] at hl
    cases hnode : fs.node? (name :: here) with
    | none =>
      rw [hnode] at hl
      nomatch hl
    | some node => exact ⟨node, rfl⟩
  · nomatch hl

/-- The manifests below a directory are those at or below its entries whose names are not excluded. -/
theorem below_iff_of_directory (h : fs.find? dir = some here) (hd : fs.node? here = some .directory) :
    Below fs exclude dir p ↔ ∃ name node, (name, node) ∈ fs.entries here ∧ name ∉ exclude ∧
      Below fs exclude (Path.join dir name) p := by
  have hne := FileSystem.ne_nil_of_find? h
  constructor
  · rintro ⟨chain, hc, rfl, hf, hm⟩
    obtain ⟨l, content, hl, hfile⟩ := exists_file_of_hasFile hf
    cases chain with
    | nil =>
      cases hl.symm.trans h
      nomatch hfile.symm.trans hd
    | cons name chain =>
      obtain ⟨hn, hx⟩ := hc name List.mem_cons_self
      have hrest := fun n hm => hc n (List.mem_cons_of_mem name hm)
      obtain ⟨l', hl'⟩ := exists_find?_of_joinAll (Path.join_ne_nil dir (entryName_of_isEntryName hn))
        (fun n hm => (hrest n hm).1) hl
      obtain ⟨node, hnode⟩ := exists_node_of_find?_join h hd hn hl'
      exact ⟨name, node, (FileSystem.mem_entries _ _ _ _).mpr hnode, hx, chain, hrest, rfl, hf, hm⟩
  · rintro ⟨name, node, he, hx, chain, hc, rfl, hf, hm⟩
    have hn := FileSystem.isEntryName_of_node? ((FileSystem.mem_entries _ _ _ _).mp he)
    refine ⟨name :: chain, ?_, rfl, hf, hm⟩
    intro n hmem
    rcases List.mem_cons.mp hmem with rfl | hmem
    · exact ⟨hn, hx⟩
    · exact hc n hmem

/-! ## What is met, and in which order -/

/-- `found` is the list of all manifests below a path, each standing before the next. -/
structure Lists (fs : FileSystem) (exclude : List Text) (dir : Path) (found : List Path) : Prop where
  mem : ∀ p, p ∈ found ↔ Below fs exclude dir p
  sorted : found.Pairwise fun p q => Path.before p q = true

/-- Whether a way to walk a directory meets the manifests below it in order, if it comes to an end. -/
def WalksAll (fs : FileSystem) (exclude : List Text) (walk : Walk) : Prop :=
  ∀ dir way here found, fs.find? dir = some here → fs.node? here = some .directory → walk dir way here = .ok found →
    Lists fs exclude dir found

theorem walksAll_error (fault : Fault) : WalksAll fs exclude fun _ _ _ => .error fault := by
  intro dir way here found _ _ h
  nomatch h

/-- What is no directory is met itself. -/
theorem lists_file (hd : dir ≠ []) (h : ∀ here, fs.find? dir = some here → fs.node? here ≠ some .directory) :
    Lists fs exclude dir (file fs false dir) := by
  rw [file]
  constructor
  · intro p
    rw [below_iff_of_not_directory hd h]
    split
    · rename_i hm
      simp only [Bool.not_false, Bool.true_and, Bool.and_eq_true] at hm
      rw [List.mem_singleton]
      exact ⟨fun he => ⟨he, he ▸ hm⟩, fun hp => hp.1⟩
    · rename_i hm
      refine iff_of_false List.not_mem_nil ?_
      rintro ⟨rfl, hf, hp⟩
      exact hm (by simp [hf, hp])
  · split
    · exact List.pairwise_singleton _ _
    · exact List.Pairwise.nil

/-- At an entry with an excluded name, nothing is met. -/
theorem eq_nil_of_excluded {across down : Walk} (hx : name ∈ exclude)
    (h : entry fs exclude across down dir way here name node = .ok found) : found = [] := by
  have hc : exclude.contains name = true := List.contains_iff_mem.mpr hx
  cases node with
  | file content =>
    rw [entry_file, hc] at h
    cases h
    rfl
  | directory =>
    rw [entry_directory, if_pos hc] at h
    cases h
    rfl
  | link target =>
    rw [entry_link] at h
    split at h
    · nomatch h
    · split at h
      · split at h
        · nomatch h
        · cases h
          rfl
      · rw [hc] at h
        cases h
        rfl

/-- At any other entry, the manifests at or below its path are met. A directory that a link leads to is walked by the path of
the link, not by its own. -/
theorem lists_entry {across down : Walk} (ha : WalksAll fs exclude across) (hd : WalksAll fs exclude down)
    (hdir : fs.find? dir = some here) (hnode : fs.node? here = some .directory)
    (he : fs.node? (name :: here) = some node) (hx : name ∉ exclude)
    (h : entry fs exclude across down dir way here name node = .ok found) :
    Lists fs exclude (Path.join dir name) found := by
  have hc : exclude.contains name = false := by simpa using hx
  have hne := Path.join_ne_nil dir (entryName_of_isEntryName (FileSystem.isEntryName_of_node? he))
  cases node with
  | file content =>
    rw [entry_file, hc] at h
    cases h
    refine lists_file hne fun l hl => ?_
    rw [FileSystem.find?_join hdir hnode he rfl] at hl
    split at hl
    · cases hl
      rw [he]
      nofun
    · nomatch hl
  | directory =>
    rw [entry_directory, hc, if_neg (by decide)] at h
    split at h
    · rename_i hh
      rw [FileSystem.has_join hdir hnode he rfl] at hh
      exact hd _ _ _ _ (by rw [FileSystem.find?_join hdir hnode he rfl, if_pos hh]) he h
    · nomatch h
  | link target =>
    rw [entry_link, hc] at h
    split at h
    · nomatch h
    · rename_i l hl
      split at h
      · rename_i hl'
        split at h
        · nomatch h
        · rw [if_neg (by decide)] at h
          exact ha _ _ _ _ hl hl' h
      · rename_i hl'
        cases h
        refine lists_file hne fun here' hh => ?_
        cases hl.symm.trans hh
        exact hl'

/-- What is met at an entry, in order: nothing if its name is excluded, else the manifests at or below its path. -/
theorem mem_entry_iff {across down : Walk} (ha : WalksAll fs exclude across) (hd : WalksAll fs exclude down)
    (hdir : fs.find? dir = some here) (hnode : fs.node? here = some .directory) (he : (name, node) ∈ fs.entries here)
    (h : entry fs exclude across down dir way here name node = .ok found) :
    (∀ p, p ∈ found ↔ name ∉ exclude ∧ Below fs exclude (Path.join dir name) p) ∧
      found.Pairwise fun p q => Path.before p q = true := by
  rw [FileSystem.mem_entries] at he
  by_cases hx : name ∈ exclude
  · rw [eq_nil_of_excluded hx h]
    exact ⟨fun p => iff_of_false List.not_mem_nil fun hp => hp.1 hx, List.Pairwise.nil⟩
  · have hl := lists_entry ha hd hdir hnode he hx h
    exact ⟨fun p => (hl.mem p).trans ⟨fun hb => ⟨hx, hb⟩, fun hb => hb.2⟩, hl.sorted⟩

/-- All visits of a round that comes to an end do, and what they meet is met. -/
theorem visit_of_inOrder {visit : Text → Node → Except Fault (List Path)} {entries : List (Text × Node)}
    (h : inOrder visit entries = .ok found) {e : Text × Node} (he : e ∈ entries) :
    ∃ first, visit e.1 e.2 = .ok first ∧ ∀ p ∈ first, p ∈ found := by
  induction entries generalizing found with
  | nil => exact absurd he List.not_mem_nil
  | cons e' rest ih =>
    obtain ⟨first, others, hf, ho, rfl⟩ := (inOrder_cons_eq_ok_iff _ _ _ _).mp h
    rcases List.mem_cons.mp he with rfl | he
    · exact ⟨first, hf, fun p hp => List.mem_append_left _ hp⟩
    · obtain ⟨first', hv, hm⟩ := ih ho he
      exact ⟨first', hv, fun p hp => List.mem_append_right _ (hm p hp)⟩

/-- What is met in order stands in an order, if what each visit meets does, and what later visits meet stands after it. -/
theorem pairwise_inOrder {visit : Text → Node → Except Fault (List Path)} {R : Path → Path → Prop}
    {entries : List (Text × Node)}
    (hvisit : ∀ e ∈ entries, ∀ first, visit e.1 e.2 = .ok first → first.Pairwise R)
    (hpair : entries.Pairwise fun a b => ∀ first second, visit a.1 a.2 = .ok first → visit b.1 b.2 = .ok second →
      ∀ p ∈ first, ∀ q ∈ second, R p q)
    (h : inOrder visit entries = .ok found) : found.Pairwise R := by
  induction entries generalizing found with
  | nil =>
    cases h
    exact List.Pairwise.nil
  | cons e rest ih =>
    obtain ⟨first, others, hf, ho, rfl⟩ := (inOrder_cons_eq_ok_iff _ _ _ _).mp h
    obtain ⟨hhead, htail⟩ := List.pairwise_cons.mp hpair
    rw [List.pairwise_append]
    refine ⟨hvisit e List.mem_cons_self first hf, ih (fun e' he' => hvisit e' (List.mem_cons_of_mem _ he')) htail ho, ?_⟩
    intro p hp q hq
    obtain ⟨name, node, second, he, hs, hq⟩ := mem_inOrder ho hq
    exact hhead _ he first second hf hs p hp q hq

/-- Paths below different entries of a directory stand as the names of the entries do. -/
theorem before_of_below (hd : dir ≠ []) {a b : Text} (hab : Text.before a b = true) (ha : isEntryName a = true)
    (hb : isEntryName b = true) {p q : Path} (hp : Below fs exclude (Path.join dir a) p)
    (hq : Below fs exclude (Path.join dir b) q) : Path.before p q = true := by
  obtain ⟨as, has, rfl, -, -⟩ := hp
  obtain ⟨bs, hbs, rfl, -, -⟩ := hq
  refine Path.before_joinAll hd hab ?_ ?_
  · intro name hm
    rcases List.mem_cons.mp hm with rfl | hm
    · exact entryName_of_isEntryName ha
    · exact entryName_of_isEntryName (has name hm).1
  · intro name hm
    rcases List.mem_cons.mp hm with rfl | hm
    · exact entryName_of_isEntryName hb
    · exact entryName_of_isEntryName (hbs name hm).1

/-- A walk that goes down to any depth meets the manifests of a directory in order if the walk across its links does. -/
theorem walksAll_walkDown {across : Walk} (ha : WalksAll fs exclude across) (depth : Nat) :
    WalksAll fs exclude (walkDown fs exclude across depth) := by
  induction depth with
  | zero => exact walksAll_error _
  | succ depth ih =>
    intro dir way here found hdir hnode h
    constructor
    · intro p
      rw [below_iff_of_directory hdir hnode]
      constructor
      · intro hp
        obtain ⟨name, node, first, he, hv, hp⟩ := mem_inOrder h hp
        exact ⟨name, node, he, ((mem_entry_iff ha ih hdir hnode he hv).1 p).mp hp⟩
      · rintro ⟨name, node, he, hb⟩
        obtain ⟨first, hv, hm⟩ := visit_of_inOrder h he
        exact hm p (((mem_entry_iff ha ih hdir hnode he hv).1 p).mpr hb)
    · refine pairwise_inOrder (fun e he first hv => (mem_entry_iff ha ih hdir hnode he hv).2) ?_ h
      refine (fs.pairwise_entries here).imp_of_mem fun {a b} hea heb hab first second hfa hfb p hp q hq => ?_
      exact before_of_below (FileSystem.ne_nil_of_find? hdir) hab
        (FileSystem.isEntryName_of_node? ((FileSystem.mem_entries _ _ _ _).mp hea))
        (FileSystem.isEntryName_of_node? ((FileSystem.mem_entries _ _ _ _).mp heb))
        (((mem_entry_iff ha ih hdir hnode hea hfa).1 p).mp hp).2 (((mem_entry_iff ha ih hdir hnode heb hfb).1 q).mp hq).2

/-- A walk that follows any number of links meets the manifests of a directory in order. -/
theorem walksAll_walk (fs : FileSystem) (exclude : List Text) (links : Nat) :
    WalksAll fs exclude (walk fs exclude links) := by
  induction links with
  | zero => exact walksAll_walkDown (walksAll_error _) _
  | succ links ih => exact walksAll_walkDown ih _

/-- A search that comes to an end meets the manifests below its path in order. -/
theorem lists_of_met (h : met fs exclude dir = .ok found) : Lists fs exclude dir found := by
  rw [met] at h
  split at h
  · cases h
  · rename_i l hl
    split at h
    · rename_i hd
      exact walksAll_walk fs exclude _ dir _ l found hl hd h
    · rename_i hd
      cases h
      refine lists_file (FileSystem.ne_nil_of_find? hl) fun here hh => ?_
      cases hl.symm.trans hh
      exact hd

/-- What is met is in order already. -/
theorem manifests_eq_met {sorted : List Path} (h : manifests fs exclude dir = .ok sorted) :
    met fs exclude dir = .ok sorted := by
  obtain ⟨found, hm, rfl⟩ := (manifests_eq_ok_iff _ _ _ _).mp h
  rw [hm, sortBy_of_pairwise ((lists_of_met hm).sorted.imp Path.before_asymm)]

/-! ## The order of listing -/

/-- `other` is the same file system, listed in another order. -/
structure Relisted (fs other : FileSystem) : Prop where
  node? : ∀ l, other.node? l = fs.node? l
  workDir : other.workDir = fs.workDir

namespace Relisted

variable {other : FileSystem}

theorem walk (h : Relisted fs other) (last : Bool) (n : Nat) : other.walk last n = fs.walk last n := by
  have hdescend : ∀ follow here parts, FileSystem.descend other last follow here parts =
      FileSystem.descend fs last follow here parts := by
    intro follow here parts
    induction parts generalizing here with
    | nil => rfl
    | cons part rest ih => simp only [FileSystem.descend, h.node?, ih]
  induction n with
  | zero =>
    funext here parts
    exact hdescend _ here parts
  | succ n ih =>
    funext here parts
    rw [FileSystem.walk, FileSystem.walk, ih]
    exact hdescend _ here parts

theorem find? (h : Relisted fs other) (p : Path) : other.find? p = fs.find? p := by
  simp only [FileSystem.find?, FileSystem.locate, FileSystem.locateParts, h.walk, h.node?, h.workDir]

theorem lookup? (h : Relisted fs other) (p : Path) : other.lookup? p = fs.lookup? p := by
  rw [FileSystem.lookup?, h.find?, funext h.node?, FileSystem.lookup?]

/-- A directory has the same entries in the same order. -/
theorem entries (h : Relisted fs other) (l : Location) : other.entries l = fs.entries l := by
  refine FileSystem.entries_eq_of_mem_iff (other.pairwise_entries l) (fs.pairwise_entries l) ?_
  rintro ⟨name, node⟩
  rw [FileSystem.mem_entries, FileSystem.mem_entries, h.node?]

theorem length_nodes (h : Relisted fs other) : other.nodes.length = fs.nodes.length := by
  refine List.Perm.length_eq ((List.perm_ext_iff_of_nodup ?_ ?_).mpr ?_)
  · exact List.Nodup.of_map _ other.distinct
  · exact List.Nodup.of_map _ fs.distinct
  · rintro ⟨l, node⟩
    cases l with
    | nil =>
      refine iff_of_false ?_ ?_
      · intro hm
        obtain ⟨_, _, he, -⟩ := other.named _ hm
        nomatch he
      · intro hm
        obtain ⟨_, _, he, -⟩ := fs.named _ hm
        nomatch he
    | cons name parent => rw [← FileSystem.node?_eq_some_iff, ← FileSystem.node?_eq_some_iff, h.node?]

theorem file (h : Relisted fs other) (excluded : Bool) (p : Path) :
    Search.file other excluded p = Search.file fs excluded p := by
  rw [Search.file, FileSystem.hasFile, h.lookup?, Search.file, FileSystem.hasFile]

theorem entry (h : Relisted fs other) (across down : Walk) :
    Search.entry other exclude across down = Search.entry fs exclude across down := by
  funext dir way here name node
  cases node with
  | file content => rw [entry_file, entry_file, h.file]
  | directory => rw [entry_directory, entry_directory, FileSystem.has, h.lookup?, FileSystem.has]
  | link target => simp only [entry_link, h.find?, h.node?, h.file]

theorem walkDown (h : Relisted fs other) (across : Walk) (depth : Nat) :
    Search.walkDown other exclude across depth = Search.walkDown fs exclude across depth := by
  induction depth with
  | zero => rfl
  | succ depth ih =>
    funext dir way here
    show inOrder _ (other.entries here) = inOrder _ (fs.entries here)
    rw [h.entry, ih, h.entries]

theorem searchWalk (h : Relisted fs other) (links : Nat) :
    Search.walk other exclude links = Search.walk fs exclude links := by
  induction links with
  | zero => rw [Search.walk, Search.walk, h.walkDown, h.length_nodes]
  | succ links ih => rw [Search.walk, Search.walk, h.walkDown, h.length_nodes, ih]

/-- The same manifests are found in the same order, whatever the order of listing. -/
theorem manifests (h : Relisted fs other) (exclude : List Text) (top : Path) :
    Search.manifests other exclude top = Search.manifests fs exclude top := by
  simp only [Search.manifests, met, h.file, h.find?, h.node?, h.searchWalk, h.length_nodes]

end Relisted

/-! ## What is found -/

/-- A search that comes to an end finds those paths that are the given path continued by names, of which none is excluded,
and that lead to a file with the extension `toml`. Each stands strictly before the next, they are found in the order in
which they are met, and the order in which directories list their entries does not matter. -/
theorem manifests_found (fs : FileSystem) (exclude : List Text) (top : Path) (found : List Path)
    (h : manifests fs exclude top = .ok found) :
    (∀ p, p ∈ found ↔ ∃ chain : List Text, (∀ name ∈ chain, isEntryName name = true ∧ name ∉ exclude) ∧
      p = chain.foldl Path.join top ∧ fs.hasFile p = true ∧ Path.extension? p = some "toml".toList) ∧
    found.Nodup ∧ (found.Pairwise fun p q => Path.before p q = true) ∧ met fs exclude top = .ok found ∧
    ∀ other, Relisted fs other → manifests other exclude top = .ok found := by
  have hm := manifests_eq_met h
  obtain ⟨hmem, hsorted⟩ := lists_of_met hm
  refine ⟨fun p => ?_, hsorted.imp ?_, hsorted, hm, fun other ho => (ho.manifests exclude top).trans h⟩
  · simp only [hmem, Below, Path.joinAll, isManifest, decide_eq_true_eq]
  · rintro p _ hp rfl
    rw [Path.before_irrefl] at hp
    cases hp

/-- A file system with nodes put into it, each given by its directory and name. -/
def putAll (fs : FileSystem) (nodes : List (Location × Text × Node)) : FileSystem :=
  nodes.foldl (fun fs (parent, name, node) => fs.put parent name node) fs

/-- A model in a directory whose own name is excluded, with a directory of that name and a link in it. -/
def shelved : FileSystem :=
  let drafts : Location := ["drafts".toList, "work".toList]
  let models : Location := "models".toList :: drafts
  putAll (FileSystem.empty "work".toList)
    [(["work".toList], "drafts".toList, .directory), (drafts, "models".toList, .directory),
      (models, "z".toList, .link "a".toList), (models, "drafts".toList, .directory),
      ("drafts".toList :: models, "y.toml".toList, .file (Text.encode [])),
      (models, "a-b.toml".toList, .file (Text.encode [])), (models, "n.txt".toList, .file (Text.encode [])),
      (models, "a".toList, .directory), ("a".toList :: models, "x.toml".toList, .file (Text.encode []))]

/-- The manifests of that model, in order. -/
def shelvedManifests : List Path :=
  ["drafts/models/a/x.toml".toList, "drafts/models/a-b.toml".toList, "drafts/models/z/x.toml".toList]

/-- They are found, and the one that is excluded by a name below the model is not. -/
theorem shelved_found : manifests shelved ["drafts".toList] "drafts/models".toList = .ok shelvedManifests ∧
    shelvedManifests.Nodup ∧ (shelvedManifests.Pairwise fun p q => Path.before p q = true) ∧
    "drafts/models/drafts/y.toml".toList ∉ shelvedManifests := by
  have h : manifests shelved ["drafts".toList] "drafts/models".toList = .ok shelvedManifests := by decide +kernel
  obtain ⟨-, hd, hs, -, -⟩ := manifests_found shelved _ _ _ h
  exact ⟨h, hd, hs, by decide⟩

end ModelStubs.Search
