import Mathlib.Data.List.Sort
import ModelStubs.Proofs.Locate
import ModelStubs.Search

/-!
# The search and what it does not see

The entries of a directory are exactly its nodes, in the strict order of their names (`mem_entries`, `pairwise_entries`).
Files that are no manifests by name add nothing to what a search finds, and the contents of files do not matter to it. So
a search that succeeds finds the same again after a growth that touched no manifest (`manifests_of_grown`).
-/

namespace ModelStubs

/-! ## The entries of a directory -/

namespace FileSystem

/-- The entry that a node is of a directory, if it is one. -/
def entryOf? (l : Location) (e : Location × Node) : Option (Text × Node) :=
  match e.1 with
  | [] => none
  | name :: parent => if parent = l then some (name, e.2) else none

/-- The entries of a directory are the nodes that are in it, sorted by their names. -/
theorem entries_eq (fs : FileSystem) (l : Location) :
    fs.entries l = sortBy (fun a b => Text.before a.1 b.1) (fs.nodes.filterMap (entryOf? l)) := rfl

/-- A node is the entry of a directory under a name if and only if it is at that name in the directory. -/
theorem entryOf?_eq_some_iff (l : Location) (e : Location × Node) (name : Text) (node : Node) :
    entryOf? l e = some (name, node) ↔ e = (name :: l, node) := by
  obtain ⟨location, node'⟩ := e
  cases location with
  | nil => simp [entryOf?]
  | cons n q =>
    rw [entryOf?]
    by_cases hq : q = l
    · simp [hq]
    · simp [hq]

/-- A directory has an entry under a name if and only if there is a node at that name in it. -/
theorem mem_entries (fs : FileSystem) (l : Location) (name : Text) (node : Node) :
    (name, node) ∈ fs.entries l ↔ fs.node? (name :: l) = some node := by
  rw [entries_eq, mem_sortBy, List.mem_filterMap, node?_eq_some_iff]
  constructor
  · rintro ⟨e, he, hf⟩
    rw [entryOf?_eq_some_iff] at hf
    rw [← hf]
    exact he
  · intro h
    exact ⟨_, h, (entryOf?_eq_some_iff _ _ _ _).mpr rfl⟩

/-- The entries of a directory have different names, each standing before the next. -/
theorem pairwise_entries (fs : FileSystem) (l : Location) :
    (fs.entries l).Pairwise fun a b => Text.before a.1 b.1 = true := by
  have hsorted : (fs.entries l).Pairwise fun a b => Text.before b.1 a.1 = false := by
    rw [entries_eq]
    refine pairwise_sortBy ?_ ?_ _
    · exact fun _ _ h => Text.before_asymm h
    · exact fun _ _ _ hab hbc => Text.not_before_trans hab hbc
  have hdistinct : (fs.entries l).Pairwise fun a b => a.1 ≠ b.1 := by
    have hnodes : fs.nodes.Pairwise fun a b => a.1 ≠ b.1 := List.pairwise_map.mp fs.distinct
    rw [entries_eq]
    refine ((perm_sortBy _ _).pairwise_iff fun h => Ne.symm h).mpr (hnodes.filterMap _ ?_)
    rintro a b hab ⟨n, x⟩ ha ⟨m, y⟩ hb
    rw [entryOf?_eq_some_iff] at ha hb
    rintro rfl
    exact hab (by rw [ha, hb])
  refine (hsorted.and hdistinct).imp ?_
  rintro a b ⟨hba, hne⟩
  cases h : Text.before a.1 b.1 with
  | true => rfl
  | false => exact absurd (Text.eq_of_not_before h hba) hne

/-- Names in strict order are known from which they are. -/
theorem names_eq {a b : List Text} (ha : a.Pairwise fun x y => Text.before x y = true)
    (hb : b.Pairwise fun x y => Text.before x y = true) (h : ∀ name, name ∈ a ↔ name ∈ b) : a = b := by
  have : Std.Irrefl fun x y => Text.before x y = true :=
    ⟨fun x hx => by rw [Text.before_irrefl] at hx; nomatch hx⟩
  have : Std.Antisymm fun x y => Text.before x y = true :=
    ⟨fun x y hxy hyx => by rw [Text.before_asymm hxy] at hyx; nomatch hyx⟩
  exact ha.eq_of_mem_iff hb h

/-- Entries in strict order of their names are known from which they are. -/
theorem entries_eq_of_mem_iff {a b : List (Text × Node)} (ha : a.Pairwise fun x y => Text.before x.1 y.1 = true)
    (hb : b.Pairwise fun x y => Text.before x.1 y.1 = true) (h : ∀ e, e ∈ a ↔ e ∈ b) : a = b := by
  have : Std.Irrefl fun x y : Text × Node => Text.before x.1 y.1 = true :=
    ⟨fun x hx => by rw [Text.before_irrefl] at hx; nomatch hx⟩
  have : Std.Antisymm fun x y : Text × Node => Text.before x.1 y.1 = true :=
    ⟨fun x y hxy hyx => by rw [Text.before_asymm hxy] at hyx; nomatch hyx⟩
  exact ha.eq_of_mem_iff hb h

/-- The names of the entries of a directory are those at which there is something. -/
theorem mem_names_entries (fs : FileSystem) (l : Location) (name : Text) :
    name ∈ (fs.entries l).map Prod.fst ↔ (fs.node? (name :: l)).isSome = true := by
  rw [List.mem_map, Option.isSome_iff_exists]
  constructor
  · rintro ⟨⟨n, node⟩, he, rfl⟩
    exact ⟨node, (mem_entries fs l n node).mp he⟩
  · rintro ⟨node, hn⟩
    exact ⟨(name, node), (mem_entries fs l name node).mpr hn, rfl⟩

/-- Of the entries of a grown file system, those that were there before have the names that were there before. -/
theorem Grown.names_entries {fs after : FileSystem} (h : Grown fs after) (hl : fs.LinkFree) (l : Location) :
    (fs.entries l).map Prod.fst =
      ((after.entries l).filter fun e => (fs.node? (e.1 :: l)).isSome).map Prod.fst := by
  refine names_eq (List.pairwise_map.mpr (fs.pairwise_entries l))
    (List.pairwise_map.mpr ((after.pairwise_entries l).filter _)) fun name => ?_
  rw [mem_names_entries]
  constructor
  · intro hs
    obtain ⟨node, hnode⟩ := Option.isSome_iff_exists.mp (h.isSome hl hs)
    exact List.mem_map.mpr ⟨(name, node), List.mem_filter.mpr ⟨(mem_entries _ _ _ _).mpr hnode, hs⟩, rfl⟩
  · rintro hm
    obtain ⟨e, he, rfl⟩ := List.mem_map.mp hm
    exact (List.mem_filter.mp he).2

end FileSystem

namespace Search

/-! ## Visiting entries in order -/

variable {visit visit' : Text → Node → Except Fault (List Path)}

/-- A visit to entries in order comes to an end if and only if the first is visited and so are the rest; what is found
at the first comes first. -/
theorem inOrder_cons_eq_ok_iff (name : Text) (node : Node) (rest : List (Text × Node)) (found : List Path) :
    inOrder visit ((name, node) :: rest) = .ok found ↔
      ∃ first others, visit name node = .ok first ∧ inOrder visit rest = .ok others ∧ found = first ++ others := by
  rw [inOrder]
  cases visit name node with
  | error fault => exact iff_of_false nofun (by simp)
  | ok first =>
    cases inOrder visit rest with
    | error fault => exact iff_of_false nofun (by simp)
    | ok others =>
      constructor
      · rintro ⟨⟩
        exact ⟨first, others, rfl, rfl, rfl⟩
      · rintro ⟨_, _, ⟨⟩, ⟨⟩, rfl⟩
        rfl

/-- What is found is found at some entry. -/
theorem mem_inOrder {entries : List (Text × Node)} {found : List Path} (h : inOrder visit entries = .ok found) {p : Path}
    (hp : p ∈ found) : ∃ name node first, (name, node) ∈ entries ∧ visit name node = .ok first ∧ p ∈ first := by
  induction entries generalizing found with
  | nil =>
    cases h
    exact absurd hp List.not_mem_nil
  | cons e rest ih =>
    obtain ⟨first, others, hf, ho, rfl⟩ := (inOrder_cons_eq_ok_iff _ _ _ _).mp h
    rcases List.mem_append.mp hp with hp | hp
    · exact ⟨e.1, e.2, first, List.mem_cons_self, hf, hp⟩
    · obtain ⟨name, node, first', hm, hv, hp⟩ := ih ho hp
      exact ⟨name, node, first', List.mem_cons_of_mem _ hm, hv, hp⟩

/-- Entries at which nothing is found can be passed over. -/
theorem inOrder_of_filter {keep : Text × Node → Bool} {entries : List (Text × Node)} {found : List Path}
    (hk : ∀ e ∈ entries, keep e = false → visit e.1 e.2 = .ok []) (h : inOrder visit (entries.filter keep) = .ok found) :
    inOrder visit entries = .ok found := by
  induction entries generalizing found with
  | nil => exact h
  | cons e rest ih =>
    have hrest := fun e' he' => hk e' (List.mem_cons_of_mem e he')
    cases he : keep e with
    | false =>
      rw [List.filter_cons_of_neg (by simp [he])] at h
      exact (inOrder_cons_eq_ok_iff _ _ _ _).mpr ⟨[], found, hk e List.mem_cons_self he, ih hrest h, rfl⟩
    | true =>
      rw [List.filter_cons_of_pos he] at h
      obtain ⟨first, others, hf, ho, rfl⟩ := (inOrder_cons_eq_ok_iff _ _ _ _).mp h
      exact (inOrder_cons_eq_ok_iff _ _ _ _).mpr ⟨first, others, hf, ih hrest ho, rfl⟩

/-- Entries at which nothing is found can be left out. -/
theorem inOrder_filter {keep : Text × Node → Bool} {entries : List (Text × Node)} {found : List Path}
    (hk : ∀ e ∈ entries, keep e = false → ∀ first, visit e.1 e.2 = .ok first → first = [])
    (h : inOrder visit entries = .ok found) : inOrder visit (entries.filter keep) = .ok found := by
  induction entries generalizing found with
  | nil => exact h
  | cons e rest ih =>
    obtain ⟨first, others, hf, ho, rfl⟩ := (inOrder_cons_eq_ok_iff _ _ _ _).mp h
    have hrest := ih (fun e' he' => hk e' (List.mem_cons_of_mem e he')) ho
    cases he : keep e with
    | false =>
      rw [List.filter_cons_of_neg (by simp [he]), hk e List.mem_cons_self he first hf]
      exact hrest
    | true =>
      rw [List.filter_cons_of_pos he]
      exact (inOrder_cons_eq_ok_iff _ _ _ _).mpr ⟨first, others, hf, hrest, rfl⟩

/-- Visits that find the same under the same names find the same in order. -/
theorem inOrder_of_names_eq {entries entries' : List (Text × Node)} {found : List Path}
    (hn : entries.map Prod.fst = entries'.map Prod.fst)
    (hv : ∀ name node node' first, (name, node) ∈ entries → (name, node') ∈ entries' → visit name node = .ok first →
      visit' name node' = .ok first) (h : inOrder visit entries = .ok found) : inOrder visit' entries' = .ok found := by
  induction entries generalizing entries' found with
  | nil =>
    rw [List.map_nil, eq_comm, List.map_eq_nil_iff] at hn
    subst hn
    exact h
  | cons e rest ih =>
    cases entries' with
    | nil => nomatch hn
    | cons e' rest' =>
      obtain ⟨name, node⟩ := e
      obtain ⟨name', node'⟩ := e'
      rw [List.map_cons, List.map_cons, List.cons.injEq] at hn
      obtain ⟨rfl, hn⟩ := hn
      obtain ⟨first, others, hf, ho, rfl⟩ := (inOrder_cons_eq_ok_iff _ _ _ _).mp h
      refine (inOrder_cons_eq_ok_iff _ _ _ _).mpr ⟨first, others, ?_, ?_, rfl⟩
      · exact hv _ _ _ _ List.mem_cons_self List.mem_cons_self hf
      · exact ih hn (fun n x x' f hx hx' => hv n x x' f (List.mem_cons_of_mem _ hx) (List.mem_cons_of_mem _ hx')) ho

/-! ## Only manifests are found -/

/-- What is found at a file is a manifest. -/
theorem isManifest_of_mem_file {fs : FileSystem} {excluded : Bool} {path p : Path} (h : p ∈ file fs excluded path) :
    isManifest p = true := by
  rw [file] at h
  split at h
  · rename_i hm
    rw [List.mem_singleton.mp h]
    exact ((Bool.and_eq_true _ _).mp hm).2
  · exact absurd h List.not_mem_nil

/-- Whether a way to walk a directory finds only manifests. -/
def FindsManifests (walk : Walk) : Prop :=
  ∀ path way l found, walk path way l = .ok found → ∀ p ∈ found, isManifest p = true

theorem findsManifests_error (fault : Fault) : FindsManifests fun _ _ _ => .error fault := by
  intro path way l found h
  nomatch h

section Entry

variable (fs : FileSystem) (exclude : List Text) (across down : Walk) (dir : Path) (way : List Location) (here : Location)
  (name : Text)

/-- At a file, the search finds the path of the file if it is a manifest that is not excluded. -/
theorem entry_file (content : ByteArray) : entry fs exclude across down dir way here name (.file content) =
    .ok (file fs (exclude.contains name) (Path.join dir name)) := rfl

/-- A directory is left out if it is excluded; else it is walked down if its path leads there, and the search fails if
not. -/
theorem entry_directory : entry fs exclude across down dir way here name .directory =
    if exclude.contains name then .ok []
    else if fs.has (Path.join dir name) then down (Path.join dir name) ((name :: here) :: way) (name :: here)
    else .error (.unreachable (Path.join dir name)) := rfl

/-- A link fails if it leads nowhere or back to a directory on the way; else it is left out if it is excluded, and is
walked across or taken as a file by what it leads to. -/
theorem entry_link (target : Path) : entry fs exclude across down dir way here name (.link target) =
    match fs.find? (Path.join dir name) with
    | none => .error (.unreachable (Path.join dir name))
    | some l =>
      if fs.node? l = some .directory then
        if l ∈ way then .error (.linkLoop (Path.join dir name))
        else if exclude.contains name then .ok []
        else across (Path.join dir name) (l :: way) l
      else .ok (file fs (exclude.contains name) (Path.join dir name)) := rfl

end Entry

/-- At an entry only manifests are found if the walks across links and down find only manifests. -/
theorem findsManifests_entry {fs : FileSystem} {exclude : List Text} {across down : Walk} (ha : FindsManifests across)
    (hd : FindsManifests down) {dir : Path} {way : List Location} {here : Location} {name : Text} {node : Node}
    {found : List Path} (h : entry fs exclude across down dir way here name node = .ok found) :
    ∀ p ∈ found, isManifest p = true := by
  intro p hp
  cases node with
  | file content =>
    cases h
    exact isManifest_of_mem_file hp
  | directory =>
    rw [entry_directory] at h
    split at h
    · cases h
      exact absurd hp List.not_mem_nil
    · split at h
      · exact hd _ _ _ _ h p hp
      · nomatch h
  | link target =>
    rw [entry_link] at h
    split at h
    · nomatch h
    · split at h
      · split at h
        · nomatch h
        · split at h
          · cases h
            exact absurd hp List.not_mem_nil
          · exact ha _ _ _ _ h p hp
      · cases h
        exact isManifest_of_mem_file hp

/-- A walk down finds only manifests if the walk across its links does. -/
theorem findsManifests_walkDown {fs : FileSystem} {exclude : List Text} {across : Walk} (ha : FindsManifests across)
    (depth : Nat) : FindsManifests (walkDown fs exclude across depth) := by
  induction depth with
  | zero => exact findsManifests_error _
  | succ depth ih =>
    intro path way l found h p hp
    obtain ⟨name, node, first, -, hv, hp⟩ := mem_inOrder h hp
    exact findsManifests_entry ha ih hv p hp

/-- A walk finds only manifests, whatever number of links it may follow. -/
theorem findsManifests_walk (fs : FileSystem) (exclude : List Text) (links : Nat) :
    FindsManifests (walk fs exclude links) := by
  induction links with
  | zero => exact findsManifests_walkDown (findsManifests_error _) _
  | succ links ih => exact findsManifests_walkDown ih _

/-- What a search finds is what it met, sorted. -/
theorem manifests_eq_ok_iff (fs : FileSystem) (exclude : List Text) (top : Path) (sorted : List Path) :
    manifests fs exclude top = .ok sorted ↔
      ∃ found, met fs exclude top = .ok found ∧ sorted = sortBy Path.before found := by
  rw [manifests]
  cases met fs exclude top with
  | error fault => exact iff_of_false nofun (by simp)
  | ok found =>
    constructor
    · rintro ⟨⟩
      exact ⟨found, rfl, rfl⟩
    · rintro ⟨_, ⟨⟩, rfl⟩
      rfl

/-- Whatever a search finds is a manifest by name. -/
theorem isManifest_of_mem_manifests {fs : FileSystem} {exclude : List Text} {top : Path} {found : List Path}
    (h : manifests fs exclude top = .ok found) : ∀ p ∈ found, isManifest p = true := by
  intro p hp
  obtain ⟨found, hm, rfl⟩ := (manifests_eq_ok_iff _ _ _ _).mp h
  rw [mem_sortBy] at hp
  rw [met] at hm
  split at hm
  · nomatch hm
  · split at hm
    · exact findsManifests_walk _ _ _ _ _ _ _ hm p hp
    · cases hm
      exact isManifest_of_mem_file hp

/-! ## The search after growth -/

/-- Paths with the same file name are both manifests or neither is. -/
theorem isManifest_eq_of_fileName?_eq {p q : Path} (h : Path.fileName? p = Path.fileName? q) :
    isManifest p = isManifest q := by
  rw [isManifest, Path.extension?_eq_of_fileName?_eq h, isManifest]

/-- A path that is continued by a name is a manifest if and only if the name alone is. -/
theorem isManifest_join (dir : Path) {name : Text} (hn : EntryName name) :
    isManifest (Path.join dir name) = isManifest name := by
  refine isManifest_eq_of_fileName?_eq ?_
  rw [Path.fileName?_join dir hn]
  exact (Path.fileName?_append (Or.inl rfl) hn).symm

/-- What was touched between two file systems has the names of no manifests. -/
def Untouched (fs after : FileSystem) : Prop :=
  ∀ name parent, after.node? (name :: parent) ≠ fs.node? (name :: parent) → isManifest name = false

variable {fs after : FileSystem} {exclude : List Text} {across across' : Walk}

/-- At what is new, the search finds nothing. -/
theorem entry_of_new (h : FileSystem.Grown fs after) (hu : Untouched fs after) {down : Walk} {dir : Path}
    {way : List Location} {here : Location} {name : Text} {node : Node} (hnew : after.node? (name :: here) = some node)
    (hold : fs.node? (name :: here) = none) : entry after exclude across down dir way here name node = .ok [] := by
  have hm : isManifest name = false := hu name here (by rw [hnew, hold]; nofun)
  have hn := entryName_of_isEntryName (FileSystem.isEntryName_of_node? hnew)
  obtain ⟨content, rfl⟩ := h.exists_file_of_new hold hnew
  rw [entry_file, file, isManifest_join dir hn, hm, Bool.and_false]
  rfl

/-- A walk that comes to an end finds the same after growth, be it allowed to go deeper or not. -/
theorem walkDown_of_grown (h : FileSystem.Grown fs after) (hl : fs.LinkFree) (hu : Untouched fs after) {depth depth' : Nat}
    (hd : depth ≤ depth') {dir : Path} {way way' : List Location} {here : Location} {found : List Path}
    (hdir : fs.find? dir = some here) (hnode : fs.node? here = some .directory)
    (hw : walkDown fs exclude across depth dir way here = .ok found) :
    walkDown after exclude across' depth' dir way' here = .ok found := by
  induction depth generalizing depth' dir way way' here found with
  | zero => nomatch hw
  | succ depth ih =>
    obtain ⟨more, rfl⟩ := Nat.exists_eq_add_of_le' hd
    rw [show more + (depth + 1) = (more + depth) + 1 by omega]
    refine inOrder_of_filter ?_ (inOrder_of_names_eq (h.names_entries hl here) ?_ hw)
    · rintro ⟨name, node⟩ he hk
      have hold : fs.node? (name :: here) = none := by simpa using hk
      exact entry_of_new h hu ((FileSystem.mem_entries _ _ _ _).mp he) hold
    · intro name node node' first hentry hentry' hv
      rw [FileSystem.mem_entries] at hentry
      replace hentry' := (FileSystem.mem_entries _ _ _ _).mp (List.mem_filter.mp hentry').1
      cases node with
      | link target => exact absurd hentry (hl _ _)
      | file content =>
        obtain ⟨content', hc⟩ := h.file _ content hentry
        cases hentry'.symm.trans hc
        have hfile : after.hasFile (Path.join dir name) = fs.hasFile (Path.join dir name) := by
          rw [FileSystem.hasFile_join hdir hnode hentry,
            FileSystem.hasFile_join (h.find? hl hdir) ((h.directory _).mpr hnode) hc]
        rw [entry_file, file, hfile]
        exact hv
      | directory =>
        cases hentry'.symm.trans ((h.directory _).mpr hentry)
        rw [entry_directory] at hv ⊢
        split at hv
        · rename_i hx
          rw [if_pos hx]
          exact hv
        · rename_i hx
          rw [if_neg hx]
          split at hv
          · rename_i hh
            have hpath : fs.find? (Path.join dir name) = some (name :: here) := by
              rw [FileSystem.find?_join hdir hnode hentry rfl,
                if_pos ((FileSystem.has_join hdir hnode hentry rfl).symm.trans hh)]
            rw [if_pos (h.has hl hh)]
            exact ih (Nat.le_add_left _ _) hpath hentry hv
          · nomatch hv

/-- Walking a tree is walking down, whatever number of links may be met. -/
theorem exists_walk_eq (fs : FileSystem) (exclude : List Text) (links : Nat) :
    ∃ across, walk fs exclude links = walkDown fs exclude across (fs.nodes.length + 1) := by
  cases links with
  | zero => exact ⟨_, rfl⟩
  | succ links => exact ⟨_, rfl⟩

/-- A search that succeeds meets the same after a growth that touched no manifest. -/
theorem met_of_grown (h : FileSystem.Grown fs after) (hl : fs.LinkFree) (hu : Untouched fs after) {top : Path}
    {found : List Path} (hm : met fs exclude top = .ok found) : met after exclude top = .ok found := by
  rw [met] at hm ⊢
  split at hm
  · nomatch hm
  · rename_i l htop
    simp only [h.find? hl htop]
    split at hm
    · rename_i hdir
      obtain ⟨across, hw⟩ := exists_walk_eq fs exclude (fs.nodes.length + 1)
      obtain ⟨across', hw'⟩ := exists_walk_eq after exclude (after.nodes.length + 1)
      rw [hw] at hm
      rw [if_pos ((h.directory l).mpr hdir), hw']
      exact walkDown_of_grown h hl hu (Nat.succ_le_succ (h.length_le hl)) htop hdir hm
    · rename_i hdir
      rw [if_neg (mt (h.directory l).mp hdir), ← hm]
      obtain ⟨node, hnode, hlink⟩ := FileSystem.isLink_of_find? htop
      cases node with
      | directory => exact absurd hnode hdir
      | link target => nomatch hlink
      | file content =>
        obtain ⟨content', hc⟩ := h.file l content hnode
        rw [file, file, FileSystem.hasFile, FileSystem.hasFile, FileSystem.lookup?, FileSystem.lookup?, htop, h.find? hl htop,
          Option.bind_some, Option.bind_some, hnode, hc]

/-- A search that succeeds finds the same after a growth that touched no manifest. -/
theorem manifests_of_grown (h : FileSystem.Grown fs after) (hl : fs.LinkFree) (hu : Untouched fs after) {top : Path}
    {sorted : List Path} (hm : manifests fs exclude top = .ok sorted) : manifests after exclude top = .ok sorted := by
  obtain ⟨found, hf, rfl⟩ := (manifests_eq_ok_iff _ _ _ _).mp hm
  exact (manifests_eq_ok_iff _ _ _ _).mpr ⟨found, met_of_grown h hl hu hf, rfl⟩

end Search

end ModelStubs
