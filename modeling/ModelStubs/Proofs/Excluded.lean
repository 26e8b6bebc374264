import ModelStubs.Proofs.Manifests

/-!
# What excluded entries change

Two file systems that differ only at and below excluded entries, with all their links there (`Alike`), are searched with the
same outcome, unless an excluded link is a snag: links are followed before names are looked at, so one that leads nowhere, or
back to a directory on the way down to it, makes the search fail (`Snag`).

On the way down no link is met, so every directory that is walked is at its own location (`walkDown_alike`), and a walk is
never too deep, because there is a node for every step down (`length_le_nodes`).
-/

namespace ModelStubs

/-! ## Depth -/

namespace FileSystem

variable {fs : FileSystem}

/-- What is below the root is listed. -/
theorem mem_locations_of_node? {name : Text} {parent : Location} {node : Node}
    (h : fs.node? (name :: parent) = some node) : name :: parent ∈ fs.nodes.map Prod.fst :=
  List.mem_map.mpr ⟨_, (node?_eq_some_iff fs name parent node).mp h, rfl⟩

/-- Below the root there is a node for every name in a location where something is: the locations on the way down to it are
all different, each being longer than the one above it. -/
theorem length_le_nodes {l : Location} {node : Node} (h : fs.node? l = some node) : l.length ≤ fs.nodes.length := by
  have hnodes : ∀ l node, fs.node? l = some node → ∃ ls : List Location, ls.length = l.length ∧ ls.Nodup ∧
      ∀ x ∈ ls, x.length ≤ l.length ∧ x ∈ fs.nodes.map Prod.fst := by
    intro l
    induction l with
    | nil =>
      intro node _
      exact ⟨[], rfl, List.nodup_nil, nofun⟩
    | cons name parent ih =>
      intro node h
      obtain ⟨ls, hl, hd, hm⟩ := ih _ (directory_of_node? h)
      refine ⟨(name :: parent) :: ls, by rw [List.length_cons, hl, List.length_cons], List.nodup_cons.mpr ⟨?_, hd⟩, ?_⟩
      · intro hc
        have := (hm _ hc).1
        rw [List.length_cons] at this
        omega
      · intro x hx
        rcases List.mem_cons.mp hx with rfl | hx
        · exact ⟨Nat.le_refl _, mem_locations_of_node? h⟩
        · obtain ⟨hle, hmem⟩ := hm x hx
          exact ⟨Nat.le_succ_of_le hle, hmem⟩
  obtain ⟨ls, hl, hd, hm⟩ := hnodes l node h
  rw [← hl, ← List.length_map Prod.fst]
  exact (List.subperm_of_subset hd fun x hx => (hm x hx).2).length_le

/-- What stands above a node is a directory. -/
theorem directory_of_append {above : List Text} {here : Location} {name : Text} {node : Node}
    (h : fs.node? (name :: (above ++ here)) = some node) : fs.node? here = some .directory := by
  induction above generalizing name node with
  | nil => exact directory_of_node? h
  | cons n above ih => exact ih (directory_of_node? h)

end FileSystem

namespace Search

variable {fs other : FileSystem} {exclude : List Text} {root here l : Location} {top dir : Path} {chain : List Text}
  {name : Text} {node : Node} {found : List Path} {way : List Location}

/-! ## Entries that the search does not see -/

/-- Whether a location is at or below an entry with an excluded name that stands below a directory. -/
def Hidden (exclude : List Text) (root l : Location) : Prop := ∃ below, l = below ++ root ∧ ∃ name ∈ below, name ∈ exclude

/-- A location is hidden if one of the names that lead down to it is excluded. -/
theorem hidden_append_iff (exclude : List Text) (root : Location) (below : List Text) :
    Hidden exclude root (below ++ root) ↔ ∃ name ∈ below, name ∈ exclude := by
  constructor
  · rintro ⟨below', he, h⟩
    rw [List.append_cancel_right he]
    exact h
  · exact fun h => ⟨below, rfl, h⟩

/-- `other` is `fs` outside what is hidden below a directory, and everything that is a link in either of them is hidden. -/
structure Alike (exclude : List Text) (root : Location) (fs other : FileSystem) : Prop where
  workDir : other.workDir = fs.workDir
  node? : ∀ l, ¬Hidden exclude root l → other.node? l = fs.node? l
  links : ∀ l target, fs.node? l = some (.link target) → Hidden exclude root l
  links' : ∀ l target, other.node? l = some (.link target) → Hidden exclude root l

theorem Alike.symm (h : Alike exclude root fs other) : Alike exclude root other fs :=
  ⟨h.workDir.symm, fun l hl => (h.node? l hl).symm, h.links', h.links⟩

theorem Alike.refl (h : fs.LinkFree) : Alike exclude root fs fs :=
  ⟨rfl, fun _ _ => rfl, fun l target hn => absurd hn (h l target), fun l target hn => absurd hn (h l target)⟩

/-- What is put at a hidden location changes nothing outside. -/
theorem Alike.put (h : Alike exclude root fs other) {parent : Location} (hh : Hidden exclude root (name :: parent))
    (node : Node) : Alike exclude root fs (other.put parent name node) := by
  by_cases hv : isEntryName name = true ∧ other.node? parent = some .directory ∧
      other.node? (name :: parent) ≠ some .directory
  · have hput := FileSystem.node?_put hv.1 hv.2.1 hv.2.2 node
    have hother : ∀ l, ¬Hidden exclude root l → (other.put parent name node).node? l = other.node? l := by
      intro l hl
      rw [hput, if_neg]
      rintro rfl
      exact hl hh
    refine ⟨(FileSystem.workDir_put _ _ _ _).trans h.workDir, fun l hl => (hother l hl).trans (h.node? l hl), h.links, ?_⟩
    intro l target hn
    by_cases hl : Hidden exclude root l
    · exact hl
    · rw [hother l hl] at hn
      exact h.links' l target hn
  · rw [FileSystem.put, dif_neg hv]
    exact h

/-! ## Snags -/

/-- Whether an excluded link, in a directory that is walked, leads nowhere or to a directory on the way down to it. -/
def Snag (fs : FileSystem) (exclude : List Text) (top : Path) : Prop :=
  ∃ root chain name target, fs.find? top = some root ∧ (∀ n ∈ chain, n ∉ exclude) ∧ name ∈ exclude ∧
    fs.node? (name :: (chain.reverse ++ root)) = some (.link target) ∧
    ∀ l, fs.find? (Path.join (Path.joinAll top chain) name) = some l →
      fs.node? l = some .directory ∧ root <:+ l ∧ l <:+ chain.reverse ++ root

/-- Whether the directories on a way are those from one location up to another. -/
def WayUp (root here : Location) (way : List Location) : Prop := ∀ l, l ∈ way ↔ root <:+ l ∧ l <:+ here

/-- The way up to the root from the root is the root. -/
theorem wayUp_root (root : Location) : WayUp root root [root] := by
  intro l
  rw [List.mem_singleton]
  constructor
  · rintro rfl
    exact ⟨List.suffix_rfl, List.suffix_rfl⟩
  · rintro ⟨hr, hl⟩
    exact hl.eq_of_length_le hr.length_le

/-- One directory further down, the way up is longer by it. -/
theorem WayUp.down (h : WayUp root here way) (hr : root <:+ here) (name : Text) :
    WayUp root (name :: here) ((name :: here) :: way) := by
  intro l
  rw [List.mem_cons, h l, List.suffix_cons_iff]
  constructor
  · rintro (rfl | ⟨hrl, hl⟩)
    · exact ⟨hr.trans (List.suffix_cons _ _), Or.inl rfl⟩
    · exact ⟨hrl, Or.inr hl⟩
  · rintro ⟨hrl, rfl | hl⟩
    · exact Or.inl rfl
    · exact Or.inr ⟨hrl, hl⟩

/-- A walk that comes to an end meets no snag: each link in a directory that it walks leads somewhere, and to no directory
on the way down. The names down to the link are those of directories that are not excluded, so the walk went into each. -/
theorem exists_find?_of_walkDown {across : Walk} {depth : Nat} {target : Path} (hdir : fs.find? dir = some here)
    (hnode : fs.node? here = some .directory) (hr : root <:+ here) (hway : WayUp root here way)
    (hc : ∀ n ∈ chain, n ∉ exclude) (hlink : fs.node? (name :: (chain.reverse ++ here)) = some (.link target))
    (h : walkDown fs exclude across depth dir way here = .ok found) :
    ∃ l, fs.find? (Path.join (Path.joinAll dir chain) name) = some l ∧
      ¬(fs.node? l = some .directory ∧ root <:+ l ∧ l <:+ chain.reverse ++ here) := by
  induction chain generalizing depth dir here way found with
  | nil =>
    cases depth with
    | zero => nomatch h
    | succ depth =>
      obtain ⟨first, hv, -⟩ := visit_of_inOrder h ((FileSystem.mem_entries _ _ _ _).mpr hlink)
      rw [entry_link] at hv
      split at hv
      · nomatch hv
      · rename_i l hl
        refine ⟨l, hl, ?_⟩
        rintro ⟨hd, hsuffix⟩
        rw [if_pos hd, if_pos ((hway l).mpr hsuffix)] at hv
        nomatch hv
  | cons n chain ih =>
    rw [List.reverse_cons, List.append_assoc, List.singleton_append] at hlink ⊢
    have hn : fs.node? (n :: here) = some .directory := FileSystem.directory_of_append hlink
    have hx : exclude.contains n = false := by simpa using hc n List.mem_cons_self
    cases depth with
    | zero => nomatch h
    | succ depth =>
      obtain ⟨first, hv, -⟩ := visit_of_inOrder h ((FileSystem.mem_entries _ _ _ _).mpr hn)
      rw [entry_directory, hx, if_neg (by decide)] at hv
      split at hv
      · rename_i hh
        rw [FileSystem.has_join hdir hnode hn rfl] at hh
        exact ih (by rw [FileSystem.find?_join hdir hnode hn rfl, if_pos hh]) hn (hr.trans (List.suffix_cons _ _))
          (hway.down hr n) (fun m hm => hc m (List.mem_cons_of_mem _ hm)) hlink hv
      · nomatch hv

/-- A search that has a snag does not come to an end. -/
theorem met_ne_ok_of_snag (h : Snag fs exclude top) (found : List Path) : met fs exclude top ≠ .ok found := by
  obtain ⟨root, chain, name, target, htop, hc, -, hlink, hsnag⟩ := h
  intro hm
  have hroot : fs.node? root = some .directory := FileSystem.directory_of_append hlink
  obtain ⟨across, hw⟩ := exists_walk_eq fs exclude (fs.nodes.length + 1)
  rw [met, htop] at hm
  simp only [hroot, if_true, hw] at hm
  obtain ⟨l, hl, hn⟩ := exists_find?_of_walkDown htop hroot List.suffix_rfl (wayUp_root root) hc hlink hm
  exact hn (hsnag l hl)

/-! ## Two searches -/

/-- Outside snags, nothing is met at an excluded entry of a directory that is walked. -/
theorem entry_of_excluded (hsnag : ¬Snag fs exclude top) (htop : fs.find? top = some root) (hc : ∀ n ∈ chain, n ∉ exclude)
    (hway : WayUp root (chain.reverse ++ root) way) (hx : name ∈ exclude)
    (hnode : fs.node? (name :: (chain.reverse ++ root)) = some node) (across down : Walk) :
    entry fs exclude across down (Path.joinAll top chain) way (chain.reverse ++ root) name node = .ok [] := by
  have hcx : exclude.contains name = true := List.contains_iff_mem.mpr hx
  cases node with
  | file content =>
    rw [entry_file, hcx]
    rfl
  | directory => rw [entry_directory, if_pos hcx]
  | link target =>
    obtain ⟨l, hl, hn⟩ : ∃ l, fs.find? (Path.join (Path.joinAll top chain) name) = some l ∧
        ¬(fs.node? l = some .directory ∧ root <:+ l ∧ l <:+ chain.reverse ++ root) := by
      by_contra hno
      refine hsnag ⟨root, chain, name, target, htop, hc, hx, hnode, fun l hl => ?_⟩
      by_contra hn
      exact hno ⟨l, hl, hn⟩
    rw [entry_link, hl]
    by_cases hd : fs.node? l = some .directory
    · have hl : l ∉ way := fun hm => hn ⟨hd, (hway l).mp hm⟩
      simp only [if_pos hd, if_neg hl, if_pos hcx]
    · simp only [if_neg hd, hcx]
      rfl

/-- That the names of a chain, none of them excluded, lead from the path of a search to the directory that stands at those
names below the location of that path. -/
structure Walked (fs : FileSystem) (exclude : List Text) (top : Path) (root : Location) (chain : List Text) : Prop where
  kept : ∀ n ∈ chain, n ∉ exclude
  find? : fs.find? (Path.joinAll top chain) = some (chain.reverse ++ root)
  directory : fs.node? (chain.reverse ++ root) = some .directory

/-- The walk starts at the root. -/
theorem walked_root (htop : fs.find? top = some root) (hroot : fs.node? root = some .directory) :
    Walked fs exclude top root [] := ⟨nofun, htop, hroot⟩

/-- A location one name further down. -/
theorem concat_reverse_append (chain : List Text) (name : Text) (root : Location) :
    (chain ++ [name]).reverse ++ root = name :: (chain.reverse ++ root) := by
  rw [List.reverse_append, List.reverse_singleton, List.append_assoc, List.singleton_append]

/-- The walk goes on into a directory that is not excluded, if its path is one that is followed. -/
theorem Walked.down (h : Walked fs exclude top root chain) (hx : name ∉ exclude)
    (hn : fs.node? (name :: (chain.reverse ++ root)) = some .directory)
    (hf : Path.isFollowed (Path.join (Path.joinAll top chain) name) = true) :
    Walked fs exclude top root (chain ++ [name]) := by
  refine ⟨?_, ?_, by rw [concat_reverse_append, hn]⟩
  · intro n hn
    rcases List.mem_append.mp hn with hn | hn
    · exact h.kept n hn
    · rw [List.mem_singleton.mp hn]
      exact hx
  · rw [concat_reverse_append, Path.joinAll_concat, FileSystem.find?_join h.find? h.directory hn rfl, if_pos hf]

/-- What is met in a directory that is walked is not hidden, if its own name is not excluded. -/
theorem Walked.not_hidden (h : Walked fs exclude top root chain) (hx : name ∉ exclude) :
    ¬Hidden exclude root (name :: (chain.reverse ++ root)) := by
  rw [← List.cons_append, hidden_append_iff]
  rintro ⟨n, hn, hxn⟩
  rcases List.mem_cons.mp hn with rfl | hn
  · exact hx hxn
  · exact h.kept n (List.mem_reverse.mp hn) hxn

/-- The entries of a directory that is walked are the same but for the excluded ones. -/
theorem Alike.entries (h : Alike exclude root fs other) (hs : Walked fs exclude top root chain) :
    (other.entries (chain.reverse ++ root)).filter (fun e => !exclude.contains e.1) =
      (fs.entries (chain.reverse ++ root)).filter fun e => !exclude.contains e.1 := by
  refine FileSystem.entries_eq_of_mem_iff ((other.pairwise_entries _).filter _) ((fs.pairwise_entries _).filter _) ?_
  rintro ⟨name, node⟩
  rw [List.mem_filter, List.mem_filter, and_congr_left_iff]
  intro hx
  have hx : name ∉ exclude := by simpa using hx
  rw [FileSystem.mem_entries, FileSystem.mem_entries, h.node? _ (hs.not_hidden hx)]

/-- What is met at an entry that is not excluded, of a directory that is walked in both file systems, is met there in the
other one, when that holds of the directories below. -/
theorem entry_of_kept {across across' down down' : Walk} (h : Alike exclude root fs other)
    (hs : Walked fs exclude top root chain) (hs' : Walked other exclude top root chain) (hx : name ∉ exclude)
    (hnode : other.node? (name :: (chain.reverse ++ root)) = some node)
    (hdown : Walked fs exclude top root (chain ++ [name]) → Walked other exclude top root (chain ++ [name]) →
      ∀ found, down (Path.joinAll top (chain ++ [name])) (((chain ++ [name]).reverse ++ root) :: way)
        ((chain ++ [name]).reverse ++ root) = .ok found →
      down' (Path.joinAll top (chain ++ [name])) (((chain ++ [name]).reverse ++ root) :: way')
        ((chain ++ [name]).reverse ++ root) = .ok found)
    (hv : entry fs exclude across down (Path.joinAll top chain) way (chain.reverse ++ root) name node = .ok found) :
    entry other exclude across' down' (Path.joinAll top chain) way' (chain.reverse ++ root) name node = .ok found := by
  have hkept := hs.not_hidden hx
  have hthis : fs.node? (name :: (chain.reverse ++ root)) = some node := (h.node? _ hkept).symm.trans hnode
  cases node with
  | link target => exact absurd (h.links _ target hthis) hkept
  | file content =>
    rw [entry_file, file, FileSystem.hasFile_join hs.find? hs.directory hthis] at hv
    rw [entry_file, file, FileSystem.hasFile_join hs'.find? hs'.directory hnode]
    exact hv
  | directory =>
    have hcx : exclude.contains name = false := by simpa using hx
    rw [entry_directory, hcx, if_neg (by decide), FileSystem.has_join hs.find? hs.directory hthis rfl] at hv
    rw [entry_directory, hcx, if_neg (by decide), FileSystem.has_join hs'.find? hs'.directory hnode rfl]
    split at hv
    · rename_i hf
      rw [if_pos hf, ← concat_reverse_append, ← Path.joinAll_concat]
      rw [← concat_reverse_append, ← Path.joinAll_concat] at hv
      exact hdown (hs.down hx hthis hf) (hs'.down hx hnode hf) found hv
    · cases hv

/-- A walk that comes to an end meets the same in the other file system, if that has no snag: what is excluded adds nothing
on either side. -/
theorem walkDown_alike (h : Alike exclude root fs other) (hsnag : ¬Snag other exclude top)
    (htop : other.find? top = some root) {across across' : Walk} {depth depth' : Nat} {way' : List Location}
    (hs : Walked fs exclude top root chain) (hs' : Walked other exclude top root chain)
    (hway : WayUp root (chain.reverse ++ root) way')
    (hd : other.nodes.length < depth' + (chain.reverse ++ root).length)
    (hw : walkDown fs exclude across depth (Path.joinAll top chain) way (chain.reverse ++ root) = .ok found) :
    walkDown other exclude across' depth' (Path.joinAll top chain) way' (chain.reverse ++ root) = .ok found := by
  induction depth generalizing depth' chain way way' found with
  | zero => cases hw
  | succ depth ih =>
    obtain ⟨depth', rfl⟩ : ∃ n, depth' = n + 1 := by
      have hle := FileSystem.length_le_nodes hs'.directory
      exact ⟨depth' - 1, by omega⟩
    have hround : inOrder _ ((fs.entries (chain.reverse ++ root)).filter fun e => !exclude.contains e.1) = .ok found :=
      inOrder_filter (fun e _ hk first hv => eq_nil_of_excluded (by simpa using hk) hv) hw
    rw [← h.entries hs] at hround
    refine inOrder_of_filter ?_ (inOrder_of_names_eq rfl ?_ hround)
    · rintro ⟨name, node⟩ he hk
      exact entry_of_excluded hsnag htop hs.kept hway (by simpa using hk) ((FileSystem.mem_entries _ _ _ _).mp he) _ _
    · intro name node node' first he he' hv
      obtain ⟨hm, hk⟩ := List.mem_filter.mp he
      have hx : name ∉ exclude := by simpa using hk
      have hnode := (FileSystem.mem_entries _ _ _ _).mp hm
      have hnode' := (FileSystem.mem_entries _ _ _ _).mp (List.mem_filter.mp he').1
      cases hnode.symm.trans hnode'
      refine entry_of_kept h hs hs' hx hnode (fun hb hb' found hv => ih hb hb' ?_ ?_ hv) hv
      · rw [concat_reverse_append]
        exact hway.down (List.suffix_append chain.reverse root) name
      · rw [concat_reverse_append, List.length_cons]
        omega

/-- A search that comes to an end meets the same in the other file system, if that has no snag. -/
theorem met_alike (h : Alike exclude root fs other) (hsnag : ¬Snag other exclude top) (htop : fs.find? top = some root)
    (htop' : other.find? top = some root) (hm : met fs exclude top = .ok found) : met other exclude top = .ok found := by
  have hroot : other.node? root = fs.node? root := by
    refine h.node? _ fun hr => ?_
    obtain ⟨_, hn, _⟩ := (hidden_append_iff exclude root []).mp hr
    exact List.not_mem_nil hn
  rw [met, htop] at hm
  rw [met, htop']
  simp only [hroot] at hm ⊢
  split at hm
  · rename_i hd
    rw [if_pos hd]
    obtain ⟨across, hw⟩ := exists_walk_eq fs exclude (fs.nodes.length + 1)
    obtain ⟨across', hw'⟩ := exists_walk_eq other exclude (other.nodes.length + 1)
    rw [hw] at hm
    rw [hw']
    have hlength : other.nodes.length < other.nodes.length + 1 + root.length := by omega
    exact walkDown_alike h hsnag htop' (walked_root htop hd) (walked_root htop' (hroot.trans hd)) (wayUp_root root) hlength hm
  · rename_i hd
    rw [if_neg hd, ← hm, file, file, FileSystem.hasFile, FileSystem.hasFile, FileSystem.lookup?, FileSystem.lookup?, htop,
      htop', Option.bind_some, Option.bind_some, hroot]

/-- A snag makes the search fail. -/
theorem manifests_of_snag (h : Snag fs exclude top) : (manifests fs exclude top).toOption = none := by
  cases hm : manifests fs exclude top with
  | error fault => rfl
  | ok found => exact absurd (manifests_eq_met hm) (met_ne_ok_of_snag h found)

/-- What is met is what is found, for it is sorted already. -/
theorem manifests_eq_ok_of_met (h : met fs exclude top = .ok found) : manifests fs exclude top = .ok found := by
  rw [manifests, h]
  exact congrArg Except.ok (sortBy_of_pairwise ((lists_of_met h).sorted.imp Path.before_asymm))

/-- Let a path lead to the same place in two file systems that differ only in what is excluded below that place, with all
their links there. A snag makes the search fail. Where neither file system has one, the outcome is the same: the same list of
manifests, or a failure in both. -/
theorem manifests_alike (fs other : FileSystem) (exclude : List Text) (top : Path) (htop : other.find? top = fs.find? top)
    (h : ∀ root, fs.find? top = some root → Alike exclude root fs other) :
    (Snag fs exclude top → (manifests fs exclude top).toOption = none) ∧
      (Snag other exclude top → (manifests other exclude top).toOption = none) ∧
      (¬Snag fs exclude top → ¬Snag other exclude top →
        (manifests other exclude top).toOption = (manifests fs exclude top).toOption) := by
  refine ⟨manifests_of_snag, manifests_of_snag, fun hn hn' => ?_⟩
  cases hroot : fs.find? top with
  | none => rw [manifests, met, htop, hroot, manifests, met, hroot]
  | some root =>
    have hroot' := htop.trans hroot
    have halike := h root hroot
    cases hm : manifests fs exclude top with
    | ok found =>
      rw [manifests_eq_ok_of_met (met_alike halike hn' hroot hroot' (manifests_eq_met hm))]
    | error fault =>
      cases hm' : manifests other exclude top with
      | error fault' => rfl
      | ok found =>
        have hfound : manifests fs exclude top = .ok found :=
          manifests_eq_ok_of_met (met_alike halike.symm hn hroot' hroot (manifests_eq_met hm'))
        cases hm.symm.trans hfound

/-- The location of a model. -/
def models : Location := ["models".toList, "work".toList]

/-- A model with one manifest, and a directory beside it with another. -/
def beside : FileSystem :=
  putAll (FileSystem.empty "work".toList)
    [(["work".toList], "models".toList, .directory), (models, "a.toml".toList, .file (Text.encode [])),
      (["work".toList], "other".toList, .directory),
      (["other".toList, "work".toList], "z.toml".toList, .file (Text.encode []))]

/-- That model with an excluded directory in it. -/
def besideDrafts : FileSystem :=
  putAll beside
    [(models, "drafts".toList, .directory), ("drafts".toList :: models, "y.toml".toList, .file (Text.encode []))]

/-- That model with an excluded link in it. -/
def besideLink (target : Path) : FileSystem := beside.put models "drafts".toList (.link target)

/-- That link makes no difference to what is not excluded. -/
theorem alike_beside (target : Path) :
    Alike ["drafts".toList] models beside (besideLink target) := by
  have hl : beside.LinkFree := by decide +kernel
  exact (Alike.refl hl).put ⟨["drafts".toList], rfl, _, List.mem_singleton_self _, List.mem_singleton_self _⟩ _

/-- An excluded link to another directory, in place of an excluded directory, leaves the outcome as it is. -/
theorem besideLink_found :
    (manifests (besideLink "../other".toList) ["drafts".toList] "models".toList).toOption =
      (manifests besideDrafts ["drafts".toList] "models".toList).toOption ∧
    (manifests besideDrafts ["drafts".toList] "models".toList).toOption = some ["models/a.toml".toList] := by
  have hroot : besideDrafts.find? "models".toList = some models := by decide +kernel
  have htop : (besideLink "../other".toList).find? "models".toList = besideDrafts.find? "models".toList := by
    decide +kernel
  have hfound : (manifests besideDrafts ["drafts".toList] "models".toList).toOption = some ["models/a.toml".toList] := by
    decide +kernel
  have hfound' : (manifests (besideLink "../other".toList) ["drafts".toList] "models".toList).toOption ≠ none := by
    decide +kernel
  have halike : Alike ["drafts".toList] models besideDrafts (besideLink "../other".toList) := by
    have hdir := (alike_beside "../other".toList).symm.put
      ⟨["drafts".toList], rfl, _, List.mem_singleton_self _, List.mem_singleton_self _⟩ .directory
    exact (hdir.put ⟨["y.toml".toList, "drafts".toList], rfl, "drafts".toList, by simp, by simp⟩ _).symm
  obtain ⟨hs, hs', hsame⟩ := manifests_alike besideDrafts (besideLink "../other".toList) ["drafts".toList] "models".toList htop
    fun root hr => by
      cases hroot.symm.trans hr
      exact halike
  refine ⟨hsame (fun h => ?_) fun h => hfound' (hs' h), hfound⟩
  nomatch hfound.symm.trans (hs h)

/-- An excluded link that leads nowhere changes the outcome. -/
theorem excluded_link_seen : ¬∀ (fs other : FileSystem) (exclude : List Text) (top : Path),
    other.find? top = fs.find? top → (∀ root, fs.find? top = some root → Alike exclude root fs other) →
      (manifests other exclude top).toOption = (manifests fs exclude top).toOption := by
  intro h
  have hroot : beside.find? "models".toList = some models := by decide +kernel
  have hsame := h beside (besideLink "nowhere".toList) ["drafts".toList] "models".toList (by decide +kernel) fun root hr => by
    cases hroot.symm.trans hr
    exact alike_beside _
  exact absurd hsame (by decide +kernel)

end Search

end ModelStubs
