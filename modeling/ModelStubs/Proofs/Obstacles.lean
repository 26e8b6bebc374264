import Mathlib.Data.Finset.Card
import ModelStubs.Proofs.Excluded

/-!
# When a search fails

A search fails exactly if there is an obstacle on its way (`manifests_error_iff`): its path leads nowhere, or a directory
that is entered (`Entered`) has an entry that blocks it (`Blocked`), which is a link that leads nowhere or back to an open
directory, or a directory whose path is too long to be followed. The fault that is reported is that of such an obstacle.

In particular no search is ever too deep, whatever links there are. A walk down stops because there is a node for every step
down, and a walk across a link opens one more directory, of which there are only so many (`Stands.card_way_le`).
-/

namespace ModelStubs.Search

variable {fs : FileSystem} {exclude : List Text} {top : Path} {chain more : List Text} {name : Text} {node : Node}
  {here l : Location} {way : List Location} {found : List Path} {fault : Fault} {across down : Walk} {links depth : Nat}

/-! ## Directories that are entered -/

/-- Whether names of which none is excluded lead on from the path of a search to a directory. -/
structure Entered (fs : FileSystem) (exclude : List Text) (top : Path) (chain : List Text) (here : Location) : Prop where
  kept : ∀ name ∈ chain, isEntryName name = true ∧ name ∉ exclude
  find? : fs.find? (Path.joinAll top chain) = some here
  directory : fs.node? here = some .directory

namespace Entered

/-- The path of an entry is followed unless it is too long. -/
theorem isFollowed_join (h : Entered fs exclude top chain here) (hn : isEntryName name = true) :
    Path.isFollowed (Path.join (Path.joinAll top chain) name) = true ↔
      Text.byteLength (Path.join (Path.joinAll top chain) name) ≤ Path.lengthLimit := by
  have hlocate := (FileSystem.find?_eq_some_iff fs _ _).mp h.find?
  have hf := ((FileSystem.locateParts_eq_ok_iff fs true _ _ _).mp hlocate).1
  exact Path.isFollowed_join_iff hf hn

/-- A directory that is entered leads on to a directory under a name that is not excluded. -/
theorem concat (h : Entered fs exclude top chain here) (hn : isEntryName name = true) (hx : name ∉ exclude)
    (hl : fs.find? (Path.join (Path.joinAll top chain) name) = some l) (hd : fs.node? l = some .directory) :
    Entered fs exclude top (chain ++ [name]) l := by
  refine ⟨fun n hm => ?_, by rw [Path.joinAll_concat, hl], hd⟩
  rcases List.mem_append.mp hm with hm | hm
  · exact h.kept n hm
  · rw [List.mem_singleton.mp hm]
    exact ⟨hn, hx⟩

/-- What is entered is entered by way of other directories. -/
theorem of_append (htop : top ≠ []) (h : Entered fs exclude top (chain ++ more) here) :
    ∃ l, Entered fs exclude top chain l := by
  have hkept := fun n hm => h.kept n (List.mem_append_left more hm)
  have hmore := fun n hm => h.kept n (List.mem_append_right chain hm)
  cases more with
  | nil =>
    rw [List.append_nil] at h
    exact ⟨here, h⟩
  | cons name more =>
    have hfind := h.find?
    rw [Path.joinAll_append] at hfind
    have hne : Path.joinAll top chain ≠ [] :=
      Path.joinAll_ne_nil htop fun n hm => entryName_of_isEntryName (hkept n hm).1
    obtain ⟨l, hl, hd⟩ := directory_of_joinAll hne (fun n hm => (hmore n hm).1) hfind
    exact ⟨l, hkept, hl, hd⟩

end Entered

/-- Whether a directory is open at the end of a chain of names: it is where the first of them lead, or none, or all. -/
def Open (fs : FileSystem) (top : Path) (chain : List Text) (l : Location) : Prop :=
  ∃ first rest, chain = first ++ rest ∧ fs.find? (Path.joinAll top first) = some l

/-- At the top, only the directory of the search is open. -/
theorem open_nil_iff : Open fs top [] l ↔ fs.find? top = some l := by
  constructor
  · rintro ⟨first, rest, he, hl⟩
    rw [(List.append_eq_nil_iff.mp he.symm).1] at hl
    exact hl
  · exact fun hl => ⟨[], [], rfl, hl⟩

/-- One name further, what that name leads to is open besides what was open before. -/
theorem open_concat_iff :
    Open fs top (chain ++ [name]) l ↔ fs.find? (Path.joinAll top (chain ++ [name])) = some l ∨ Open fs top chain l := by
  constructor
  · rintro ⟨first, rest, he, hl⟩
    rcases List.eq_nil_or_concat' rest with rfl | ⟨rest, last, rfl⟩
    · rw [List.append_nil] at he
      rw [he]
      exact Or.inl hl
    · rw [← List.append_assoc] at he
      exact Or.inr ⟨first, rest, (List.append_inj' he rfl).1, hl⟩
  · rintro (hl | ⟨first, rest, rfl, hl⟩)
    · exact ⟨chain ++ [name], [], (List.append_nil _).symm, hl⟩
    · exact ⟨first, rest ++ [name], List.append_assoc _ _ _, hl⟩

/-- All that is open on the way to a directory that is entered are directories. -/
theorem Open.directory (htop : top ≠ []) (h : Entered fs exclude top chain here) (ho : Open fs top chain l) :
    fs.node? l = some .directory := by
  obtain ⟨first, rest, rfl, hl⟩ := ho
  obtain ⟨l', h'⟩ := h.of_append htop
  have he : l = l' := Option.some.inj (hl.symm.trans h'.find?)
  rw [he]
  exact h'.directory

/-! ## What is in the way -/

/-- Whether an entry blocks a search in the directory that a chain of names leads to, and with which fault. -/
inductive Blocked (fs : FileSystem) (exclude : List Text) (top : Path) (chain : List Text) (name : Text) :
    Node → Fault → Prop
  /-- A link leads nowhere, whatever its name. -/
  | astray {target : Path} : fs.find? (Path.join (Path.joinAll top chain) name) = none →
      Blocked fs exclude top chain name (.link target) (.unreachable (Path.join (Path.joinAll top chain) name))
  /-- A link leads back to an open directory, whatever its name. -/
  | loop {target : Path} {l : Location} : fs.find? (Path.join (Path.joinAll top chain) name) = some l →
      Open fs top chain l →
      Blocked fs exclude top chain name (.link target) (.linkLoop (Path.join (Path.joinAll top chain) name))
  /-- The path of a directory that is not excluded is longer than a path that is followed. -/
  | tooLong : name ∉ exclude → Path.lengthLimit < Text.byteLength (Path.join (Path.joinAll top chain) name) →
      Blocked fs exclude top chain name .directory (.unreachable (Path.join (Path.joinAll top chain) name))

/-- What is in the way of a search, with its fault: the path leads nowhere, or a directory that is entered has an entry that
blocks the search. -/
inductive Obstacle (fs : FileSystem) (exclude : List Text) (top : Path) : Fault → Prop
  | missing : fs.find? top = none → Obstacle fs exclude top .missing
  | blocked {chain : List Text} {here : Location} {name : Text} {node : Node} {fault : Fault} :
      Entered fs exclude top chain here → fs.node? (name :: here) = some node →
      Blocked fs exclude top chain name node fault → Obstacle fs exclude top fault

/-! ## Where a walk stands -/

/-- Where a walk stands: at a directory that is entered, with those that are open on the way to it. -/
structure Stands (fs : FileSystem) (exclude : List Text) (top : Path) (chain : List Text) (way : List Location)
    (here : Location) : Prop extends Entered fs exclude top chain here where
  mem_way : ∀ l, l ∈ way ↔ Open fs top chain l

namespace Stands

/-- A search starts at its directory, the only one that is open. -/
theorem of_find? (htop : fs.find? top = some l) (hd : fs.node? l = some .directory) :
    Stands fs exclude top [] [l] l := by
  refine ⟨⟨nofun, htop, hd⟩, fun l' => ?_⟩
  rw [List.mem_singleton, open_nil_iff, htop, Option.some.injEq]
  exact eq_comm

/-- A walk that enters a directory stands there with one more that is open. -/
theorem concat (h : Stands fs exclude top chain way here) (hn : Entered fs exclude top (chain ++ [name]) l) :
    Stands fs exclude top (chain ++ [name]) (l :: way) l := by
  refine ⟨hn, fun l' => ?_⟩
  rw [List.mem_cons, open_concat_iff, hn.find?, h.mem_way, Option.some.injEq, eq_comm]

/-- There are not more open directories than nodes below the root and the root itself. -/
theorem card_way_le (h : Stands fs exclude top chain way here) (htop : top ≠ []) :
    way.toFinset.card ≤ fs.nodes.length + 1 := by
  have hsub : way.toFinset ⊆ ([] :: fs.nodes.map Prod.fst).toFinset := by
    intro l hl
    have hd := ((h.mem_way l).mp (List.mem_toFinset.mp hl)).directory htop h.toEntered
    rw [List.mem_toFinset]
    cases l with
    | nil => exact List.mem_cons_self
    | cons name parent => exact List.mem_cons_of_mem _ (FileSystem.mem_locations_of_node? hd)
  calc way.toFinset.card
      ≤ ([] :: fs.nodes.map Prod.fst).toFinset.card := Finset.card_le_card hsub
    _ ≤ ([] :: fs.nodes.map Prod.fst).length := List.toFinset_card_le _
    _ = fs.nodes.length + 1 := by rw [List.length_cons, List.length_map]

end Stands

/-! ## What fails has met an obstacle -/

/-- A round fails at one of its visits. -/
theorem exists_visit_of_inOrder_error {visit : Text → Node → Except Fault (List Path)} {entries : List (Text × Node)}
    (h : inOrder visit entries = .error fault) : ∃ name node, (name, node) ∈ entries ∧ visit name node = .error fault := by
  induction entries with
  | nil => cases h
  | cons e rest ih =>
    obtain ⟨name, node⟩ := e
    rw [inOrder] at h
    cases hv : visit name node with
    | error fault' =>
      rw [hv] at h
      cases h
      exact ⟨name, node, List.mem_cons_self, hv⟩
    | ok first =>
      rw [hv] at h
      cases hr : inOrder visit rest with
      | ok others =>
        rw [hr] at h
        cases h
      | error fault' =>
        rw [hr] at h
        cases h
        obtain ⟨name', node', hm, hv'⟩ := ih hr
        exact ⟨name', node', List.mem_cons_of_mem _ hm, hv'⟩

/-- At an entry, a search fails because the entry blocks it, or fails below: in a directory that stands here, or in one that
a link opens. -/
theorem blocked_or_below (h : Stands fs exclude top chain way here) (hnode : fs.node? (name :: here) = some node)
    (he : entry fs exclude across down (Path.joinAll top chain) way here name node = .error fault) :
    Blocked fs exclude top chain name node fault ∨
      ∃ l, Stands fs exclude top (chain ++ [name]) (l :: way) l ∧
        (l = name :: here ∧ down (Path.joinAll top (chain ++ [name])) (l :: way) l = .error fault ∨
          l ∉ way ∧ across (Path.joinAll top (chain ++ [name])) (l :: way) l = .error fault) := by
  have hn := FileSystem.isEntryName_of_node? hnode
  rw [Path.joinAll_concat]
  cases node with
  | file content =>
    rw [entry_file] at he
    cases he
  | directory =>
    rw [entry_directory, FileSystem.has_join h.find? h.directory hnode rfl] at he
    split at he
    · cases he
    · rename_i hx
      have hx : name ∉ exclude := by simpa using hx
      split at he
      · rename_i hf
        have hl : fs.find? (Path.join (Path.joinAll top chain) name) = some (name :: here) := by
          rw [FileSystem.find?_join h.find? h.directory hnode rfl, if_pos hf]
        exact Or.inr ⟨_, h.concat (h.toEntered.concat hn hx hl hnode), Or.inl ⟨rfl, he⟩⟩
      · rename_i hf
        cases he
        exact Or.inl (.tooLong hx (Nat.lt_of_not_le (mt (h.isFollowed_join hn).mpr hf)))
  | link target =>
    rw [entry_link] at he
    split at he
    · rename_i hl
      cases he
      exact Or.inl (.astray hl)
    · rename_i l hl
      split at he
      · rename_i hd
        split at he
        · rename_i hm
          cases he
          exact Or.inl (.loop hl ((h.mem_way l).mp hm))
        · rename_i hm
          split at he
          · cases he
          · rename_i hx
            have hx : name ∉ exclude := by simpa using hx
            exact Or.inr ⟨l, h.concat (h.toEntered.concat hn hx hl hd), Or.inr ⟨hm, he⟩⟩
      · cases he

/-- Whether a way to walk a directory fails only at obstacles, where so many links and the directories that are open make up
more than there are directories. -/
def FailsAtObstacles (fs : FileSystem) (exclude : List Text) (top : Path) (links : Nat) (walk : Walk) : Prop :=
  ∀ chain way here fault, Stands fs exclude top chain way here → fs.nodes.length + 1 < way.toFinset.card + links →
    walk (Path.joinAll top chain) way here = .error fault → Obstacle fs exclude top fault

/-- A walk down that fails has met an obstacle if the walk across its links fails only at obstacles. -/
theorem obstacle_of_walkDown (ha : FailsAtObstacles fs exclude top links across)
    (h : Stands fs exclude top chain way here) (hlinks : fs.nodes.length < way.toFinset.card + links)
    (hdepth : fs.nodes.length < depth + here.length)
    (hw : walkDown fs exclude across depth (Path.joinAll top chain) way here = .error fault) :
    Obstacle fs exclude top fault := by
  induction depth generalizing chain way here with
  | zero =>
    have hle := FileSystem.length_le_nodes h.directory
    omega
  | succ depth ih =>
    obtain ⟨name, node, hm, he⟩ := exists_visit_of_inOrder_error hw
    have hnode := (FileSystem.mem_entries _ _ _ _).mp hm
    rcases blocked_or_below h hnode he with hb | ⟨l, hl, ⟨rfl, hdown⟩ | ⟨hnew, hacross⟩⟩
    · exact .blocked h.toEntered hnode hb
    · have hcard : way.toFinset.card ≤ ((name :: here) :: way).toFinset.card := by
        rw [List.toFinset_cons]
        exact Finset.card_le_card (Finset.subset_insert _ _)
      refine ih hl (by omega) ?_ hdown
      rw [List.length_cons]
      omega
    · have hcard : (l :: way).toFinset.card = way.toFinset.card + 1 := by
        rw [List.toFinset_cons, Finset.card_insert_of_notMem (mt List.mem_toFinset.mp hnew)]
      exact ha _ _ _ _ hl (by omega) hacross

/-- A walk fails only at obstacles, whatever number of links it may follow. -/
theorem failsAtObstacles_walk (htop : top ≠ []) (links : Nat) :
    FailsAtObstacles fs exclude top links (walk fs exclude links) := by
  have hdepth (l : Location) : fs.nodes.length < fs.nodes.length + 1 + l.length := by omega
  induction links with
  | zero =>
    intro chain way here fault h hlinks
    have hle := h.card_way_le htop
    omega
  | succ links ih =>
    intro chain way here fault h hlinks hw
    exact obstacle_of_walkDown ih h (by omega) (hdepth here) hw

/-- A search that fails has met an obstacle that has the fault of the search. -/
theorem obstacle_of_met (h : met fs exclude top = .error fault) : Obstacle fs exclude top fault := by
  rw [met] at h
  split at h
  · rename_i htop
    cases h
    exact .missing htop
  · rename_i l htop
    split at h
    · rename_i hd
      have hstands : Stands fs exclude top [] [l] l := .of_find? htop hd
      refine failsAtObstacles_walk (FileSystem.ne_nil_of_find? htop) _ [] [l] l fault hstands ?_ h
      rw [List.toFinset_cons, List.toFinset_nil, Finset.card_insert_of_notMem (Finset.notMem_empty _), Finset.card_empty]
      omega
    · cases h

/-! ## What comes to an end has met none -/

/-- At an entry that is passed, nothing blocks the search. -/
theorem not_blocked_of_entry (htop : top ≠ []) (h : Stands fs exclude top chain way here)
    (hnode : fs.node? (name :: here) = some node)
    (he : entry fs exclude across down (Path.joinAll top chain) way here name node = .ok found) :
    ¬Blocked fs exclude top chain name node fault := by
  rintro (hl | ⟨hl, ho⟩ | ⟨hx, hf⟩)
  · rw [entry_link, hl] at he
    cases he
  · rw [entry_link, hl] at he
    simp only [if_pos (ho.directory htop h.toEntered), if_pos ((h.mem_way _).mpr ho)] at he
    cases he
  · have hc : ¬exclude.contains name = true := by simpa using hx
    have hf := mt (h.isFollowed_join (FileSystem.isEntryName_of_node? hnode)).mp (Nat.not_le_of_lt hf)
    rw [entry_directory, if_neg hc, FileSystem.has_join h.find? h.directory hnode rfl, if_neg hf] at he
    cases he

/-- A directory that is entered at an entry that is passed is walked to the end. -/
theorem walks_of_entry (h : Stands fs exclude top chain way here) (hn : Entered fs exclude top (chain ++ [name]) l)
    (hnode : fs.node? (name :: here) = some node)
    (he : entry fs exclude across down (Path.joinAll top chain) way here name node = .ok found) :
    ∃ walk, (walk = down ∨ walk = across) ∧ walk (Path.joinAll top (chain ++ [name])) (l :: way) l = .ok found := by
  have hl := hn.find?
  have hc : ¬exclude.contains name = true := by simpa using (hn.kept name (by simp)).2
  rw [Path.joinAll_concat] at hl ⊢
  cases node with
  | file content =>
    rw [FileSystem.find?_join h.find? h.directory hnode rfl] at hl
    split at hl
    · cases hl
      cases hnode.symm.trans hn.directory
    · cases hl
  | directory =>
    have hl' := hl
    rw [FileSystem.find?_join h.find? h.directory hnode rfl] at hl'
    split at hl'
    · rename_i hf
      cases hl'
      rw [entry_directory, if_neg hc, FileSystem.has_join h.find? h.directory hnode rfl, if_pos hf] at he
      exact ⟨down, Or.inl rfl, he⟩
    · cases hl'
  | link target =>
    rw [entry_link, hl] at he
    simp only [if_pos hn.directory, if_neg hc] at he
    split at he
    · cases he
    · exact ⟨across, Or.inr rfl, he⟩

/-- Whether a way to walk a directory comes to an end only if nothing blocks it in a directory that is entered by way of the
one where it stands. -/
def MeetsNoObstacle (fs : FileSystem) (exclude : List Text) (top : Path) (walk : Walk) : Prop :=
  ∀ chain way here found, Stands fs exclude top chain way here → walk (Path.joinAll top chain) way here = .ok found →
    ∀ more below name node fault, Entered fs exclude top (chain ++ more) below →
      fs.node? (name :: below) = some node → ¬Blocked fs exclude top (chain ++ more) name node fault

theorem meetsNoObstacle_error (fault : Fault) : MeetsNoObstacle fs exclude top fun _ _ _ => .error fault := by
  intro chain way here found _ h
  cases h

/-- A walk down that comes to an end has met no obstacle if those across its links have met none. -/
theorem meetsNoObstacle_walkDown (htop : top ≠ []) (ha : MeetsNoObstacle fs exclude top across) (depth : Nat) :
    MeetsNoObstacle fs exclude top (walkDown fs exclude across depth) := by
  induction depth with
  | zero => exact meetsNoObstacle_error _
  | succ depth ih =>
    intro chain way here found h hw more below name node fault hbelow hnode
    cases more with
    | nil =>
      rw [List.append_nil] at hbelow ⊢
      cases h.find?.symm.trans hbelow.find?
      obtain ⟨first, he, -⟩ := visit_of_inOrder hw ((FileSystem.mem_entries _ _ _ _).mpr hnode)
      exact not_blocked_of_entry htop h hnode he
    | cons next more =>
      rw [List.append_cons] at hbelow ⊢
      obtain ⟨l, hl⟩ := hbelow.of_append htop
      have hnext := (hl.kept next (by simp)).1
      have hfind := hl.find?
      rw [Path.joinAll_concat] at hfind
      obtain ⟨node', hnode'⟩ := exists_node_of_find?_join h.find? h.directory hnext hfind
      obtain ⟨first, he, -⟩ := visit_of_inOrder hw ((FileSystem.mem_entries _ _ _ _).mpr hnode')
      obtain ⟨walk, rfl | rfl, hwalk⟩ := walks_of_entry h hl hnode' he
      · exact ih _ _ _ _ (h.concat hl) hwalk more below name node fault hbelow hnode
      · exact ha _ _ _ _ (h.concat hl) hwalk more below name node fault hbelow hnode

/-- A walk that comes to an end has met no obstacle. -/
theorem meetsNoObstacle_walk (htop : top ≠ []) (links : Nat) :
    MeetsNoObstacle fs exclude top (walk fs exclude links) := by
  induction links with
  | zero => exact meetsNoObstacle_walkDown htop (meetsNoObstacle_error _) _
  | succ links ih => exact meetsNoObstacle_walkDown htop ih _

/-- Where a search comes to an end, there is no obstacle. -/
theorem not_obstacle_of_met (h : met fs exclude top = .ok found) : ¬Obstacle fs exclude top fault := by
  rw [met] at h
  rintro (hmissing | ⟨hentered, hnode, hblocked⟩)
  · rw [hmissing] at h
    cases h
  · split at h
    · cases h
    · rename_i l htop
      have hne := FileSystem.ne_nil_of_find? htop
      obtain ⟨l', hl'⟩ : ∃ l', Entered fs exclude top [] l' := hentered.of_append hne
      cases htop.symm.trans hl'.find?
      rw [if_pos hl'.directory] at h
      have hstands : Stands fs exclude top [] [l] l := .of_find? htop hl'.directory
      exact meetsNoObstacle_walk hne _ [] [l] l found hstands h _ _ _ _ _ hentered hnode hblocked

/-! ## The outcome of a search -/

/-- The sorted search fails as the search does. -/
theorem manifests_eq_error_iff (fs : FileSystem) (exclude : List Text) (top : Path) (fault : Fault) :
    manifests fs exclude top = .error fault ↔ met fs exclude top = .error fault := by
  rw [manifests]
  cases met fs exclude top with
  | error fault' => rfl
  | ok found =>
    refine iff_of_false (fun h => ?_) fun h => ?_
    · cases h
    · cases h

/-- Every search comes to an end, and none is too deep. It fails exactly if there is an obstacle: its path leads nowhere, or a
directory that is entered, by names of which none is excluded, has an entry that blocks it. That is a link, of whatever name,
that leads nowhere or back to a directory that is open on the way to it; or a directory that is not excluded and has a path
too long to be followed. The fault that is reported is the fault of an obstacle. -/
theorem manifests_error_iff (fs : FileSystem) (exclude : List Text) (top : Path) :
    manifests fs exclude top ≠ .error .tooDeep ∧
    (∀ fault, manifests fs exclude top = .error fault → Obstacle fs exclude top fault) ∧
    ((∃ fault, manifests fs exclude top = .error fault) ↔ ∃ fault, Obstacle fs exclude top fault) := by
  have hfault : ∀ fault, manifests fs exclude top = .error fault → Obstacle fs exclude top fault :=
    fun fault h => obstacle_of_met ((manifests_eq_error_iff fs exclude top fault).mp h)
  refine ⟨fun h => ?_, hfault, fun ⟨fault, h⟩ => ⟨fault, hfault fault h⟩, fun ⟨fault, ho⟩ => ?_⟩
  · cases hfault _ h with
    | blocked _ _ hb => cases hb
  · cases hm : manifests fs exclude top with
    | error fault' => exact ⟨fault', rfl⟩
    | ok found => exact absurd ho (not_obstacle_of_met (manifests_eq_met hm))

/-- A path to the directory `models` with as many slashes at its end as a path may have. -/
def longPath : Path := "models".toList ++ List.replicate (Path.lengthLimit - 6) '/'

/-- A directory in the directory `models`, and nothing else there. -/
def nested : FileSystem :=
  putAll (FileSystem.empty "work".toList) [(["work".toList], "models".toList, .directory), (models, "sub".toList, .directory)]

theorem byteLength_slashes (n : Nat) : Text.byteLength (List.replicate n '/') = n := by
  induction n with
  | zero => rfl
  | succ n ih => rw [List.replicate_succ, Text.byteLength, ih, show Char.utf8Size '/' = 1 from rfl, Nat.add_comm]

theorem byteLength_longPath : Text.byteLength longPath = Path.lengthLimit := by
  delta longPath
  rw [Text.byteLength_append, byteLength_slashes]
  rfl

/-- The long path leads to the directory `models`. -/
theorem find?_longPath : nested.find? longPath = some models := by
  have hletters : "models".toList = 'm' :: "odels".toList := by decide
  have hfollowed : Path.isFollowed longPath = true := by
    have hzero : '\x00' ∉ longPath := by
      delta longPath
      rw [List.mem_append, List.mem_replicate]
      exact not_or.mpr ⟨by decide, fun h => absurd h.2 (by decide)⟩
    simp [Path.isFollowed, byteLength_longPath, hzero]
  have hstart : FileSystem.startOf longPath nested.workDir = nested.workDir := by
    delta longPath
    rw [hletters]
    rfl
  have hparts : Path.parts longPath = ["models".toList] := by
    delta longPath
    rw [Path.parts_append_slashes]
    decide
  refine (FileSystem.find?_eq_some_iff _ _ _).mpr ((FileSystem.locateParts_eq_ok_iff _ _ _ _ _).mpr ?_)
  rw [hstart]
  refine ⟨hfollowed, ?_, by decide +kernel, ?_⟩
  · delta longPath
    rw [hletters]
    exact List.cons_ne_nil _ _
  rw [FileSystem.walk_partsToDirectory (by decide +kernel) (by decide +kernel), hparts]
  decide +kernel

/-- A search can fail where its path leads to a directory and there is no link at all: the path of a directory in that
directory is too long. -/
theorem nested_unreachable : ¬∀ (fs : FileSystem) (exclude : List Text) (top : Path),
    ((∃ fault, manifests fs exclude top = .error fault) ↔
      fs.find? top = none ∨ ∃ chain here name target, Entered fs exclude top chain here ∧
        fs.node? (name :: here) = some (.link target) ∧
        (fs.find? (Path.join (Path.joinAll top chain) name) = none ∨
          ∃ l, fs.find? (Path.join (Path.joinAll top chain) name) = some l ∧ Open fs top chain l)) := by
  intro h
  have hlinks : nested.LinkFree := by decide +kernel
  have hentered : Entered nested [] longPath [] models := ⟨nofun, find?_longPath, by decide +kernel⟩
  have hlong : Path.lengthLimit < Text.byteLength (Path.join longPath "sub".toList) := by
    rw [Path.join]
    split
    · rw [Text.byteLength_append, byteLength_longPath]
      decide
    · rw [Text.byteLength_append, byteLength_longPath]
      decide
  have hobstacle : Obstacle nested [] longPath (.unreachable (Path.join longPath "sub".toList)) :=
    .blocked hentered (show nested.node? ("sub".toList :: models) = some .directory by decide +kernel)
      (.tooLong List.not_mem_nil hlong)
  cases hm : manifests nested [] longPath with
  | ok found => exact not_obstacle_of_met (manifests_eq_met hm) hobstacle
  | error fault =>
    rcases (h nested [] longPath).mp ⟨fault, hm⟩ with htop | ⟨chain, here, name, target, -, hnode, -⟩
    · cases htop.symm.trans find?_longPath
    · exact hlinks _ _ hnode

end ModelStubs.Search
