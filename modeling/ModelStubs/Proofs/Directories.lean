import ModelStubs.Proofs.Config

/-!
# The directories of targets

Making directories adds directories where its paths lead and changes nothing else, whether it comes to an end or fails on the
way (`madeAt_createAlong`), so what was led to before is led to afterwards (`MoreDirectories.find?`). A directory that
could be made is there, where its path leads (`hasDirectory_of_createDirectories`). So after a configuration is loaded, every
target has something for its directory. It is a directory, unless a file stood there before: what is there already is taken
for what is wanted (`load_parents`).
-/

namespace ModelStubs

namespace FileSystem

variable {fs mid after : FileSystem} {n : Nat} {here l parent : Location} {name : Text} {rest : List Text} {place : Place}
  {p : Path} {node : Node}

/-! ## More directories -/

/-- `after` is `fs` with directories where nothing was, and nothing else. -/
structure MoreDirectories (fs after : FileSystem) : Prop where
  workDir : after.workDir = fs.workDir
  node? : ∀ l, after.node? l = fs.node? l ∨ fs.node? l = none ∧ after.node? l = some .directory

namespace MoreDirectories

theorem refl (fs : FileSystem) : MoreDirectories fs fs := ⟨rfl, fun _ => Or.inl rfl⟩

theorem trans (h : MoreDirectories fs mid) (h' : MoreDirectories mid after) : MoreDirectories fs after := by
  refine ⟨h'.workDir.trans h.workDir, fun l => ?_⟩
  rcases h.node? l with he | ⟨hnone, hd⟩ <;> rcases h'.node? l with he' | ⟨hnone', hd'⟩
  · exact Or.inl (he'.trans he)
  · exact Or.inr ⟨he.symm.trans hnone', hd'⟩
  · exact Or.inr ⟨hnone, he'.trans hd⟩
  · cases hd.symm.trans hnone'

/-- What is there stays. -/
theorem node?_of_eq_some (h : MoreDirectories fs after) (hn : fs.node? l = some node) : after.node? l = some node := by
  rcases h.node? l with he | ⟨hnone, -⟩
  · rw [he, hn]
  · cases hn.symm.trans hnone

/-- What is there and is no directory was there. -/
theorem node?_of_ne_directory (h : MoreDirectories fs after) (hn : after.node? l = some node) (hd : node ≠ .directory) :
    fs.node? l = some node := by
  rcases h.node? l with he | ⟨-, hdir⟩
  · rw [← he, hn]
  · exact absurd (Option.some.inj (hn.symm.trans hdir)) hd

/-- A way leads to the same location, if something is there now. What is there now and was not can only be a new directory. -/
theorem route (h : MoreDirectories fs after) (hr : Route fs n here rest place)
    (hs : (after.node? place.location).isSome = true) : Route after n here rest (.found place.location) := by
  induction hr with
  | here => exact .here
  | dot _ ih => exact .dot (ih hs)
  | dots _ ih => exact .dots (ih hs)
  | enter hnode _ ih => exact .enter (h.node?_of_eq_some hnode) (ih hs)
  | follow hnode _ ih => exact .follow (h.node?_of_eq_some hnode) (ih hs)
  | file hnode => exact .file (h.node?_of_eq_some hnode)
  | @vacant n here name _ hnode =>
    rcases h.node? (name :: here) with he | ⟨-, hdir⟩
    · rw [Place.location, he, hnode] at hs
      cases hs
    · exact .enter hdir .here

/-- A path keeps leading to what it led to. -/
theorem find? (h : MoreDirectories fs after) (hp : fs.find? p = some l) : after.find? p = some l := by
  have hlocate := (find?_eq_some_iff fs p l).mp hp
  obtain ⟨hf, hne, hd, hw⟩ := (locateParts_eq_ok_iff fs true p _ _).mp hlocate
  obtain ⟨node, hnode, -⟩ := isLink_of_find? hp
  have hroute := h.route (route_of_walk hw) (by rw [Place.location, h.node?_of_eq_some hnode]; rfl)
  refine (find?_eq_some_iff after p l).mpr ((locateParts_eq_ok_iff after true p _ _).mpr ?_)
  rw [h.workDir]
  exact ⟨hf, hne, h.node?_of_eq_some hd, hroute.walk_eq⟩

end MoreDirectories

/-- Something is at a path if the path leads to a location and a node is there. -/
theorem has_iff (fs : FileSystem) (p : Path) : fs.has p = true ↔ ∃ l node, fs.find? p = some l ∧ fs.node? l = some node := by
  rw [has, lookup?, Option.isSome_iff_exists]
  constructor
  · rintro ⟨node, h⟩
    obtain ⟨l, hl, hn⟩ := Option.bind_eq_some_iff.mp h
    exact ⟨l, node, hl, hn⟩
  · rintro ⟨l, node, hl, hn⟩
    exact ⟨node, Option.bind_eq_some_iff.mpr ⟨l, hl, hn⟩⟩

/-- A directory is at a path if the path leads to its location. -/
theorem hasDirectory_iff (fs : FileSystem) (p : Path) :
    fs.hasDirectory p = true ↔ ∃ l, fs.find? p = some l ∧ fs.node? l = some .directory := by
  rw [hasDirectory, decide_eq_true_iff, lookup?, Option.bind_eq_some_iff]

/-- Where a directory is, something is. -/
theorem has_of_hasDirectory (h : fs.hasDirectory p = true) : fs.has p = true := by
  obtain ⟨l, hl, hn⟩ := (hasDirectory_iff fs p).mp h
  exact (has_iff fs p).mpr ⟨l, _, hl, hn⟩

/-- What was at a path is still there. -/
theorem MoreDirectories.has (h : MoreDirectories fs after) (hp : fs.has p = true) : after.has p = true := by
  obtain ⟨l, node, hl, hn⟩ := (has_iff fs p).mp hp
  exact (has_iff after p).mpr ⟨l, node, h.find? hl, h.node?_of_eq_some hn⟩

/-- A directory at a path is still there. -/
theorem MoreDirectories.hasDirectory (h : MoreDirectories fs after) (hp : fs.hasDirectory p = true) :
    after.hasDirectory p = true := by
  obtain ⟨l, hl, hd⟩ := (hasDirectory_iff fs p).mp hp
  exact (hasDirectory_iff after p).mpr ⟨l, h.find? hl, h.node?_of_eq_some hd⟩

/-- `after` is `fs` with more directories, each where one of the paths leads, and nothing else. -/
structure MadeAt (ps : List Path) (fs after : FileSystem) : Prop extends MoreDirectories fs after where
  found : ∀ l, fs.node? l = none → after.node? l = some .directory → ∃ p ∈ ps, after.find? p = some l

namespace MadeAt

variable {ps qs : List Path}

theorem refl (ps : List Path) (fs : FileSystem) : MadeAt ps fs fs where
  toMoreDirectories := .refl fs
  found := fun _ hnone hd => nomatch hnone.symm.trans hd

theorem trans (h : MadeAt ps fs mid) (h' : MadeAt ps mid after) : MadeAt ps fs after where
  toMoreDirectories := h.toMoreDirectories.trans h'.toMoreDirectories
  found := by
    intro l hnone hd
    rcases h.node? l with he | ⟨-, hmid⟩
    · exact h'.found l (he.trans hnone) hd
    · obtain ⟨p, hp, hl⟩ := h.found l hnone hmid
      exact ⟨p, hp, h'.toMoreDirectories.find? hl⟩

/-- What is made at some paths is made at more. -/
theorem mono (h : MadeAt ps fs after) (hs : ps ⊆ qs) : MadeAt qs fs after where
  toMoreDirectories := h.toMoreDirectories
  found := fun l hnone hd => (h.found l hnone hd).imp fun _ hp => ⟨hs hp.1, hp.2⟩

end MadeAt

/-! ## Making one directory -/

/-- A way that leads to a free place with its last link not followed has no last link. -/
theorem descend_of_vacant {follow follow' : Path → Location → List Text → Except FileFault Place}
    (hfollow : ∀ target here rest, follow target here rest = .ok (.vacant parent name) →
      follow' target here rest = .ok (.vacant parent name))
    (h : descend fs false follow here rest = .ok (.vacant parent name)) :
    descend fs true follow' here rest = .ok (.vacant parent name) := by
  induction rest generalizing here with
  | nil => cases h
  | cons part rest ih =>
    rw [descend] at h ⊢
    split at h
    · rename_i hdot
      rw [if_pos hdot]
      exact ih h
    · rename_i hdot
      rw [if_neg hdot]
      split at h
      · rename_i hdots
        rw [if_pos hdots]
        exact ih h
      · rename_i hdots
        rw [if_neg hdots]
        split at h
        · rename_i hn
          rw [if_pos hn]
          split at h
          · exact ih h
          · exact h
          · split at h
            · cases h
            · rw [if_neg (by simp)]
              exact hfollow _ _ _ h
          · exact h
        · cases h

/-- A way that ends at a free place without its last link ends there with it. -/
theorem walk_of_vacant (h : walk fs false n here rest = .ok (.vacant parent name)) :
    walk fs true n here rest = .ok (.vacant parent name) := by
  induction n generalizing here rest with
  | zero =>
    rw [walk] at h ⊢
    exact descend_of_vacant (fun _ _ _ hw => hw) h
  | succ n ih => exact descend_of_vacant (fun _ _ _ hw => ih hw) h

/-- Putting a directory where nothing is makes one more, there and nowhere else. -/
theorem moreDirectories_put (hd : fs.node? parent = some .directory) (hv : fs.node? (name :: parent) = none)
    (hn : isEntryName name = true) :
    MoreDirectories fs (fs.put parent name .directory) ∧
      (fs.put parent name .directory).node? (name :: parent) = some .directory ∧
      ∀ l, fs.node? l = none → (fs.put parent name .directory).node? l = some .directory → l = name :: parent := by
  have hput := node?_put hn hd (by rw [hv]; nofun) .directory
  refine ⟨⟨workDir_put _ _ _ _, fun l => ?_⟩, by rw [hput, if_pos rfl], fun l hnone hdir => ?_⟩
  · rw [hput]
    split
    · rename_i he
      rw [he]
      exact Or.inr ⟨hv, rfl⟩
    · exact Or.inl rfl
  · rw [hput] at hdir
    split at hdir
    · assumption
    · cases hnone.symm.trans hdir

/-- A directory that was made is there, where its path leads. -/
theorem madeAt_of_createDirectory (h : fs.createDirectory p = .ok after) :
    MadeAt [p] fs after ∧ after.hasDirectory p = true := by
  rw [createDirectory] at h
  split at h
  · cases h
  · cases h
  · rename_i parent name hp
    cases h
    obtain ⟨hf, hne, hd, hw⟩ := (locateParts_eq_ok_iff fs false p _ _).mp hp
    have hroute := route_of_walk (walk_of_vacant hw)
    cases hroute.settled hd with
    | vacant hparent hv hn =>
      obtain ⟨hmore, hdir, honly⟩ := moreDirectories_put hparent hv hn
      have hstart := hmore.node?_of_eq_some hd
      have hroute' := hmore.route hroute (by rw [Place.location, hdir]; rfl)
      have hfind : (fs.put parent name .directory).find? p = some (name :: parent) := by
        refine (find?_eq_some_iff _ _ _).mpr ((locateParts_eq_ok_iff _ true p _ _).mpr ?_)
        rw [hmore.workDir]
        exact ⟨hf, hne, hstart, (walk_partsToDirectory hdir hstart).mpr hroute'.walk_eq⟩
      refine ⟨⟨hmore, fun l hnone hd => ⟨p, List.mem_cons_self, ?_⟩⟩, (hasDirectory_iff _ _).mpr ⟨_, hfind, hdir⟩⟩
      rw [honly l hnone hd, hfind]

/-- A directory is made at a path if there was none, and is there then. -/
theorem madeAt_of_ensureDirectory (h : fs.ensureDirectory p = .ok after) :
    MadeAt [p] fs after ∧ after.hasDirectory p = true := by
  rw [ensureDirectory] at h
  split at h
  · split at h
    · rename_i hp
      cases h
      exact ⟨.refl [p] fs, hp⟩
    · cases h
  · exact madeAt_of_createDirectory h

/-! ## Making a directory with those on the way to it -/

/-- Directories that are made along the paths are all that changes, also if making them fails. -/
theorem madeAt_createAlong (fs : FileSystem) (ps : List Path) : MadeAt ps fs (createAlong fs ps).2 := by
  induction ps generalizing fs with
  | nil => exact .refl [] fs
  | cons p outer ih =>
    have hfirst : ∀ {mid after : FileSystem}, mid.ensureDirectory p = .ok after → MadeAt (p :: outer) mid after :=
      fun he => (madeAt_of_ensureDirectory he).1.mono (List.cons_subset_cons p (List.nil_subset outer))
    rw [createAlong]
    split
    · rename_i after he
      exact hfirst he
    · have houter := (ih fs).mono (List.subset_cons_self p outer)
      split
      · rename_i fault after ho
        rw [ho] at houter
        exact houter
      · rename_i after ho
        rw [ho] at houter
        split
        · rename_i final he
          exact houter.trans (hfirst he)
        · exact houter
    · exact .refl _ fs

/-- When making directories along a list succeeds, the first of the list is there. -/
theorem hasDirectory_of_createAlong {outer : List Path} (h : createAlong fs (p :: outer) = (.ok (), after)) :
    after.hasDirectory p = true := by
  rw [createAlong] at h
  split at h
  · rename_i after' he
    cases h
    exact (madeAt_of_ensureDirectory he).2
  · split at h
    · cases h
    · split at h
      · rename_i final he
        cases h
        exact (madeAt_of_ensureDirectory he).2
      · cases h
  · cases h

end FileSystem

/-! ## The directories of paths -/

namespace Path

/-- What says nothing at the end of a path comes off once and for all. -/
theorem trimBackwards_trimBackwards (t : Text) : trimBackwards (trimBackwards t) = trimBackwards t := by
  fun_induction trimBackwards t with
  | case1 => rfl
  | case2 rest h ih => exact ih
  | case3 => rfl
  | case4 rest h ih => exact ih
  | case5 t hslash hdot =>
    rw [trimBackwards]
    · exact hslash
    · exact hdot

/-- A path that another stands in, and that stands in none itself, is the root or empty. -/
theorem eq_root_of_parent?_eq_none {p dir : Path} (h : parent? p = some dir) (hd : parent? dir = none) :
    dir = [] ∨ dir = ['/'] := by
  obtain ⟨⟨last, before⟩, -, he⟩ := Option.map_eq_some_iff.mp h
  replace he : (trimBackwards before).reverse = dir := he
  rw [← he, parent?, Option.map_eq_none_iff, splitLast?, List.reverse_reverse, trimBackwards_trimBackwards] at hd
  split at hd
  · rename_i ht
    rcases ht with ht | ht
    · exact Or.inl (by rw [← he, ht]; rfl)
    · exact Or.inr (by rw [← he, ht]; rfl)
  · cases hd

/-- A path that stands in another is the first of those to be made for it. -/
theorem withParents_of_parent? {p outer : Path} (h : parent? p = some outer) :
    ∃ others, withParents p = p :: others := by
  cases p with
  | nil => cases h
  | cons c p =>
    refine ⟨withParents.go p.length outer, ?_⟩
    rw [withParents, List.length_cons, withParents.go, h]

end Path

namespace FileSystem

variable {fs after : FileSystem} {p dir : Path}

/-- The root is always there. -/
theorem has_root (fs : FileSystem) : fs.has ['/'] = true := rfl

/-- What is made for a path is directories, at the path and at those that it stands in. -/
theorem madeAt_of_createDirectories {result : Except FileFault Unit} (h : fs.createDirectories p = (result, after)) :
    MadeAt (Path.withParents p) fs after := by
  have hmade := madeAt_createAlong fs (Path.withParents p)
  rw [createDirectories] at h
  rw [h] at hmade
  exact hmade

/-- Where the directory of a path is not there and can be made, it is there afterwards. -/
theorem hasDirectory_of_createDirectories (hp : Path.parent? p = some dir) (hne : dir ≠ []) (hh : fs.has dir = false)
    (h : fs.createDirectories dir = (.ok (), after)) : after.hasDirectory dir = true := by
  cases hd : Path.parent? dir with
  | none =>
    rcases Path.eq_root_of_parent?_eq_none hp hd with hnil | hroot
    · exact absurd hnil hne
    · rw [hroot, has_root] at hh
      cases hh
  | some outer =>
    obtain ⟨others, hw⟩ := Path.withParents_of_parent? hd
    rw [createDirectories, hw] at h
    exact hasDirectory_of_createAlong h

end FileSystem

/-! ## Loading -/

namespace Config

open FileSystem (MadeAt MoreDirectories)

variable {fs mid after : FileSystem} {targets : List Path} {target dir : Path} {p : Path} {config : Config}

/-- Whether something is where a directory is wanted: a directory, or a file of before. -/
def Placed (fs after : FileSystem) (dir : Path) : Prop :=
  after.hasDirectory dir = true ∨
    ∃ l content, after.find? dir = some l ∧ fs.node? l = some (.file content) ∧ after.node? l = some (.file content)

/-- What is done for one target: nothing, if it stands in no directory or in one that is there; else its directory is made,
and the targets after it follow, or that fails and ends everything. -/
theorem makeTargetDirs_cases (target : Path) (rest : List Path) (fs : FileSystem) :
    ((∀ dir, Path.parent? target = some dir → dir = [] ∨ fs.has dir = true) ∧
        makeTargetDirs (target :: rest) fs = makeTargetDirs rest fs) ∨
      ∃ dir, Path.parent? target = some dir ∧ dir ≠ [] ∧ fs.has dir = false ∧
        ((∃ mid, fs.createDirectories dir = (.ok (), mid) ∧ makeTargetDirs (target :: rest) fs = makeTargetDirs rest mid) ∨
          ∃ fault mid, fs.createDirectories dir = (.error fault, mid) ∧
            makeTargetDirs (target :: rest) fs = (.error (.targetDirNotMade dir), mid)) := by
  rw [makeTargetDirs]
  cases hp : Path.parent? target with
  | none =>
    refine Or.inl ⟨fun dir he => ?_, rfl⟩
    cases he
  | some dir =>
    by_cases hd : dir = [] ∨ fs.has dir = true
    · refine Or.inl ⟨fun dir' he => ?_, if_pos hd⟩
      rw [← Option.some.inj he]
      exact hd
    · obtain ⟨hne, hh⟩ := not_or.mp hd
      refine Or.inr ⟨dir, rfl, hne, by simpa using hh, ?_⟩
      simp only [if_neg hd]
      rcases fs.createDirectories dir with ⟨result, mid⟩
      cases result with
      | ok => exact Or.inl ⟨mid, rfl, rfl⟩
      | error fault => exact Or.inr ⟨fault, mid, rfl, rfl⟩

/-- The directories that targets stand in, each with the paths that it stands in itself. -/
def dirsOf (targets : List Path) : List Path := (targets.filterMap Path.parent?).flatMap Path.withParents

/-- A directory is to be made for targets if one of them stands in it, or in a directory that stands in it. -/
theorem mem_dirsOf :
    p ∈ dirsOf targets ↔ ∃ target ∈ targets, ∃ dir, Path.parent? target = some dir ∧ p ∈ Path.withParents dir := by
  simp only [dirsOf, List.mem_flatMap, List.mem_filterMap]
  constructor
  · rintro ⟨dir, ⟨target, ht, hd⟩, hp⟩
    exact ⟨target, ht, dir, hd, hp⟩
  · rintro ⟨target, ht, dir, hd, hp⟩
    exact ⟨dir, ⟨target, ht, hd⟩, hp⟩

/-- For more targets there are more directories to be made. -/
theorem dirsOf_subset {others : List Path} (h : targets ⊆ others) : dirsOf targets ⊆ dirsOf others := by
  intro p hp
  obtain ⟨target, ht, hd⟩ := mem_dirsOf.mp hp
  exact mem_dirsOf.mpr ⟨target, h ht, hd⟩

/-- What is made for the directory of a target. -/
theorem madeAt_of_target {result : Except FileFault Unit} (hc : fs.createDirectories dir = (result, after))
    (ht : target ∈ targets) (hp : Path.parent? target = some dir) : MadeAt (dirsOf targets) fs after :=
  (FileSystem.madeAt_of_createDirectories hc).mono fun _ hm => mem_dirsOf.mpr ⟨target, ht, dir, hp, hm⟩

/-- What is made for targets are their directories, also when it comes to a stop. -/
theorem madeAt_of_makeTargetDirs {result : Except Failure Unit} (h : makeTargetDirs targets fs = (result, after)) :
    MadeAt (dirsOf targets) fs after := by
  induction targets generalizing fs with
  | nil =>
    cases h
    exact .refl _ _
  | cons target rest ih =>
    have hrest := dirsOf_subset (List.subset_cons_self target rest)
    rcases makeTargetDirs_cases target rest fs with ⟨-, he⟩ | ⟨dir, hp, -, -, ⟨mid, hc, he⟩ | ⟨fault, mid, hc, he⟩⟩
    · exact (ih (he.symm.trans h)).mono hrest
    · exact (madeAt_of_target hc List.mem_cons_self hp).trans ((ih (he.symm.trans h)).mono hrest)
    · cases he.symm.trans h
      exact madeAt_of_target hc List.mem_cons_self hp

/-- What is there when a target is looked at is a directory, or a file of before. -/
theorem placed_of_has (h : MoreDirectories fs after) (hd : fs.has dir = true) : Placed fs after dir := by
  obtain ⟨l, -, hl, -⟩ := (FileSystem.has_iff fs dir).mp hd
  obtain ⟨node, hnode, hlink⟩ := FileSystem.isLink_of_find? hl
  have hafter := h.node?_of_eq_some hnode
  cases node with
  | directory => exact Or.inl ((FileSystem.hasDirectory_iff _ _).mpr ⟨l, h.find? hl, hafter⟩)
  | file content => exact Or.inr ⟨l, content, h.find? hl, hnode, hafter⟩
  | link path => cases hlink

/-- What stood in the way before some directories were made stood there from the start. -/
theorem Placed.of_moreDirectories (h : MoreDirectories fs mid) (hd : Placed mid after dir) : Placed fs after dir := by
  rcases hd with hdir | ⟨l, content, hl, hmid, hafter⟩
  · exact Or.inl hdir
  · exact Or.inr ⟨l, content, hl, h.node?_of_ne_directory hmid nofun, hafter⟩

/-- When all directories could be made, each target has its directory, or a file of before in its place. -/
theorem placed_of_makeTargetDirs (h : makeTargetDirs targets fs = (.ok (), after)) (ht : target ∈ targets)
    (hp : Path.parent? target = some dir) (hne : dir ≠ []) : Placed fs after dir := by
  induction targets generalizing fs with
  | nil => exact absurd ht List.not_mem_nil
  | cons first rest ih =>
    rcases makeTargetDirs_cases first rest fs with
      ⟨hthere, he⟩ | ⟨dir', hp', -, hh, ⟨mid, hc, he⟩ | ⟨fault, mid, -, he⟩⟩
    · rcases List.mem_cons.mp ht with rfl | ht
      · exact placed_of_has (madeAt_of_makeTargetDirs h).toMoreDirectories ((hthere dir hp).resolve_left hne)
      · exact ih (he.symm.trans h) ht
    · have hrest := he.symm.trans h
      rcases List.mem_cons.mp ht with rfl | ht
      · cases hp.symm.trans hp'
        have hdir := FileSystem.hasDirectory_of_createDirectories hp hne hh hc
        exact Or.inl ((madeAt_of_makeTargetDirs hrest).toMoreDirectories.hasDirectory hdir)
      · exact (ih hrest ht).of_moreDirectories (FileSystem.madeAt_of_createDirectories hc).toMoreDirectories
    · cases h.symm.trans he

/-- A configuration is loaded if it is read, passes its checks, and has or is given directories for its targets. -/
theorem load_eq_ok_iff (fs : FileSystem) (p : Path) (config : Config) (after : FileSystem) :
    load fs p = (.ok config, after) ↔
      readFile fs p = .ok config ∧ check fs config = .ok () ∧ makeTargetDirs config.targets.paths fs = (.ok (), after) := by
  constructor
  · intro h
    rw [load] at h
    split at h
    · cases h
    · rename_i config' hread
      split at h
      · cases h
      · rename_i hcheck
        split at h
        · rename_i after' hdirs
          cases h
          exact ⟨hread, hcheck, hdirs⟩
        · cases h
  · rintro ⟨hread, hcheck, hdirs⟩
    rw [load, hread]
    simp only [hcheck, hdirs]

/-- After a configuration is loaded, the path that a target stands in leads somewhere, if it is not empty: to a directory,
or to a file that was there before. -/
theorem load_parents (fs : FileSystem) (p : Path) (config : Config) (after : FileSystem)
    (h : load fs p = (.ok config, after)) :
    ∀ target ∈ config.targets.paths, ∀ dir, Path.parent? target = some dir → dir ≠ [] →
      after.hasDirectory dir = true ∨
        ∃ l content, after.find? dir = some l ∧ fs.node? l = some (.file content) ∧
          after.node? l = some (.file content) := by
  intro target ht dir hp hne
  obtain ⟨-, -, hdirs⟩ := (load_eq_ok_iff fs p config after).mp h
  exact placed_of_makeTargetDirs hdirs ht hp hne

/-- A configuration with three targets in three directories, of which one stands in another. -/
def shop : Config where
  input := ⟨"models".toList, []⟩
  targets := ⟨["site/js/shop.js".toList, "site/shop.d.ts".toList, "out/shop.js".toList], true⟩
  naming := Naming.standard

/-- A directory with a model, a configuration, and a file where a target wants a directory. -/
def occupied (config : Config) : FileSystem :=
  let shelf := (FileSystem.empty "work".toList).put ["work".toList] "models".toList .directory
  let configured := shelf.put ["work".toList] "c.toml".toList (.file (Text.encode config.toText))
  configured.put ["work".toList] "out".toList (.file (Text.encode []))

/-- The file of the configuration is read. -/
theorem read_occupied (config : Config) : (occupied config).read "c.toml".toList = .ok (Text.encode config.toText) := rfl

/-- Loading that configuration succeeds and makes the directories of its targets. -/
theorem load_occupied :
    load (occupied shop) "c.toml".toList = (.ok shop, (makeTargetDirs shop.targets.paths (occupied shop)).2) := by
  have hread : readFile (occupied shop) "c.toml".toList = .ok shop := readFile_of_read (read_occupied shop)
  have hcheck : check (occupied shop) shop = .ok () := by decide +kernel
  have hok : (makeTargetDirs shop.targets.paths (occupied shop)).1 = .ok () := by decide +kernel
  have hpair : ∀ x : Except Failure Unit × FileSystem, x.1 = .ok () → x = (.ok (), x.2) := by
    rintro ⟨result, files⟩ rfl
    rfl
  exact (load_eq_ok_iff _ _ _ _).mpr ⟨hread, hcheck, hpair _ hok⟩

/-- Two of the three directories are made, one on the way to the other; in place of the third is the file of before. -/
theorem occupied_parents : ∃ after, load (occupied shop) "c.toml".toList = (.ok shop, after) ∧
    after.hasDirectory "site/js".toList = true ∧ after.hasDirectory "site".toList = true ∧
    ∃ l content, after.find? "out".toList = some l ∧ (occupied shop).node? l = some (.file content) ∧
      after.node? l = some (.file content) := by
  obtain ⟨after, hafter⟩ : ∃ after, after = (makeTargetDirs shop.targets.paths (occupied shop)).2 := ⟨_, rfl⟩
  have hload : load (occupied shop) "c.toml".toList = (.ok shop, after) := hafter ▸ load_occupied
  have h := load_parents (occupied shop) "c.toml".toList shop after hload
  have hjs := h "site/js/shop.js".toList (by decide) "site/js".toList (by decide) (by decide)
  have hsite := h "site/shop.d.ts".toList (by decide) "site".toList (by decide) (by decide)
  have hout := h "out/shop.js".toList (by decide) "out".toList (by decide) (by decide)
  have hmade : ∀ dir l, after.find? dir = some l → (occupied shop).node? l = none → Placed (occupied shop) after dir →
      after.hasDirectory dir = true := by
    rintro dir l hl hnone (hdir | ⟨l', content, hl', hfile, -⟩)
    · exact hdir
    · cases hl.symm.trans hl'
      cases hnone.symm.trans hfile
  refine ⟨after, hload, hmade _ ["js".toList, "site".toList, "work".toList] ?_ ?_ hjs,
    hmade _ ["site".toList, "work".toList] ?_ ?_ hsite, hout.resolve_left ?_⟩
  · rw [hafter]; decide +kernel
  · decide +kernel
  · rw [hafter]; decide +kernel
  · decide +kernel
  · rw [hafter]; decide +kernel

/-- Loading can succeed and leave a target without a directory. -/
theorem occupied_not_directory : ¬∀ (fs : FileSystem) (p : Path) (config : Config) (after : FileSystem),
    load fs p = (.ok config, after) → ∀ target ∈ config.targets.paths, ∀ dir, Path.parent? target = some dir →
      dir ≠ [] → after.hasDirectory dir = true := by
  intro h
  have hdir := h (occupied shop) "c.toml".toList shop _ load_occupied "out/shop.js".toList (by decide) "out".toList (by decide)
    (by decide)
  exact absurd hdir (by decide +kernel)

end Config

end ModelStubs
