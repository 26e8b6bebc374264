import ModelStubs.Proofs.Comment
import ModelStubs.Proofs.Directories

/-!
# What loading a configuration leaves behind

Loading a configuration changes nothing before the last of its checks is passed (`load_of_refused`). What it makes after that
are directories where first parts of the paths lead that targets stand in, and it makes nothing else, whether it comes to an
end or stops at a target whose directory cannot be made (`OnlyDirectories`). After it came to an end, loading the same file
again gives the same configuration and changes nothing (`load_frame`).
-/

namespace ModelStubs

/-! ## First parts of paths -/

namespace Path

variable {p q r dir : Path}

/-- A path is all of another, or what comes before one of its slashes. -/
def FirstPartOf (q p : Path) : Prop := q = p ∨ ∃ rest, p = q ++ '/' :: rest

theorem FirstPartOf.refl (p : Path) : FirstPartOf p p := Or.inl rfl

theorem FirstPartOf.trans (h : FirstPartOf q p) (h' : FirstPartOf p r) : FirstPartOf q r := by
  rcases h with rfl | ⟨rest, rfl⟩
  · exact h'
  · rcases h' with rfl | ⟨rest', rfl⟩
    · exact Or.inr ⟨rest, rfl⟩
    · exact Or.inr ⟨rest ++ '/' :: rest', by simp⟩

theorem firstPartOf_append (q rest : Path) : FirstPartOf q (q ++ '/' :: rest) := Or.inr ⟨rest, rfl⟩

/-- What is left of a path without what says nothing at its end is the root or a first part of it. -/
theorem firstPartOf_trimBackwards (t : Text) :
    trimBackwards t = ['/'] ∨ FirstPartOf (trimBackwards t).reverse t.reverse := by
  fun_induction trimBackwards t with
  | case1 => exact Or.inl rfl
  | case2 rest _ ih =>
    rw [List.reverse_cons]
    exact ih.imp_right fun h => h.trans (firstPartOf_append rest.reverse [])
  | case3 => exact Or.inl rfl
  | case4 rest _ ih =>
    have hcut : ('.' :: '/' :: rest).reverse = rest.reverse ++ '/' :: ['.'] := by simp
    rw [hcut]
    exact ih.imp_right fun h => h.trans (firstPartOf_append rest.reverse ['.'])
  | case5 t => exact Or.inr (.refl t.reverse)

/-- What a path stands in is empty, the root, or a first part of it: what is left before the slash that sets its last part
apart. -/
theorem firstPartOf_of_parent? (h : parent? p = some dir) : dir = [] ∨ dir = ['/'] ∨ FirstPartOf dir p := by
  obtain ⟨⟨last, before⟩, hlast, he⟩ := Option.map_eq_some_iff.mp h
  replace he : (trimBackwards before).reverse = dir := he
  rw [splitLast?] at hlast
  split at hlast
  · cases hlast
  · rename_i hne
    obtain ⟨-, hroot⟩ := not_or.mp hne
    generalize htrim : trimBackwards p.reverse = t at hlast hroot
    have hwhole : FirstPartOf t.reverse p := by
      have hp := (firstPartOf_trimBackwards p.reverse).resolve_left (by rw [htrim]; exact hroot)
      rwa [htrim, List.reverse_reverse] at hp
    have hcut : t = last ++ before := by
      cases hlast
      exact List.takeWhile_append_dropWhile.symm
    cases before with
    | nil => exact Or.inl he.symm
    | cons c rest =>
      have hslash : c = '/' := by
        have hhead : t.dropWhile (· != '/') = c :: rest := congrArg Prod.snd (Option.some.inj hlast)
        have hnot := List.head?_dropWhile_not (· != '/') t
        simpa [hhead] using hnot
      rw [hslash, trimBackwards] at he
      split at he
      · exact Or.inr (Or.inl he.symm)
      · refine Or.inr ?_
        rw [← he]
        refine (firstPartOf_trimBackwards rest).imp (fun h => by rw [h]; rfl) fun h => (h.trans ?_).trans hwhole
        rw [hcut, hslash, List.reverse_append, List.reverse_cons, List.append_assoc]
        exact firstPartOf_append rest.reverse last.reverse

/-- Of the empty path and of the root, nothing is to be made. -/
theorem go_withParents_of_parent? (h : parent? p = none) (n : Nat) : withParents.go n p = [] := by
  cases n with
  | zero => rfl
  | succ n => rw [withParents.go, h]

/-- The paths that a path stands in are first parts of it, however many steps up are left. -/
theorem firstPartOf_of_mem_withParents (h : q ∈ withParents p) : FirstPartOf q p := by
  have hsteps : ∀ n p, q ∈ withParents.go n p → FirstPartOf q p := by
    intro n
    induction n with
    | zero => exact fun p hq => absurd hq List.not_mem_nil
    | succ n ih =>
      intro p hq
      rw [withParents.go] at hq
      split at hq
      · exact absurd hq List.not_mem_nil
      · rename_i outer hp
        rcases List.mem_cons.mp hq with rfl | hq
        · exact .refl q
        · rcases firstPartOf_of_parent? hp with rfl | rfl | houter
          · rw [go_withParents_of_parent? rfl] at hq
            exact absurd hq List.not_mem_nil
          · rw [go_withParents_of_parent? rfl] at hq
            exact absurd hq List.not_mem_nil
          · exact (ih outer hq).trans houter
  exact hsteps p.length p h

end Path

/-! ## Nothing but directories -/

namespace FileSystem

variable {fs after : FileSystem} {p : Path} {content : ByteArray}

/-- A file is read as before. -/
theorem MoreDirectories.read (h : MoreDirectories fs after) (hr : fs.read p = .ok content) : after.read p = .ok content := by
  obtain ⟨l, hl, hn⟩ := (read_eq_ok_iff fs p content).mp hr
  exact (read_eq_ok_iff after p content).mpr
    ⟨l, (find?_eq_some_iff after p l).mp (h.find? ((find?_eq_some_iff fs p l).mpr hl)), h.node?_of_eq_some hn⟩

end FileSystem

namespace Config

open FileSystem (MadeAt MoreDirectories)

variable {fs mid after : FileSystem} {targets : List Path} {target dir : Path} {p : Path} {config : Config}
  {failure : Failure} {t : Text} {i : Nat}

/-- `after` is `fs` with new directories, in which there are only new directories. Each is where a first part of the path
leads that one of the targets stands in. -/
structure OnlyDirectories (targets : List Path) (fs after : FileSystem) : Prop extends MoreDirectories fs after where
  empty : ∀ l name node, fs.node? l = none → after.node? (name :: l) = some node →
    fs.node? (name :: l) = none ∧ node = .directory
  found : ∀ l, fs.node? l = none → after.node? l = some .directory →
    ∃ target ∈ targets, ∃ dir q, Path.parent? target = some dir ∧ Path.FirstPartOf q dir ∧ after.find? q = some l

/-- What is made for targets is new directories only. What stands in something stands in a directory, so there was nothing
in what was not there. -/
theorem onlyDirectories_of_madeAt (h : MadeAt (dirsOf targets) fs after) : OnlyDirectories targets fs after where
  toMoreDirectories := h.toMoreDirectories
  empty := by
    intro l name node hnone hn
    have hnew : fs.node? (name :: l) = none := by
      cases hn' : fs.node? (name :: l) with
      | none => rfl
      | some node' => cases hnone.symm.trans (FileSystem.directory_of_node? hn')
    rcases h.node? (name :: l) with he | ⟨-, hd⟩
    · cases hnew.symm.trans (he.symm.trans hn)
    · exact ⟨hnew, Option.some.inj (hn.symm.trans hd)⟩
  found := by
    intro l hnone hd
    obtain ⟨q, hq, hl⟩ := h.found l hnone hd
    obtain ⟨target, ht, dir, hp, hq⟩ := mem_dirsOf.mp hq
    exact ⟨target, ht, dir, q, hp, Path.firstPartOf_of_mem_withParents hq, hl⟩

/-! ## What is refused and what is accepted -/

/-- A path leads to a file that holds a text. -/
def HoldsText (fs : FileSystem) (p : Path) (t : Text) : Prop :=
  ∃ content, fs.read p = .ok content ∧ Text.decode? content = some t

/-- A path leads to a file that holds a configuration. -/
def Holds (fs : FileSystem) (p : Path) (config : Config) : Prop := ∃ t, HoldsText fs p t ∧ ofText t = .ok config

/-- Why a configuration is refused before anything is made: no text can be read, the text is no configuration, or the
configuration has no model where it says, no targets, or a namespace of nothing but white space. -/
inductive Refused (fs : FileSystem) (p : Path) : Failure → Prop
  | unreadable (h : ∀ t, ¬HoldsText fs p t) : Refused fs p (.configUnreadable p)
  | invalid {t : Text} {fault : Toml.Fault} (ht : HoldsText fs p t) (h : ofText t = .error fault) :
      Refused fs p (.configInvalid p fault)
  | modelDirMissing {config : Config} (hc : Holds fs p config) (h : fs.has config.input.modelDir = false) :
      Refused fs p (.modelDirMissing config.input.modelDir)
  | noTargets {config : Config} (hc : Holds fs p config) (hm : fs.has config.input.modelDir = true)
      (h : config.targets.paths = []) : Refused fs p .noTargets
  | blankNamespace {config : Config} (hc : Holds fs p config) (hm : fs.has config.input.modelDir = true)
      (ht : config.targets.paths ≠ []) (h : ∀ c ∈ config.naming.spaceName, Text.isBlank c = true) :
      Refused fs p .blankNamespace

/-- A configuration passes every check. -/
structure Accepted (fs : FileSystem) (p : Path) (config : Config) : Prop where
  holds : Holds fs p config
  modelDir : fs.has config.input.modelDir = true
  targets : config.targets.paths ≠ []
  named : ∃ c ∈ config.naming.spaceName, Text.isBlank c = false

/-- Every path is refused as a configuration for some reason or accepted as one. -/
theorem refused_or_accepted (fs : FileSystem) (p : Path) :
    (∃ failure, Refused fs p failure) ∨ ∃ config, Accepted fs p config := by
  by_cases ht : ∃ t, HoldsText fs p t
  · obtain ⟨t, ht⟩ := ht
    cases hc : ofText t with
    | error fault => exact Or.inl ⟨_, .invalid ht hc⟩
    | ok config =>
      have hholds : Holds fs p config := ⟨t, ht, hc⟩
      cases hm : fs.has config.input.modelDir with
      | false => exact Or.inl ⟨_, .modelDirMissing hholds hm⟩
      | true =>
        by_cases htargets : config.targets.paths = []
        · exact Or.inl ⟨_, .noTargets hholds hm htargets⟩
        · by_cases hnamed : ∃ c ∈ config.naming.spaceName, Text.isBlank c = false
          · exact Or.inr ⟨config, hholds, hm, htargets, hnamed⟩
          · have hblank : ∀ c ∈ config.naming.spaceName, Text.isBlank c = true :=
              fun c hc => eq_true_of_ne_false fun hb => hnamed ⟨c, hc, hb⟩
            exact Or.inl ⟨_, .blankNamespace hholds hm htargets hblank⟩
  · exact Or.inl ⟨_, .unreadable (not_exists.mp ht)⟩

/-- Where a path leads to a text, the configuration that is read is that of the text. -/
theorem readFile_of_holdsText (h : HoldsText fs p t) :
    readFile fs p = (ofText t).mapError (Failure.configInvalid p) := by
  obtain ⟨content, hr, hd⟩ := h
  rw [readFile, hr]
  simp only [hd]
  cases ofText t with
  | ok config => rfl
  | error fault => rfl

theorem readFile_of_holds (h : Holds fs p config) : readFile fs p = .ok config := by
  obtain ⟨t, ht, hc⟩ := h
  rw [readFile_of_holdsText ht, hc]
  rfl

/-- Where a path leads to no text, the configuration is unreadable. -/
theorem readFile_of_not_holdsText (h : ∀ t, ¬HoldsText fs p t) : readFile fs p = .error (.configUnreadable p) := by
  rw [readFile]
  split
  · rfl
  · rename_i content hr
    cases hd : Text.decode? content with
    | none => rfl
    | some t => exact absurd ⟨content, hr, hd⟩ (h t)

/-- A configuration that is accepted passes the check. -/
theorem check_of_accepted (h : Accepted fs p config) : check fs config = .ok () := by
  obtain ⟨c, hc, hb⟩ := h.named
  refine check_eq_ok h.modelDir h.targets fun ht => ?_
  rw [(Text.trim_eq_nil_iff _).mp ht c hc] at hb
  cases hb

/-- Loading an accepted configuration is the making of the directories of its targets. -/
theorem load_of_accepted (h : Accepted fs p config) :
    load fs p =
      ((makeTargetDirs config.targets.paths fs).1.map fun _ => config, (makeTargetDirs config.targets.paths fs).2) := by
  rw [load, readFile_of_holds h.holds]
  simp only [check_of_accepted h]
  rcases makeTargetDirs config.targets.paths fs with ⟨result, after⟩
  cases result with
  | ok => rfl
  | error failure => rfl

/-- What is refused is refused before anything is made. -/
theorem load_of_refused (h : Refused fs p failure) : load fs p = (.error failure, fs) := by
  have hcheck : ∀ {config : Config}, Holds fs p config → check fs config = .error failure →
      load fs p = (.error failure, fs) := by
    intro config hc he
    rw [load, readFile_of_holds hc]
    simp only [he]
  cases h with
  | unreadable h => rw [load, readFile_of_not_holdsText h]
  | invalid ht h =>
    rw [load, readFile_of_holdsText ht, h]
    rfl
  | modelDirMissing hc h => exact hcheck hc (by rw [check, h]; rfl)
  | noTargets hc hm h => exact hcheck hc (by rw [check, hm, if_neg (by decide), if_pos h])
  | blankNamespace hc hm ht h =>
    exact hcheck hc (by rw [check, hm, if_neg (by decide), if_neg ht, if_pos ((Text.trim_eq_nil_iff _).mpr h)])

/-! ## Where the making of directories stops -/

/-- The making of directories stops at a target: those before it have theirs, and its own is missing and cannot be made. -/
def StopsAt (targets : List Path) (i : Nat) (dir : Path) (fs after : FileSystem) : Prop :=
  ∃ target mid fault, targets[i]? = some target ∧ Path.parent? target = some dir ∧ dir ≠ [] ∧
    makeTargetDirs (targets.take i) fs = (.ok (), mid) ∧ mid.has dir = false ∧
    mid.createDirectories dir = (.error fault, after)

/-- Where directories are made for some targets, those for the others are made after them. -/
theorem makeTargetDirs_append {others : List Path} (h : makeTargetDirs targets fs = (.ok (), mid)) :
    makeTargetDirs (targets ++ others) fs = makeTargetDirs others mid := by
  induction targets generalizing fs with
  | nil =>
    cases h
    rfl
  | cons target rest ih =>
    rw [makeTargetDirs] at h
    rw [List.cons_append, makeTargetDirs]
    split at h
    · exact ih h
    · split at h
      · rename_i hthere
        rw [if_pos hthere]
        exact ih h
      · rename_i hmissing
        rw [if_neg hmissing]
        split at h
        · exact ih h
        · cases h

/-- Where the making of directories stops, it fails with the directory that is missing. -/
theorem makeTargetDirs_of_stopsAt (h : StopsAt targets i dir fs after) :
    makeTargetDirs targets fs = (.error (.targetDirNotMade dir), after) := by
  obtain ⟨target, mid, fault, ht, hp, hne, hbefore, hh, hc⟩ := h
  obtain ⟨hi, rfl⟩ := List.getElem?_eq_some_iff.mp ht
  rw [← List.take_append_drop i targets, makeTargetDirs_append hbefore, List.drop_eq_getElem_cons hi, makeTargetDirs, hp]
  simp [hne, hh, hc]

/-- For one target more, directories are made first, or the making stops at it. -/
theorem makeTargetDirs_singleton (target : Path) (fs : FileSystem) :
    (∃ mid, makeTargetDirs [target] fs = (.ok (), mid)) ∨ ∃ dir after, StopsAt [target] 0 dir fs after := by
  rcases makeTargetDirs_cases target [] fs with ⟨-, he⟩ | ⟨dir, hp, hne, hh, ⟨mid, -, he⟩ | ⟨fault, mid, hc, -⟩⟩
  · exact Or.inl ⟨fs, he⟩
  · exact Or.inl ⟨mid, he⟩
  · exact Or.inr ⟨dir, mid, target, fs, fault, rfl, hp, hne, rfl, hh, hc⟩

/-- The making of directories stops one target further on behind a target that gets its directory. -/
theorem StopsAt.cons (hf : makeTargetDirs [target] fs = (.ok (), mid)) (h : StopsAt targets i dir mid after) :
    StopsAt (target :: targets) (i + 1) dir fs after := by
  obtain ⟨target', mid', fault, ht, hp, hne, hbefore, hh, hc⟩ := h
  exact ⟨target', mid', fault, ht, hp, hne, (makeTargetDirs_append hf).trans hbefore, hh, hc⟩

/-- Directories are made for all targets, or the making stops at one of them. -/
theorem makeTargetDirs_or_stopsAt (targets : List Path) (fs : FileSystem) :
    (∃ after, makeTargetDirs targets fs = (.ok (), after)) ∨ ∃ i dir after, StopsAt targets i dir fs after := by
  induction targets generalizing fs with
  | nil => exact Or.inl ⟨fs, rfl⟩
  | cons target rest ih =>
    rcases makeTargetDirs_singleton target fs with ⟨mid, hf⟩ | ⟨dir, after, target', mid, fault, hstop⟩
    · rcases ih mid with ⟨after, hrest⟩ | ⟨i, dir, after, hstop⟩
      · exact Or.inl ⟨after, (makeTargetDirs_append hf).trans hrest⟩
      · exact Or.inr ⟨i + 1, dir, after, hstop.cons hf⟩
    · exact Or.inr ⟨0, dir, after, target', mid, fault, hstop⟩

/-- Up to the target at which the making stops, nothing but directories is made, and none for the targets after it. -/
theorem StopsAt.onlyDirectories (h : StopsAt targets i dir fs after) : OnlyDirectories (targets.take (i + 1)) fs after := by
  obtain ⟨target, mid, fault, ht, hp, -, hbefore, -, hc⟩ := h
  have hlast : (targets.take (i + 1))[i]? = some target := by rw [List.getElem?_take_of_lt i.lt_succ_self, ht]
  have hfirst : targets.take i ⊆ targets.take (i + 1) := List.take_subset_take_left targets i.le_succ
  have hmade := (madeAt_of_makeTargetDirs hbefore).mono (dirsOf_subset hfirst)
  exact onlyDirectories_of_madeAt (hmade.trans (madeAt_of_target hc (List.mem_of_getElem? hlast) hp))

/-! ## Loading -/

/-- Where directories were made for targets, there is something for each of them. -/
theorem has_of_makeTargetDirs (h : makeTargetDirs targets fs = (.ok (), after)) (ht : target ∈ targets)
    (hp : Path.parent? target = some dir) (hne : dir ≠ []) : after.has dir = true := by
  rcases placed_of_makeTargetDirs h ht hp hne with hd | ⟨l, content, hl, -, hn⟩
  · exact FileSystem.has_of_hasDirectory hd
  · exact (FileSystem.has_iff after dir).mpr ⟨l, _, hl, hn⟩

/-- What is accepted is accepted again when there are more directories. -/
theorem Accepted.of_moreDirectories (h : Accepted fs p config) (hm : MoreDirectories fs after) : Accepted after p config := by
  obtain ⟨t, ⟨content, hr, hd⟩, hc⟩ := h.holds
  exact ⟨⟨t, ⟨content, hm.read hr, hd⟩, hc⟩, hm.has h.modelDir, h.targets, h.named⟩

/-- A configuration that is loaded is loaded again, and nothing is made for it any more. -/
theorem load_again (ha : Accepted fs p config) (h : makeTargetDirs config.targets.paths fs = (.ok (), after)) :
    load after p = (.ok config, after) := by
  have hm := (madeAt_of_makeTargetDirs h).toMoreDirectories
  have hdirs : makeTargetDirs config.targets.paths after = (.ok (), after) :=
    makeTargetDirs_of_has fun target ht dir hp => or_iff_not_imp_left.mpr (has_of_makeTargetDirs h ht hp)
  rw [load_of_accepted (ha.of_moreDirectories hm), hdirs]
  rfl

/-- Loading a configuration that is refused changes nothing. Of one that is accepted, loading fails where the making of
directories stops at a target, after it made directories for that target and those before it only. Loading fails in no other
way. If it succeeds, it made directories for the targets only, and loading again gives the same and changes nothing. -/
theorem load_frame (fs : FileSystem) (p : Path) :
    (∀ failure, Refused fs p failure → load fs p = (.error failure, fs)) ∧
      (∀ config i dir after, Accepted fs p config → StopsAt config.targets.paths i dir fs after →
        load fs p = (.error (.targetDirNotMade dir), after) ∧
          OnlyDirectories (config.targets.paths.take (i + 1)) fs after) ∧
      (∀ failure after, load fs p = (.error failure, after) →
        Refused fs p failure ∨
          ∃ config i dir, Accepted fs p config ∧ StopsAt config.targets.paths i dir fs after ∧
            failure = .targetDirNotMade dir) ∧
      ∀ config after, load fs p = (.ok config, after) →
        OnlyDirectories config.targets.paths fs after ∧ load after p = (.ok config, after) := by
  have hstops : ∀ config i dir after, Accepted fs p config → StopsAt config.targets.paths i dir fs after →
      load fs p = (.error (.targetDirNotMade dir), after) := by
    intro config i dir after ha hs
    rw [load_of_accepted ha, makeTargetDirs_of_stopsAt hs]
    rfl
  refine ⟨fun _ hr => load_of_refused hr,
    fun config i dir after ha hs => ⟨hstops config i dir after ha hs, hs.onlyDirectories⟩,
    fun failure after h => ?_, fun config after h => ?_⟩
  · rcases refused_or_accepted fs p with ⟨failure', hr⟩ | ⟨config, ha⟩
    · cases (load_of_refused hr).symm.trans h
      exact Or.inl hr
    · rcases makeTargetDirs_or_stopsAt config.targets.paths fs with ⟨after', hd⟩ | ⟨i, dir, after', hs⟩
      · rw [load_of_accepted ha, hd] at h
        cases h
      · cases (hstops config i dir after' ha hs).symm.trans h
        exact Or.inr ⟨config, i, dir, ha, hs, rfl⟩
  · rcases refused_or_accepted fs p with ⟨failure', hr⟩ | ⟨config', ha⟩
    · cases (load_of_refused hr).symm.trans h
    · rcases makeTargetDirs_or_stopsAt config'.targets.paths fs with ⟨after', hd⟩ | ⟨i, dir, after', hs⟩
      · have hload := load_of_accepted ha
        rw [hd] at hload
        cases hload.symm.trans h
        exact ⟨onlyDirectories_of_madeAt (madeAt_of_makeTargetDirs hd), load_again ha hd⟩
      · cases (hstops config' i dir after' ha hs).symm.trans h

/-- A configuration of which the second target wants a directory in a file. -/
def stuck : Config := { shop with targets.paths := ["site/js/shop.js", "out/sub/shop.js", "late/shop.js"].map String.toList }

/-- A configuration without targets. -/
def idle : Config := { shop with targets.paths := [] }

/-- The file of the occupied file system holds the configuration that was written to it. -/
theorem holds_occupied (config : Config) : Holds (occupied config) "c.toml".toList config :=
  ⟨_, ⟨_, read_occupied config, Text.decode?_encode _⟩, ofText_toText config⟩

/-- The configuration that has a file in the way of its second target passes every check. -/
theorem accepted_occupied_stuck : Accepted (occupied stuck) "c.toml".toList stuck :=
  ⟨holds_occupied stuck, by decide +kernel, by decide, 's', by decide, by decide⟩

/-- Without targets, nothing is made. With a target in a file, directories are made for the target before it and none for the
one after it. With targets whose directories can be made, they are made once. -/
theorem occupied_framed :
    load (occupied idle) "c.toml".toList = (.error .noTargets, occupied idle) ∧
      (∃ after, load (occupied stuck) "c.toml".toList = (.error (.targetDirNotMade "out/sub".toList), after) ∧
        OnlyDirectories (stuck.targets.paths.take 2) (occupied stuck) after ∧
        after.hasDirectory "site/js".toList = true ∧ after.has "late".toList = false) ∧
      ∃ after, load (occupied shop) "c.toml".toList = (.ok shop, after) ∧
        OnlyDirectories shop.targets.paths (occupied shop) after ∧ load after "c.toml".toList = (.ok shop, after) := by
  refine ⟨(load_frame _ _).1 _ (.noTargets (holds_occupied idle) (by decide +kernel) rfl), ?_, ?_⟩
  · have hfirst : (makeTargetDirs (stuck.targets.paths.take 1) (occupied stuck)).1 = .ok () := by decide +kernel
    obtain ⟨mid, hmid⟩ : ∃ mid, mid = (makeTargetDirs (stuck.targets.paths.take 1) (occupied stuck)).2 := ⟨_, rfl⟩
    have hsecond : (mid.createDirectories "out/sub".toList).1 = .error .notDirectory := by
      rw [hmid]
      decide +kernel
    have hstop : StopsAt stuck.targets.paths 1 "out/sub".toList (occupied stuck) (mid.createDirectories "out/sub".toList).2 :=
      ⟨"out/sub/shop.js".toList, mid, .notDirectory, rfl, by decide, by decide, Prod.ext hfirst hmid.symm,
        by rw [hmid]; decide +kernel, Prod.ext hsecond rfl⟩
    obtain ⟨hload, honly⟩ := (load_frame _ _).2.1 stuck 1 _ _ accepted_occupied_stuck hstop
    exact ⟨_, hload, honly, by rw [hmid]; decide +kernel, by rw [hmid]; decide +kernel⟩
  · exact ⟨_, load_occupied, (load_frame _ _).2.2.2 shop _ load_occupied⟩

end Config

end ModelStubs
