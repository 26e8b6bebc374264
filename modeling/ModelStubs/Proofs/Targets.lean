import ModelStubs.Proofs.Run
import ModelStubs.Proofs.Ways

/-!
# A run that fails

What is done with one target is decided by the location that it leads to: nowhere or at a directory the target fails
(`persist_of_nowhere`, `persist_of_directory`), anywhere else a file is there afterwards with its text (`persist_of_takes`). So
a run over targets leaves, at every location, the text of the last of the targets persisted that lead there, links and other
spellings of a path included, and everything else as it was (`Persisted`). A run that fails has either touched nothing, or
persisted exactly the targets before the one that it failed at (`all_fails`).
-/

namespace ModelStubs.Run

open FileSystem (Takes Filed SameWays)

variable {fs mid after : FileSystem} {target : Path} {l : Location} {t : Text} {skip : Bool}
  {naming : Naming} {objects : List Object} {targets : List Path} {failure : Failure} {input : Input}

/-! ## One target -/

/-- A target whose path takes a file holds its text afterwards, and is reported as written unless unchanged targets are
left alone. -/
theorem persist_of_takes (h : fs.Takes target l) (t : Text) (skip : Bool) :
    ∃ status after, persist fs target t skip = .ok (status, after) ∧ Filed fs after l (Text.encode t) ∧
      (skip = false → status = .written) := by
  obtain ⟨after, hw, hfiled⟩ := FileSystem.write_of_takes h (Text.encode t)
  rw [persist]
  simp only [hw]
  split
  · rename_i hskip
    rw [Bool.and_eq_true, FileSystem.has_eq, h.location, Option.bind_some] at hskip
    obtain ⟨node, hnode⟩ := Option.isSome_iff_exists.mp hskip.2
    cases node with
    | directory => exact absurd hnode h.free
    | link path => exact absurd hnode (FileSystem.node?_ne_link h.location path)
    | file current =>
      have hread : fs.read target = .ok current := by
        rw [FileSystem.read_eq_ok_iff_lookup?, h.location, Option.bind_some, hnode]
      rw [hread]
      by_cases hc : current = Text.encode t
      · refine ⟨.unchanged, fs, by simp only [if_pos hc], ⟨rfl, fun l' => ?_⟩, fun hs => absurd (hs ▸ hskip.1) Bool.false_ne_true⟩
        split
        · rename_i he
          rw [he, hnode, hc]
        · rfl
      · exact ⟨.written, after, by simp only [if_neg hc], hfiled, fun _ => rfl⟩
  · exact ⟨.written, after, rfl, hfiled, fun _ => rfl⟩

/-- A target whose path leads nowhere is unwritable. -/
theorem persist_of_nowhere (h : fs.locationOf? target = none) (t : Text) (skip : Bool) :
    persist fs target t skip = .error (.targetUnwritable target) := by
  obtain ⟨fault, hw⟩ := FileSystem.write_of_nowhere h (Text.encode t)
  have hhas : fs.has target = false := by rw [FileSystem.has_eq, h, Option.bind_none, Option.isSome_none]
  rw [persist, hhas, Bool.and_false, if_neg (by decide), hw]

/-- A target at a directory is unwritable, or unreadable if it is looked at first. -/
theorem persist_of_directory (h : fs.locationOf? target = some l) (hd : fs.node? l = some .directory) (t : Text)
    (skip : Bool) :
    persist fs target t skip = .error (if skip then .targetUnreadable target else .targetUnwritable target) := by
  have hhas : fs.has target = true := by rw [FileSystem.has_eq, h, Option.bind_some, hd, Option.isSome_some]
  have hread : ∃ fault, fs.read target = .error fault := by
    cases hr : fs.read target with
    | error fault => exact ⟨fault, rfl⟩
    | ok content =>
      rw [FileSystem.read_eq_ok_iff_lookup?, h, Option.bind_some, hd] at hr
      nomatch hr
  obtain ⟨fault, hr⟩ := hread
  rw [persist, hhas, Bool.and_true, FileSystem.write_of_directory h hd, hr]
  cases skip <;> rfl

/-- A target either takes its text, or fails with a failure of its own, whether or not unchanged targets are left alone. -/
theorem takes_or_fails (fs : FileSystem) (target : Path) :
    (∃ l, fs.Takes target l) ∨ ∀ t skip, ∃ failure, persist fs target t skip = .error failure ∧
      (failure = .targetUnreadable target ∨ failure = .targetUnwritable target) := by
  cases hl : fs.locationOf? target with
  | none => exact Or.inr fun t skip => ⟨_, persist_of_nowhere hl t skip, Or.inr rfl⟩
  | some l =>
    by_cases hd : fs.node? l = some .directory
    · refine Or.inr fun t skip => ⟨_, persist_of_directory hl hd t skip, ?_⟩
      cases skip
      · exact Or.inr rfl
      · exact Or.inl rfl
    · exact Or.inl ⟨l, hl, hd⟩

/-! ## The first of some targets -/

/-- What is told before a target is persisted. -/
def opening (objects : List Object) (target : Path) : List Event :=
  .generating (Output.ofPath target) target ::
    ((Output.ofPath target).unrecognized objects).map fun (descriptor, name) => .unrecognized descriptor name

/-- Behind a target that is persisted, the other targets are produced from what it has left. -/
theorem produce_of_persist {status : Status}
    (h : persist fs target ((Output.ofPath target).render naming objects) skip = .ok (status, mid)) (targets : List Path) :
    produce naming skip objects (target :: targets) fs =
      ⟨(produce naming skip objects targets mid).result.map (⟨target, Output.ofPath target, status⟩ :: ·),
        opening objects target ++ status.event target :: (produce naming skip objects targets mid).log,
        (produce naming skip objects targets mid).files⟩ := by
  rw [produce, h]
  rfl

/-- The first target that cannot be persisted ends the production and leaves the files as they are. -/
theorem produce_of_error (h : persist fs target ((Output.ofPath target).render naming objects) skip = .error failure)
    (targets : List Path) :
    produce naming skip objects (target :: targets) fs = ⟨.error failure, opening objects target, fs⟩ := by
  rw [produce, h]
  rfl

/-! ## Targets persisted in order -/

/-- The last of some paths that lead to a location. -/
def lastTo? (fs : FileSystem) (l : Location) : List Path → Option Path
  | [] => none
  | p :: rest => (lastTo? fs l rest).or (if fs.locationOf? p = some l then some p else none)

/-- No path is the last to a location to which none of them leads. -/
theorem lastTo?_eq_none (h : ∀ p ∈ targets, fs.locationOf? p ≠ some l) : lastTo? fs l targets = none := by
  induction targets with
  | nil => rfl
  | cons p targets ih =>
    rw [lastTo?, ih fun q hq => h q (List.mem_cons_of_mem _ hq), if_neg (h p List.mem_cons_self), Option.none_or]

/-- In file systems with the same ways, the same path is the last to a location. -/
theorem lastTo?_of_sameWays (h : SameWays fs mid) (l : Location) (targets : List Path) :
    lastTo? mid l targets = lastTo? fs l targets := by
  induction targets with
  | nil => rfl
  | cons p targets ih => rw [lastTo?, lastTo?, ih, h.locationOf?_eq p]

/-- `after` is `fs` with, at each location that some targets lead to, a file with what the last of those is to hold. No target
leads to a directory, and none leads elsewhere in `after` than in `fs`. -/
structure Persisted (content : Path → ByteArray) (targets : List Path) (fs after : FileSystem) : Prop where
  ways : SameWays fs after
  takes : ∀ p ∈ targets, ∃ l, fs.Takes p l
  node? : ∀ l, after.node? l =
    match lastTo? fs l targets with
    | some p => some (.file (content p))
    | none => fs.node? l

variable {content : Path → ByteArray}

theorem Persisted.nil (content : Path → ByteArray) (fs : FileSystem) : Persisted content [] fs fs :=
  ⟨.refl fs, fun _ hp => absurd hp List.not_mem_nil, fun _ => rfl⟩

/-- Persisting one target, and then others, persists them all: the first one's text stays where no other one leads. -/
theorem Persisted.cons (ht : fs.Takes target l) (hf : Filed fs mid l (content target))
    (h : Persisted content targets mid after) : Persisted content (target :: targets) fs after := by
  have hways := hf.sameWays ht
  refine ⟨hways.trans h.ways, fun p hp => ?_, fun l' => ?_⟩
  · rcases List.mem_cons.mp hp with rfl | hp
    · exact ⟨l, ht⟩
    · obtain ⟨l', hl'⟩ := h.takes p hp
      exact ⟨l', (hways.takes_iff p l').mp hl'⟩
  · rw [h.node?, lastTo?_of_sameWays hways, lastTo?, ht.location]
    cases lastTo? fs l' targets with
    | some p => rfl
    | none =>
      simp only [Option.none_or, hf.node?, Option.some.injEq]
      by_cases he : l' = l
      · rw [if_pos he, if_pos he.symm]
      · rw [if_neg he, if_neg (Ne.symm he)]

/-- What no target leads to has not changed. -/
theorem Persisted.unchanged (h : Persisted content targets fs after) (hl : ∀ p ∈ targets, fs.locationOf? p ≠ some l) :
    after.node? l = fs.node? l := by
  rw [h.node?, lastTo?_eq_none hl]

/-- A run over targets that fails has persisted those before the one that it failed at. -/
theorem produce_fails (h : (produce naming skip objects targets fs).result = .error failure) :
    ∃ before target rest, targets = before ++ target :: rest ∧
      (failure = .targetUnreadable target ∨ failure = .targetUnwritable target) ∧
      persist (produce naming skip objects targets fs).files target ((Output.ofPath target).render naming objects) skip =
        .error failure ∧
      Persisted (contentOf naming objects) before fs (produce naming skip objects targets fs).files := by
  induction targets generalizing fs with
  | nil => nomatch h
  | cons target targets ih =>
    rcases takes_or_fails fs target with ⟨l, ht⟩ | hfails
    · obtain ⟨status, mid, hp, hfiled, -⟩ :=
        persist_of_takes ht ((Output.ofPath target).render naming objects) skip
      rw [produce_of_persist hp] at h ⊢
      have hothers : (produce naming skip objects targets mid).result = .error failure := by
        cases hr : (produce naming skip objects targets mid).result with
        | error other =>
          simp only [hr] at h
          cases h
          rfl
        | ok reports =>
          simp only [hr] at h
          nomatch h
      obtain ⟨before, failed, rest, he, hkind, hat, hbefore⟩ := ih hothers
      exact ⟨target :: before, failed, rest, by rw [he]; rfl, hkind, hat, .cons ht hfiled hbefore⟩
    · obtain ⟨other, hp, hkind⟩ := hfails ((Output.ofPath target).render naming objects) skip
      rw [produce_of_error hp] at h ⊢
      cases h
      exact ⟨[], target, targets, rfl, hkind, hp, .nil _ fs⟩

/-! ## Loading the model -/

/-- Why no model is loaded: the search fails, or the first of the manifests found that cannot be loaded. -/
inductive LoadFails (fs : FileSystem) (input : Input) : Failure → Prop
  | search {fault : Search.Fault} : Search.manifests fs input.exclude input.modelDir = .error fault →
      LoadFails fs input (.searchFailed input.modelDir)
  | manifest {before rest : List Path} {p : Path} {failure : Failure} :
      Search.manifests fs input.exclude input.modelDir = .ok (before ++ p :: rest) →
      (∀ q ∈ before, ∃ objects, loadManifest fs q = .ok objects) → loadManifest fs p = .error failure →
      LoadFails fs input failure

/-- The loading of manifests fails at the first that cannot be loaded. -/
theorem loadManifests_fails {paths : List Path} (h : (loadManifests fs paths).result = .error failure) :
    ∃ before p rest, paths = before ++ p :: rest ∧ (∀ q ∈ before, ∃ objects, loadManifest fs q = .ok objects) ∧
      loadManifest fs p = .error failure := by
  induction paths with
  | nil => cases h
  | cons p paths ih =>
    rw [loadManifests] at h
    cases hp : loadManifest fs p with
    | error other =>
      simp only [hp] at h
      cases h
      exact ⟨[], p, paths, rfl, fun _ hq => absurd hq List.not_mem_nil, hp⟩
    | ok objects =>
      simp only [hp] at h
      have hothers : (loadManifests fs paths).result = .error failure := by
        cases hr : (loadManifests fs paths).result with
        | error other =>
          rw [hr] at h
          cases h
          rfl
        | ok others =>
          rw [hr] at h
          cases h
      obtain ⟨before, q, rest, he, hbefore, hq⟩ := ih hothers
      refine ⟨p :: before, q, rest, by rw [he]; rfl, ?_, hq⟩
      intro r hr
      rcases List.mem_cons.mp hr with rfl | hr
      · exact ⟨objects, hp⟩
      · exact hbefore r hr

/-- A model that is not loaded has a reason for it. -/
theorem loadFails_of_loadModel (h : (loadModel fs input).result = .error failure) : LoadFails fs input failure := by
  rw [loadModel, findManifests] at h
  cases hs : Search.manifests fs input.exclude input.modelDir with
  | error fault =>
    simp only [hs] at h
    cases h
    exact .search hs
  | ok paths =>
    simp only [hs] at h
    cases ho : (loadManifests fs paths).result with
    | error other =>
      simp only [ho] at h
      cases h
      obtain ⟨before, p, rest, he, hbefore, hp⟩ := loadManifests_fails ho
      exact .manifest (he ▸ hs) hbefore hp
    | ok objects =>
      simp only [ho] at h
      cases h

/-! ## Runs -/

/-- A run whose model is loaded produces all targets and tells first how the model was loaded. -/
theorem all_of_loaded {config : Config} (h : (loadModel fs config.input).result = .ok objects) :
    all fs config =
      ⟨(produce config.naming config.targets.skipUnchanged objects config.targets.paths fs).result,
        (loadModel fs config.input).log ++
          (produce config.naming config.targets.skipUnchanged objects config.targets.paths fs).log,
        (produce config.naming config.targets.skipUnchanged objects config.targets.paths fs).files⟩ := by
  simp only [all, h]

/-- A run whose model is not loaded fails as the loading does and leaves the files as they are. -/
theorem all_of_not_loaded {config : Config} (h : (loadModel fs config.input).result = .error failure) :
    all fs config = ⟨.error failure, (loadModel fs config.input).log, fs⟩ := by
  simp only [all, h]

/-- A run that fails has loaded no model, and then everything is as it was; or it has loaded the model, persisted the targets
before one that then failed, in order and with their texts, and left everything else as it was, so that nothing has changed
at a location to which none of the targets before leads. -/
theorem all_fails (fs : FileSystem) (config : Config) (failure : Failure) (h : (all fs config).result = .error failure) :
    (LoadFails fs config.input failure ∧ (all fs config).files = fs) ∨
      ∃ objects before target rest, (loadModel fs config.input).result = .ok objects ∧
        config.targets.paths = before ++ target :: rest ∧
        (failure = .targetUnreadable target ∨ failure = .targetUnwritable target) ∧
        persist (all fs config).files target ((Output.ofPath target).render config.naming objects)
          config.targets.skipUnchanged = .error failure ∧
        Persisted (contentOf config.naming objects) before fs (all fs config).files ∧
        ∀ l, (∀ p ∈ before, fs.locationOf? p ≠ some l) → (all fs config).files.node? l = fs.node? l := by
  cases hm : (loadModel fs config.input).result with
  | error other =>
    rw [all_of_not_loaded hm] at h ⊢
    cases h
    exact Or.inl ⟨loadFails_of_loadModel hm, rfl⟩
  | ok objects =>
    rw [all_of_loaded hm] at h ⊢
    obtain ⟨before, target, rest, he, hkind, hat, hbefore⟩ := produce_fails h
    exact Or.inr ⟨objects, before, target, rest, rfl, he, hkind, hat, hbefore, fun l => hbefore.unchanged⟩

/-- A model with one manifest, and a link to a file that is not there. -/
def withLink : FileSystem := oneManifest.put ["work".toList] "link.ts".toList (.link "models/a.ts".toList)

/-- A file and a link to it, a target in a directory that is not there, and one that is not reached. -/
def fourTargets : Config where
  input := ⟨"models".toList, []⟩
  targets := ⟨["models/a.ts".toList, "link.ts".toList, "gone/b.js".toList, "c.js".toList], true⟩
  naming := Naming.standard

/-- The run over these targets fails at the third, and has then persisted those before it. -/
theorem fourTargets_fail :
    (all withLink fourTargets).result = .error (.targetUnwritable "gone/b.js".toList) ∧
      ∃ objects before rest, (loadModel withLink fourTargets.input).result = .ok objects ∧
        fourTargets.targets.paths = before ++ "gone/b.js".toList :: rest ∧
        Persisted (contentOf fourTargets.naming objects) before withLink (all withLink fourTargets).files := by
  have h : (all withLink fourTargets).result = .error (.targetUnwritable "gone/b.js".toList) := by decide +kernel
  have hwritten : (all withLink fourTargets).files.node? ["a.ts".toList, "models".toList, "work".toList] ≠
      withLink.node? ["a.ts".toList, "models".toList, "work".toList] := by
    decide +kernel
  refine ⟨h, ?_⟩
  rcases all_fails withLink fourTargets _ h with ⟨-, hsame⟩ | ⟨objects, before, target, rest, hm, he, hkind, -, hp, -⟩
  · exact absurd (by rw [hsame]) hwritten
  · have ht : target = "gone/b.js".toList := by
      rcases hkind with hk | hk
      · nomatch hk
      · cases hk
        rfl
    exact ⟨objects, before, rest, hm, ht ▸ he, hp⟩

end ModelStubs.Run
