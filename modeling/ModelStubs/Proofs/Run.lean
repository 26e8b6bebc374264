import ModelStubs.Proofs.Search
import ModelStubs.Run

/-!
# A run settles its targets

Where there are no symbolic links and no target is a manifest by name, a run that succeeds leaves each target with the
text of the model that was loaded before it, and touches nothing else (`settled_of_produce`). What it leaves is settled: the
next run loads the same model (`loadModel_of_grown`), finds every target as it would write it, and changes nothing
(`all_settles`).
-/

namespace ModelStubs.Run

open FileSystem (LinkFree Grown Stored)

/-- What a target is to hold. -/
def contentOf (naming : Naming) (objects : List Object) (target : Path) : ByteArray :=
  Text.encode ((Output.ofPath target).render naming objects)

/-- Targets that are one file by name are to hold the same. -/
theorem contentOf_eq_of_fileName?_eq {p q : Path} (h : Path.fileName? p = Path.fileName? q) (naming : Naming)
    (objects : List Object) : contentOf naming objects p = contentOf naming objects q := by
  rw [contentOf, Output.ofPath_eq_of_fileName?_eq h, contentOf]

/-! ## One target -/

/-- What can have been done with a target that was persisted: it was left alone with its text in it, or written. -/
theorem persist_cases {fs after : FileSystem} {target : Path} {t : Text} {skip : Bool} {status : Status}
    (h : persist fs target t skip = .ok (status, after)) :
    (status = .unchanged ∧ after = fs ∧ fs.read target = .ok (Text.encode t)) ∨
      (status = .written ∧ fs.write target (Text.encode t) = .ok after) := by
  simp only [persist] at h
  split at h
  · split at h
    · cases h
    · rename_i current hread
      split at h
      · rename_i hcurrent
        cases h
        exact Or.inl ⟨rfl, rfl, hread.trans (congrArg _ hcurrent)⟩
      · split at h
        · rename_i hwrite
          cases h
          exact Or.inr ⟨rfl, hwrite⟩
        · cases h
  · split at h
    · rename_i hwrite
      cases h
      exact Or.inr ⟨rfl, hwrite⟩
    · cases h

/-- A target that was persisted holds its text, whether it was written or left alone. -/
theorem stored_of_persist {fs after : FileSystem} (hl : fs.LinkFree) {target : Path} {t : Text} {skip : Bool}
    {status : Status} (h : persist fs target t skip = .ok (status, after)) : Stored fs after target (Text.encode t) := by
  rcases persist_cases h with ⟨-, rfl, hread⟩ | ⟨-, hwrite⟩
  · exact FileSystem.stored_of_read hl hread
  · exact FileSystem.stored_of_write hl hwrite

/-- A target that holds its text is left alone. -/
theorem persist_of_read {fs : FileSystem} {target : Path} {t : Text} (h : fs.read target = .ok (Text.encode t)) :
    persist fs target t true = .ok (.unchanged, fs) := by
  obtain ⟨l, hp, hc⟩ := (FileSystem.read_eq_ok_iff fs target _).mp h
  have hhas : fs.has target = true := by
    rw [FileSystem.has, FileSystem.lookup?, (FileSystem.find?_eq_some_iff fs target l).mpr hp, Option.bind_some, hc]
    rfl
  rw [persist, hhas, h]
  simp

/-! ## All targets -/

/-- `after` is `fs` with what the targets are to hold in them, and nothing else. -/
structure Settled (naming : Naming) (objects : List Object) (targets : List Path) (fs after : FileSystem) : Prop where
  grown : Grown fs after
  stored : ∀ p ∈ targets, ∃ name parent, Path.fileName? p = some name ∧ after.locate p = .ok (.found (name :: parent)) ∧
    after.node? (name :: parent) = some (.file (contentOf naming objects p))
  others : ∀ l, (∀ p ∈ targets, after.find? p ≠ some l) → after.node? l = fs.node? l

variable {naming : Naming} {objects : List Object} {targets : List Path} {fs mid after : FileSystem}

/-- What a target that leads to `l` holds, and what it is called. -/
theorem Settled.of_find? (h : Settled naming objects targets fs after) {p : Path} (hp : p ∈ targets) {l : Location}
    (hf : after.find? p = some l) :
    ∃ name parent, l = name :: parent ∧ Path.fileName? p = some name ∧
      after.node? l = some (.file (contentOf naming objects p)) := by
  obtain ⟨name, parent, hname, hloc, hcontent⟩ := h.stored p hp
  have he := hloc.symm.trans ((FileSystem.find?_eq_some_iff after p l).mp hf)
  simp only [Except.ok.injEq, Place.found.injEq] at he
  subst he
  exact ⟨name, parent, rfl, hname, hcontent⟩

/-- Storing one target and settling the rest settles all of them: if a later target is the same file, it has the same
name and so is to hold the same. -/
theorem Settled.cons {target : Path}
    (hs : Stored fs mid target (contentOf naming objects target)) (h : Settled naming objects targets mid after) :
    Settled naming objects (target :: targets) fs after := by
  obtain ⟨name, parent, hname, hloc, hcontent, hothers, hgrown⟩ := hs
  have hfound : after.locate target = .ok (.found (name :: parent)) := h.grown.locate_found hgrown.linkFree hloc
  refine ⟨hgrown.trans h.grown, ?_, ?_⟩
  · intro p hp
    rcases List.mem_cons.mp hp with rfl | hp
    · refine ⟨name, parent, hname, hfound, ?_⟩
      by_cases hq : ∃ q ∈ targets, after.find? q = some (name :: parent)
      · obtain ⟨q, hqt, hq⟩ := hq
        obtain ⟨_, _, he, hname', hcontent'⟩ := h.of_find? hqt hq
        cases he
        rw [hcontent', contentOf_eq_of_fileName?_eq (hname'.trans hname.symm)]
      · rw [h.others _ fun q hqt hf => hq ⟨q, hqt, hf⟩]
        exact hcontent
    · exact h.stored p hp
  · intro l hn
    have hne : l ≠ name :: parent := by
      rintro rfl
      exact hn target List.mem_cons_self ((FileSystem.find?_eq_some_iff after target _).mpr hfound)
    rw [h.others l fun p hp => hn p (List.mem_cons_of_mem _ hp), hothers l hne]

/-- What a run that succeeds does with the first of its targets. -/
theorem produce_cons_eq_ok {target : Path} {skip : Bool} {reports : List Report}
    (h : (produce naming skip objects (target :: targets) fs).result = .ok reports) :
    ∃ status mid others,
      persist fs target ((Output.ofPath target).render naming objects) skip = .ok (status, mid) ∧
      (produce naming skip objects targets mid).result = .ok others ∧
      reports = ⟨target, Output.ofPath target, status⟩ :: others ∧
      (produce naming skip objects (target :: targets) fs).files = (produce naming skip objects targets mid).files := by
  rw [produce] at h ⊢
  cases hp : persist fs target ((Output.ofPath target).render naming objects) skip with
  | error failure => simp [hp] at h
  | ok done =>
    obtain ⟨status, mid⟩ := done
    simp only [hp] at h ⊢
    cases hr : (produce naming skip objects targets mid).result with
    | error failure => simp [hr, Except.map] at h
    | ok others =>
      rw [hr] at h
      cases h
      exact ⟨status, mid, others, rfl, hr, rfl, rfl⟩

/-- Without links, targets that are all produced are settled: each holds its content, and nothing else was touched. -/
theorem settled_of_produce {reports : List Report} (hl : fs.LinkFree)
    (h : (produce naming true objects targets fs).result = .ok reports) :
    Settled naming objects targets fs (produce naming true objects targets fs).files := by
  induction targets generalizing fs reports with
  | nil => exact ⟨Grown.refl hl, fun _ hp => absurd hp List.not_mem_nil, fun _ _ => rfl⟩
  | cons target targets ih =>
    obtain ⟨status, mid, others, hp, hr, -, hf⟩ := produce_cons_eq_ok h
    have hs := stored_of_persist hl hp
    obtain ⟨_, _, hat⟩ := id hs
    rw [hf]
    exact Settled.cons hs (ih hat.grown.linkFree hr)

/-- The reports name the targets in order, each with the kind of its output. -/
theorem reports_of_produce {skip : Bool} {reports : List Report}
    (h : (produce naming skip objects targets fs).result = .ok reports) :
    reports.map (fun r => (r.path, r.output)) = targets.map fun p => (p, Output.ofPath p) := by
  induction targets generalizing fs reports with
  | nil =>
    cases h
    rfl
  | cons target targets ih =>
    obtain ⟨status, mid, others, -, hr, rfl, -⟩ := produce_cons_eq_ok h
    rw [List.map_cons, List.map_cons, ih hr]

/-- Targets that hold what they are to hold are all left alone. -/
theorem produce_of_read (h : ∀ p ∈ targets, fs.read p = .ok (contentOf naming objects p)) :
    (produce naming true objects targets fs).result =
        .ok (targets.map fun p => ⟨p, Output.ofPath p, .unchanged⟩) ∧
      (produce naming true objects targets fs).files = fs := by
  induction targets with
  | nil => exact ⟨rfl, rfl⟩
  | cons target targets ih =>
    obtain ⟨hr, hf⟩ := ih fun p hp => h p (List.mem_cons_of_mem _ hp)
    rw [produce, persist_of_read (h target List.mem_cons_self)]
    simp only [hr, hf]
    exact ⟨rfl, trivial⟩

/-- A target that is settled reads as its content. -/
theorem Settled.read (h : Settled naming objects targets fs after) :
    ∀ p ∈ targets, after.read p = .ok (contentOf naming objects p) := by
  intro p hp
  obtain ⟨name, parent, -, hloc, hcontent⟩ := h.stored p hp
  exact (FileSystem.read_eq_ok_iff after p _).mpr ⟨_, hloc, hcontent⟩

/-- Settling targets that are no manifests by name touches no manifest. -/
theorem Settled.untouched (h : Settled naming objects targets fs after)
    (ht : ∀ p ∈ targets, Search.isManifest p = false) : Search.Untouched fs after := by
  intro name parent hne
  by_cases hp : ∃ p ∈ targets, after.find? p = some (name :: parent)
  · obtain ⟨p, hpt, hp⟩ := hp
    obtain ⟨_, _, he, hname, hcontent⟩ := h.of_find? hpt hp
    cases he
    have hn := entryName_of_isEntryName (FileSystem.isEntryName_of_node? hcontent)
    rw [← ht p hpt]
    exact Search.isManifest_eq_of_fileName?_eq ((Path.fileName?_append (Or.inl rfl) hn).trans hname.symm)
  · exact absurd (h.others _ fun p hpt hf => hp ⟨p, hpt, hf⟩) hne

/-! ## The model after growth -/

/-- A manifest that can be read holds the same after a growth that touched no manifest. -/
theorem read_of_grown (h : Grown fs after) (hl : fs.LinkFree) (hu : Search.Untouched fs after) {p : Path}
    (hm : Search.isManifest p = true) {content : ByteArray} (hr : fs.read p = .ok content) :
    after.read p = .ok content := by
  obtain ⟨l, hp, hc⟩ := (FileSystem.read_eq_ok_iff fs p content).mp hr
  obtain ⟨name, parent, rfl, hname⟩ := FileSystem.fileName?_of_locate hl hp hc
  refine (FileSystem.read_eq_ok_iff after p content).mpr ⟨_, h.locate_found hl hp, ?_⟩
  rw [← hc]
  refine Decidable.byContradiction fun hne => ?_
  have hn := entryName_of_isEntryName (FileSystem.isEntryName_of_node? hc)
  have hsame : Search.isManifest name = Search.isManifest p :=
    Search.isManifest_eq_of_fileName?_eq ((Path.fileName?_append (Or.inl rfl) hn).trans hname.symm)
  rw [hu name parent hne, hm] at hsame
  nomatch hsame

/-- A manifest holds the same text after growth that touches no manifest. -/
theorem readText_of_grown (h : Grown fs after) (hl : fs.LinkFree) (hu : Search.Untouched fs after) {p : Path}
    (hm : Search.isManifest p = true) {t : Text} (hr : readText fs p = some t) : readText after p = some t := by
  rw [readText] at hr
  cases hread : fs.read p with
  | error fault => simp [hread] at hr
  | ok content =>
    rw [hread] at hr
    rw [readText, read_of_grown h hl hu hm hread]
    exact hr

/-- A manifest loads the same objects after growth that touches no manifest. -/
theorem loadManifest_of_grown (h : Grown fs after) (hl : fs.LinkFree) (hu : Search.Untouched fs after) {p : Path}
    (hm : Search.isManifest p = true) {loaded : List Object} (hr : loadManifest fs p = .ok loaded) :
    loadManifest after p = .ok loaded := by
  rw [loadManifest] at hr
  cases ht : readText fs p with
  | none => simp [ht] at hr
  | some t =>
    rw [ht] at hr
    rw [loadManifest, readText_of_grown h hl hu hm ht]
    exact hr

/-- Manifests that are all loaded are loaded the same, with the same told of them. -/
theorem loadManifests_of_grown (h : Grown fs after) (hl : fs.LinkFree) (hu : Search.Untouched fs after)
    {paths : List Path} (hm : ∀ p ∈ paths, Search.isManifest p = true) {loaded : List Object}
    (hr : (loadManifests fs paths).result = .ok loaded) : loadManifests after paths = loadManifests fs paths := by
  induction paths generalizing loaded with
  | nil => rfl
  | cons p paths ih =>
    rw [loadManifests] at hr
    cases hp : loadManifest fs p with
    | error failure => simp [hp] at hr
    | ok first =>
      simp only [hp] at hr
      have hrest : loadManifests after paths = loadManifests fs paths := by
        cases ho : (loadManifests fs paths).result with
        | error failure => simp [ho, Except.map] at hr
        | ok others => exact ih (fun q hq => hm q (List.mem_cons_of_mem _ hq)) ho
      rw [loadManifests, loadManifest_of_grown h hl hu (hm p List.mem_cons_self) hp, hrest, loadManifests, hp]

/-- A model that can be loaded is the same after a growth that touched no manifest. -/
theorem loadModel_of_grown (h : Grown fs after) (hl : fs.LinkFree) (hu : Search.Untouched fs after) {input : Input}
    {loaded : List Object} (hr : (loadModel fs input).result = .ok loaded) :
    loadModel after input = loadModel fs input := by
  rw [loadModel, findManifests] at hr
  cases hs : Search.manifests fs input.exclude input.modelDir with
  | error fault => simp [hs] at hr
  | ok paths =>
    have hload : loadManifests after paths = loadManifests fs paths := by
      cases ho : (loadManifests fs paths).result with
      | error failure => simp [hs, ho] at hr
      | ok first => exact loadManifests_of_grown h hl hu (Search.isManifest_of_mem_manifests hs) ho
    rw [loadModel, findManifests, Search.manifests_of_grown h hl hu hs, loadModel, findManifests, hs]
    simp only [hload]

/-! ## Runs -/

/-- A run that succeeds has loaded a model and then produced its targets. -/
theorem all_eq_ok {config : Config} {reports : List Report} (h : (all fs config).result = .ok reports) :
    ∃ objects, (loadModel fs config.input).result = .ok objects ∧
      (produce config.naming config.targets.skipUnchanged objects config.targets.paths fs).result = .ok reports ∧
      (all fs config).files =
        (produce config.naming config.targets.skipUnchanged objects config.targets.paths fs).files := by
  rw [all] at h ⊢
  cases hm : (loadModel fs config.input).result with
  | error failure => simp [hm] at h
  | ok objects =>
    simp only [hm] at h
    exact ⟨objects, rfl, h, rfl⟩

/-- Without symbolic links, and with no target that is a manifest by name, a run that succeeds and leaves unchanged targets
alone settles its targets: each holds the text of the model loaded before the run, nothing else has changed, the reports
name the targets in order with the kinds of their outputs, and a second run succeeds, finds every target unchanged and
leaves everything as it is. -/
theorem all_settles (fs : FileSystem) (config : Config) (reports : List Report) (hl : fs.LinkFree)
    (hskip : config.targets.skipUnchanged = true)
    (ht : ∀ p ∈ config.targets.paths, Path.extension? p ≠ some "toml".toList)
    (h : (all fs config).result = .ok reports) :
    ∃ objects, (loadModel fs config.input).result = .ok objects ∧
      (∀ p ∈ config.targets.paths, (all fs config).files.read p =
        .ok (Text.encode ((Output.ofPath p).render config.naming objects))) ∧
      (all fs config).files.workDir = fs.workDir ∧
      (∀ l, (∀ p ∈ config.targets.paths, (all fs config).files.find? p ≠ some l) →
        (all fs config).files.node? l = fs.node? l) ∧
      reports.map (fun r => (r.path, r.output)) = config.targets.paths.map (fun p => (p, Output.ofPath p)) ∧
      (all (all fs config).files config).result =
        .ok (config.targets.paths.map fun p => ⟨p, Output.ofPath p, .unchanged⟩) ∧
      (all (all fs config).files config).files = (all fs config).files := by
  obtain ⟨objects, hm, hp, hf⟩ := all_eq_ok h
  rw [hskip] at hp hf
  have hs := settled_of_produce hl hp
  rw [← hf] at hs
  have hu := hs.untouched fun p hpt => decide_eq_false (ht p hpt)
  have hsame := loadModel_of_grown hs.grown hl hu hm
  obtain ⟨hresult, hfiles⟩ := produce_of_read hs.read
  refine ⟨objects, hm, hs.read, hs.grown.workDir, hs.others, reports_of_produce hp, ?_, ?_⟩
  · rw [all, hsame]
    simp only [hm, hskip]
    exact hresult
  · rw [all, hsame]
    simp only [hm, hskip]
    exact hfiles

/-- A manifest, alone in the directory of a model. -/
def oneManifest : FileSystem :=
  ((FileSystem.empty "work".toList).put ["work".toList] "models".toList .directory).put
    ["models".toList, "work".toList] "shop.toml".toList
    (.file (Text.encode "[[object]]\nname = \"Order\"\nfull_name = \"Shop.Order\"\n".toList))

/-- Three targets beside the manifests, the first two of which are the same file. -/
def threeTargets : Config where
  input := ⟨"models".toList, []⟩
  targets := ⟨["models/a.ts".toList, "models/../models/a.ts".toList, "models/a.js".toList], true⟩
  naming := Naming.standard

/-- The second of two targets that are the same file is left alone in the first run already. -/
theorem threeTargets_settle :
    (all oneManifest threeTargets).result =
        .ok [⟨"models/a.ts".toList, .declarations, .written⟩,
          ⟨"models/../models/a.ts".toList, .declarations, .unchanged⟩, ⟨"models/a.js".toList, .stubs, .written⟩] ∧
      (all (all oneManifest threeTargets).files threeTargets).result =
        .ok (threeTargets.targets.paths.map fun p => ⟨p, Output.ofPath p, .unchanged⟩) ∧
      (all (all oneManifest threeTargets).files threeTargets).files = (all oneManifest threeTargets).files := by
  have h : (all oneManifest threeTargets).result =
      .ok [⟨"models/a.ts".toList, .declarations, .written⟩,
        ⟨"models/../models/a.ts".toList, .declarations, .unchanged⟩, ⟨"models/a.js".toList, .stubs, .written⟩] := by
    decide +kernel
  have hl : oneManifest.LinkFree := by decide +kernel
  have ht : ∀ p ∈ threeTargets.targets.paths, Path.extension? p ≠ some "toml".toList := by decide +kernel
  obtain ⟨_, -, -, -, -, -, hresult, hfiles⟩ := all_settles oneManifest threeTargets _ hl rfl ht h
  exact ⟨h, hresult, hfiles⟩

end ModelStubs.Run
