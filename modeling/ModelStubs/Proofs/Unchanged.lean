import ModelStubs.Proofs.Targets

/-!
# Leaving unchanged targets alone

A run that leaves unchanged targets alone and one that writes every target, started on file systems with the same contents,
go on side by side: what the one leaves alone the other writes as it is, and where one fails the other does
(`alike_produce`). So they end with the same contents, fail at the same target, and tell the same but for what was left alone
(`skipping_changes_nothing`).
-/

namespace ModelStubs

/-- A report as a run gives it that writes every target. -/
def Run.Report.plain (report : Run.Report) : Run.Report := { report with status := .written }

/-- An event as a run tells it that writes every target. -/
def Event.plain : Event → Event
  | leftUnchanged target => wrote target
  | event => event

/-- Whether an event is told while a model is loaded. -/
def Event.isLoading : Event → Bool
  | noManifests _ => true
  | manifestLoaded _ _ => true
  | nameRepeated _ _ => true
  | modelLoaded _ _ => true
  | _ => false

/-- A configuration with unchanged targets left alone, or not. -/
def Config.skipping (config : Config) (skip : Bool) : Config :=
  { config with targets := { config.targets with skipUnchanged := skip } }

namespace Run

open FileSystem (SameContents)

variable {fs a b : FileSystem} {naming : Naming} {objects : List Object} {targets : List Path} {target : Path}

/-- The targets that are begun with, in order, as a log tells it. -/
def begun (log : List Event) : List Path :=
  log.filterMap fun
    | .generating _ target => some target
    | _ => none

/-- A run has failed at a target after it had begun with others before that, and with none after it. -/
structure FailedAt (run : Outcome (List Report)) (before : List Path) (target : Path) : Prop where
  result : run.result = .error (.targetUnreadable target) ∨ run.result = .error (.targetUnwritable target)
  begun : begun run.log = before ++ [target]

/-! ## One target -/

/-- A target that is persisted in one of two file systems with the same contents is persisted in the other, which keeps the
contents the same; the one that is not looked at first is written. -/
theorem persist_alike (h : SameContents a b) (target : Path) (t : Text) :
    (∃ status a' b', persist a target t true = .ok (status, a') ∧ persist b target t false = .ok (.written, b') ∧
      SameContents a' b') ∨
    ∃ failure, persist a target t true = .error failure ∧
      persist b target t false = .error (.targetUnwritable target) ∧
      (failure = .targetUnreadable target ∨ failure = .targetUnwritable target) := by
  have hloc := h.sameWays.locationOf?_eq target
  cases hl : a.locationOf? target with
  | none => exact Or.inr ⟨_, persist_of_nowhere hl t true, persist_of_nowhere (hloc.trans hl) t false, Or.inr rfl⟩
  | some l =>
    by_cases hd : a.node? l = some .directory
    · exact Or.inr ⟨_, persist_of_directory hl hd t true,
        persist_of_directory (hloc.trans hl) ((h.node? l).trans hd) t false, Or.inl rfl⟩
    · have ht : a.Takes target l := ⟨hl, hd⟩
      obtain ⟨status, a', hpa, hfa, -⟩ := persist_of_takes ht t true
      obtain ⟨status', b', hpb, hfb, hwritten⟩ := persist_of_takes ((h.sameWays.takes_iff target l).mpr ht) t false
      rw [hwritten rfl] at hpb
      exact Or.inl ⟨status, a', b', hpa, hpb, h.filed hfa hfb⟩

/-! ## All targets -/

/-- A run that leaves unchanged targets alone, and one over the same targets that does not. -/
structure Alike (targets : List Path) (skipping plain : Outcome (List Report)) : Prop where
  files : SameContents skipping.files plain.files
  log : plain.log = skipping.log.map Event.plain
  result : (∃ reports, skipping.result = .ok reports ∧ plain.result = .ok (reports.map Report.plain)) ∨
    ∃ before target rest, targets = before ++ target :: rest ∧ FailedAt skipping before target ∧
      FailedAt plain before target

theorem begun_append (log more : List Event) : begun (log ++ more) = begun log ++ begun more :=
  List.filterMap_append

/-- What is told before a target is persisted tells that the run has begun with it. -/
theorem begun_opening (objects : List Object) (target : Path) : begun (opening objects target) = [target] := by
  simp [opening, begun]

/-- What is told before a target is persisted does not depend on whether every target is written. -/
theorem map_plain_opening (objects : List Object) (target : Path) :
    (opening objects target).map Event.plain = opening objects target := by
  simp [opening, Event.plain]

/-- A run that writes every target tells that it wrote this one. -/
theorem plain_event (status : Status) (target : Path) : (status.event target).plain = .wrote target := by
  cases status <;> rfl

/-- What is told of a target that is persisted begins with no other. -/
theorem begun_event (status : Status) (target : Path) (log : List Event) :
    begun (status.event target :: log) = begun log := by
  cases status <;> rfl

/-- Behind a target that is persisted, a run has failed where the rest of it has failed, with one more target before. -/
theorem FailedAt.behind {run : Outcome (List Report)} {before : List Path} {failed : Path} (h : FailedAt run before failed)
    (objects : List Object) (target : Path) (report : Report) (status : Status) :
    FailedAt ⟨run.result.map (report :: ·), opening objects target ++ status.event target :: run.log, run.files⟩
      (target :: before) failed where
  result := h.result.imp (fun hr => by rw [hr]; rfl) fun hr => by rw [hr]; rfl
  begun := by
    rw [begun_append, begun_opening, begun_event, h.begun]
    rfl

/-- From the same contents, the targets are produced alike with and without leaving unchanged ones alone. -/
theorem alike_produce (naming : Naming) (objects : List Object) (targets : List Path) (h : SameContents a b) :
    Alike targets (produce naming true objects targets a) (produce naming false objects targets b) := by
  induction targets generalizing a b with
  | nil => exact ⟨h, rfl, Or.inl ⟨[], rfl, rfl⟩⟩
  | cons target targets ih =>
    rcases persist_alike h target ((Output.ofPath target).render naming objects) with
      ⟨status, a', b', ha, hb, hsame⟩ | ⟨failure, ha, hb, hkind⟩
    · obtain ⟨hfiles, hlog, hresult⟩ := ih hsame
      rw [produce_of_persist ha, produce_of_persist hb]
      refine ⟨hfiles, ?_, ?_⟩
      · rw [List.map_append, List.map_cons, map_plain_opening, plain_event, hlog]
        rfl
      · rcases hresult with ⟨reports, hra, hrb⟩ | ⟨before, failed, rest, he, hfa, hfb⟩
        · exact Or.inl ⟨⟨target, Output.ofPath target, status⟩ :: reports, by rw [hra]; rfl, by rw [hrb]; rfl⟩
        · exact Or.inr ⟨target :: before, failed, rest, by rw [he]; rfl, hfa.behind objects target _ _,
            hfb.behind objects target _ _⟩
    · rw [produce_of_error ha, produce_of_error hb]
      refine ⟨h, (map_plain_opening objects target).symm, Or.inr ⟨[], target, targets, rfl, ⟨?_, ?_⟩, Or.inr rfl, ?_⟩⟩
      · exact hkind.imp (fun hf => by rw [hf]) fun hf => by rw [hf]
      · exact begun_opening objects target
      · exact begun_opening objects target

/-! ## Runs -/

/-- Everything that is told while manifests are loaded is about loading. -/
theorem isLoading_loadManifests (fs : FileSystem) (paths : List Path) :
    ∀ e ∈ (loadManifests fs paths).log, e.isLoading = true := by
  induction paths with
  | nil => exact fun _ he => absurd he List.not_mem_nil
  | cons p paths ih =>
    rw [loadManifests]
    cases loadManifest fs p with
    | error failure => exact fun _ he => absurd he List.not_mem_nil
    | ok objects =>
      intro e he
      rcases List.mem_cons.mp he with rfl | he
      · rfl
      · exact ih e he

/-- Everything that is told while a model is loaded is about loading. -/
theorem isLoading_loadModel (fs : FileSystem) (input : Input) : ∀ e ∈ (loadModel fs input).log, e.isLoading = true := by
  have hnotice : ∀ paths : List Path, ∀ e ∈ (if paths = [] then [Event.noManifests input.modelDir] else []),
      e.isLoading = true := by
    intro paths e he
    split at he
    · rw [List.mem_singleton.mp he]
      rfl
    · exact absurd he List.not_mem_nil
  rw [loadModel]
  cases findManifests fs input with
  | error failure => exact fun _ he => absurd he List.not_mem_nil
  | ok paths =>
    have hloaded := isLoading_loadManifests fs paths
    cases hr : (loadManifests fs paths).result with
    | error failure =>
      simp only [hr]
      intro e he
      exact (List.mem_append.mp he).elim (hnotice paths e) (hloaded e)
    | ok objects =>
      simp only [hr]
      intro e he
      simp only [List.mem_append, List.mem_map, List.mem_singleton] at he
      rcases he with ((he | he) | ⟨object, -, rfl⟩) | rfl
      · exact hnotice paths e he
      · exact hloaded e he
      · rfl
      · rfl

/-- The loading of a model begins with no target. -/
theorem begun_loadModel (fs : FileSystem) (input : Input) : begun (loadModel fs input).log = [] := by
  refine List.filterMap_eq_nil_iff.mpr fun e he => ?_
  have hl := isLoading_loadModel fs input e he
  cases e with
  | generating output target => nomatch hl
  | _ => rfl

/-- What is told while a model is loaded does not depend on whether every target is written. -/
theorem map_plain_loadModel (fs : FileSystem) (input : Input) :
    (loadModel fs input).log.map Event.plain = (loadModel fs input).log := by
  have hsame : ∀ e ∈ (loadModel fs input).log, e.plain = id e := by
    intro e he
    have hl := isLoading_loadModel fs input e he
    cases e with
    | leftUnchanged target => nomatch hl
    | _ => rfl
  rw [List.map_congr_left hsame, List.map_id]

/-- A run whose model is loaded produces its targets, with unchanged ones left alone or not. -/
theorem all_skipping_of_loaded {config : Config} (h : (loadModel fs config.input).result = .ok objects) (skip : Bool) :
    all fs (config.skipping skip) =
      ⟨(produce config.naming skip objects config.targets.paths fs).result,
        (loadModel fs config.input).log ++ (produce config.naming skip objects config.targets.paths fs).log,
        (produce config.naming skip objects config.targets.paths fs).files⟩ :=
  all_of_loaded h

/-- A run whose model is not loaded fails in the same way, with unchanged targets left alone or not. -/
theorem all_skipping_of_not_loaded {config : Config} {failure : Failure}
    (h : (loadModel fs config.input).result = .error failure) (skip : Bool) :
    all fs (config.skipping skip) = ⟨.error failure, (loadModel fs config.input).log, fs⟩ :=
  all_of_not_loaded h

/-- Leaving unchanged targets alone changes nothing but what is said: the run that does and the run that does not end with the
same contents; both succeed with reports on the same targets and outputs, the latter having written them all, or both fail
without a model for the same reason, or both fail at the same target. -/
theorem skipping_changes_nothing (fs : FileSystem) (config : Config) :
    SameContents (all fs (config.skipping true)).files (all fs (config.skipping false)).files ∧
      (all fs (config.skipping false)).log = (all fs (config.skipping true)).log.map Event.plain ∧
      ((∃ reports, (all fs (config.skipping true)).result = .ok reports ∧
          (all fs (config.skipping false)).result = .ok (reports.map Report.plain)) ∨
        (∃ failure, (loadModel fs config.input).result = .error failure ∧
          (all fs (config.skipping true)).result = .error failure ∧
          (all fs (config.skipping false)).result = .error failure) ∨
        ∃ before target rest, config.targets.paths = before ++ target :: rest ∧
          FailedAt (all fs (config.skipping true)) before target ∧
          FailedAt (all fs (config.skipping false)) before target) := by
  have hload := begun_loadModel fs config.input
  have hplain := map_plain_loadModel fs config.input
  cases hm : (loadModel fs config.input).result with
  | error failure =>
    rw [all_skipping_of_not_loaded hm, all_skipping_of_not_loaded hm]
    exact ⟨.refl fs, hplain.symm, Or.inr (Or.inl ⟨failure, rfl, rfl, rfl⟩)⟩
  | ok objects =>
    rw [all_skipping_of_loaded hm, all_skipping_of_loaded hm]
    obtain ⟨hfiles, hlog, hresult⟩ :=
      alike_produce config.naming objects config.targets.paths (SameContents.refl fs)
    refine ⟨hfiles, by rw [List.map_append, hplain, hlog], ?_⟩
    rcases hresult with hdone | ⟨before, target, rest, he, ⟨hra, hba⟩, hrb, hbb⟩
    · exact Or.inl hdone
    · refine Or.inr (Or.inr ⟨before, target, rest, he, ⟨hra, ?_⟩, hrb, ?_⟩)
      · rw [begun_append, hload, List.nil_append, hba]
      · rw [begun_append, hload, List.nil_append, hbb]

end Run

end ModelStubs
