import ModelStubs.Program
import ModelStubs.Proofs.Directories
import ModelStubs.Proofs.Ways

/-!
# Making a configuration file

Where a path leads to a place that a file can take, a configuration is saved there and nothing else changes
(`save_of_takes`); elsewhere saving fails (`save_of_not_takes`). The command that makes a configuration file asks first
whether something is there, by the same way that saving takes, links included. So without force it replaces nothing, and
what it made is loaded as the standard configuration (`init_settles`).
-/

namespace ModelStubs

namespace Config

open FileSystem (Takes Filed)

variable {fs after : FileSystem} {p : Path} {l : Location} {config : Config} {force : Bool}

/-! ## Saving -/

/-- Saving where a path takes a file files the text of the configuration there, and the path reads it back. -/
theorem save_of_takes (h : fs.Takes p l) (config : Config) :
    ∃ after, save fs config p = .ok after ∧ Filed fs after l (Text.encode config.toText) ∧
      after.read p = .ok (Text.encode config.toText) := by
  obtain ⟨after, hw, hfiled⟩ := FileSystem.write_of_takes h (Text.encode config.toText)
  refine ⟨after, ?_, hfiled, FileSystem.read_of_write hw⟩
  rw [save, hw]

/-- Saving where a path takes no file fails as unwritable. -/
theorem save_of_not_takes (h : ∀ l, ¬fs.Takes p l) (config : Config) : save fs config p = .error (.configUnwritable p) := by
  obtain ⟨fault, hw⟩ := FileSystem.write_of_not_takes h (Text.encode config.toText)
  rw [save, hw]

/-! ## The standard configuration -/

/-- The standard configuration is loaded where its model and the directory of its targets are. -/
theorem load_standard (h : fs.read p = .ok (Text.encode standard.toText)) (hm : fs.has "models".toList = true)
    (hd : fs.hasDirectory "wwwroot/js".toList = true) : load fs p = (.ok standard, fs) := by
  have hparents : ∀ target ∈ standard.targets.paths, Path.parent? target = some "wwwroot/js".toList := by
    decide +kernel
  have hdirs : makeTargetDirs standard.targets.paths fs = (.ok (), fs) := by
    refine makeTargetDirs_of_has fun target ht dir hp => Or.inr ?_
    cases (hparents target ht).symm.trans hp
    exact FileSystem.has_of_hasDirectory hd
  exact (load_eq_ok_iff fs p standard fs).mpr
    ⟨readFile_of_read h, check_eq_ok hm (by decide) (by decide), hdirs⟩

/-- Without force, a path to something is refused as one that exists. -/
theorem init_of_has (h : fs.has p = true) : init fs p false = .error (.configExists p) := by
  rw [init, h]
  rfl

/-- With force, or on a path to nothing, the standard configuration is saved. -/
theorem init_of_free (h : force = true ∨ fs.has p = false) : init fs p force = save fs standard p := by
  rw [init]
  rcases h with rfl | h
  · rw [Bool.not_true, Bool.and_false]
    rfl
  · rw [h]
    rfl

end Config

namespace Program

open FileSystem (Takes Filed)

variable {fs : FileSystem} {p : Path} {l : Location} {force : Bool}

/-! ## The command -/

/-- Without force, the command fails on a path to something and leaves the files as they were. -/
theorem init_of_has (h : fs.has p = true) : init fs p false = failed (.configExists p) [] fs := by
  rw [init, Config.init_of_has h]

/-- The command fails on a path that takes no file and leaves the files as they were. -/
theorem init_of_not_takes (hfree : force = true ∨ fs.has p = false) (h : ∀ l, ¬fs.Takes p l) :
    init fs p force = failed (.configUnwritable p) [] fs := by
  rw [init, Config.init_of_free hfree, Config.save_of_not_takes h]

/-- The command succeeds on a path that takes a file, and the path then reads as the standard configuration. -/
theorem init_of_takes (hfree : force = true ∨ fs.has p = false) (h : fs.Takes p l) :
    ∃ after, init fs p force = ⟨0, welcome p, [], after⟩ ∧ Filed fs after l (Text.encode Config.standard.toText) ∧
      after.read p = .ok (Text.encode Config.standard.toText) := by
  obtain ⟨after, hsave, hfiled, hread⟩ := Config.save_of_takes h Config.standard
  exact ⟨after, by rw [init, Config.init_of_free hfree, hsave], hfiled, hread⟩

/-- Where nothing is, no file is replaced. -/
theorem node?_of_filed_of_not_has {after : FileSystem} {content old : ByteArray} {l' : Location} (ht : fs.Takes p l)
    (hf : Filed fs after l content) (hp : fs.has p = false) (hn : fs.node? l' = some (.file old)) :
    after.node? l' = some (.file old) := by
  have hnone : fs.node? l = none := by
    rwa [FileSystem.has_eq, ht.location, Option.bind_some, Option.isSome_eq_false_iff, Option.isNone_iff_eq_none] at hp
  rw [hf.node?, if_neg, hn]
  rintro rfl
  nomatch hnone.symm.trans hn

/-- The command that makes a configuration file fails, says why and changes nothing; or it succeeds, and then the path leads
to a file with the standard configuration and nothing else has changed. If a model and the directory of the targets are
there, that file is loaded as the standard configuration. The command succeeds exactly if the path leads to a place that a
file can take and, without force, nothing is there. So without force it refuses a path that leads to a file or a directory,
and every file keeps its content. -/
theorem init_settles (fs : FileSystem) (p : Path) (force : Bool) :
    ((∃ failure, init fs p force = failed failure [] fs) ∨
        ∃ after l, init fs p force = ⟨0, welcome p, [], after⟩ ∧ fs.Takes p l ∧
          Filed fs after l (Text.encode Config.standard.toText) ∧
          after.read p = .ok (Text.encode Config.standard.toText) ∧
          (after.has "models".toList = true → after.hasDirectory "wwwroot/js".toList = true →
            Config.load after p = (.ok Config.standard, after))) ∧
      ((init fs p force).exit = 0 ↔ (∃ l, fs.Takes p l) ∧ (force = true ∨ fs.has p = false)) ∧
      (force = false → fs.has p = true → init fs p force = failed (.configExists p) [] fs) ∧
      (force = false → ∀ l content, fs.node? l = some (.file content) →
        (init fs p force).files.node? l = some (.file content)) := by
  have hrefused : force = false → fs.has p = true → init fs p force = failed (.configExists p) [] fs := by
    rintro rfl h
    exact init_of_has h
  have hkept_of_failed : ∀ {failure}, init fs p force = failed failure [] fs → ∀ l content, fs.node? l = some (.file content) →
      (init fs p force).files.node? l = some (.file content) := by
    intro failure he l content hn
    rw [he]
    exact hn
  by_cases hfree : force = true ∨ fs.has p = false
  · by_cases ht : ∃ l, fs.Takes p l
    · obtain ⟨l, ht⟩ := ht
      obtain ⟨after, he, hfiled, hread⟩ := init_of_takes hfree ht
      refine ⟨Or.inr ⟨after, l, he, ht, hfiled, hread, Config.load_standard hread⟩,
        iff_of_true (by rw [he]) ⟨⟨l, ht⟩, hfree⟩, hrefused, fun hforce l' content hn => ?_⟩
      rw [he]
      exact node?_of_filed_of_not_has ht hfiled (hfree.resolve_left (by rw [hforce]; decide)) hn
    · have he := init_of_not_takes hfree (not_exists.mp ht)
      exact ⟨Or.inl ⟨_, he⟩, iff_of_false (by rw [he]; nofun) fun h => ht h.1, hrefused, fun _ => hkept_of_failed he⟩
  · have ⟨hforce, hp⟩ : force = false ∧ fs.has p = true := by simpa using hfree
    have he := hrefused hforce hp
    exact ⟨Or.inl ⟨_, he⟩, iff_of_false (by rw [he]; nofun) fun h => hfree h.2, hrefused, fun _ => hkept_of_failed he⟩

/-- A directory with a model, the directory of the standard targets, and a link to a place where nothing is. -/
def linked : FileSystem :=
  let shelf := (FileSystem.empty "work".toList).put ["work".toList] "models".toList .directory
  let rooted := shelf.put ["work".toList] "wwwroot".toList .directory
  let sited := rooted.put ["wwwroot".toList, "work".toList] "js".toList .directory
  sited.put ["work".toList] "c.toml".toList (.link "conf.toml".toList)

/-- By the link a file is made where nothing was and loaded as the standard configuration. A second call is refused, as the
link leads to a file by then. -/
theorem linked_settles : ∃ after, init linked "c.toml".toList false = ⟨0, welcome "c.toml".toList, [], after⟩ ∧
    after.node? ["conf.toml".toList, "work".toList] = some (.file (Text.encode Config.standard.toText)) ∧
    Config.load after "c.toml".toList = (.ok Config.standard, after) ∧
    init after "c.toml".toList false = failed (.configExists "c.toml".toList) [] after := by
  have htakes : linked.Takes "c.toml".toList ["conf.toml".toList, "work".toList] := ⟨by decide +kernel, by decide +kernel⟩
  obtain ⟨hends, hexit, -, -⟩ := init_settles linked "c.toml".toList false
  have hzero : (init linked "c.toml".toList false).exit = 0 :=
    hexit.mpr ⟨⟨_, htakes⟩, Or.inr (by decide +kernel)⟩
  rcases hends with ⟨failure, he⟩ | ⟨after, l, he, ht, hfiled, hread, hload⟩
  · rw [he] at hzero
    nomatch hzero
  · cases ht.location.symm.trans htakes.location
    have hafter : after = (init linked "c.toml".toList false).files := by rw [he]
    have hthere : after.has "models".toList = true ∧ after.hasDirectory "wwwroot/js".toList = true ∧
        after.has "c.toml".toList = true := by
      rw [hafter]
      decide +kernel
    obtain ⟨hmodels, hjs, hc⟩ := hthere
    exact ⟨after, he, (hfiled.node? _).trans (if_pos rfl), hload hmodels hjs, (init_settles after _ false).2.2.1 rfl hc⟩

end Program

end ModelStubs
