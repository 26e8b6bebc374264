import ModelStubs.Model
import ModelStubs.Path
import ModelStubs.Toml.Decode
import ModelStubs.Toml.Writer

/-!
# Configurations

A configuration says where the manifests of a model are, which files are made from it, and how names are written. It is
kept as a TOML document with one table for each of the three.
-/

namespace ModelStubs

open Toml (Fault Value)

/-- Where the manifests are: the directory that is searched, and the names that are passed over in it. -/
structure Input where
  modelDir : Path
  exclude : List Text
  deriving DecidableEq, Repr

/-- The files that are made, in order, and whether one that would not change is left alone. -/
structure Targets where
  paths : List Path
  skipUnchanged : Bool
  deriving DecidableEq, Repr

/-- A configuration. -/
structure Config where
  input : Input
  targets : Targets
  naming : Naming
  deriving DecidableEq, Repr

namespace Config

/-- The path of a configuration where none is given. -/
def defaultPath : Path := "intellisense.toml".toList

/-- The configuration that a new configuration file holds. -/
def standard : Config where
  input := ⟨"models".toList, ["drafts".toList]⟩
  targets := ⟨["wwwroot/js/server.js".toList, "wwwroot/js/server.d.ts".toList], true⟩
  naming := Naming.standard

/-- The table `input`, of which some fields were read. -/
structure InputDraft where
  modelDir : Option Path
  exclude : Option (List Text)

/-- Take the value of a key into the table `input`. -/
def inputField (draft : InputDraft) (key : Text) (v : Value) : Except Fault InputDraft := do
  if key = "model_dir".toList then return { draft with modelDir := some (← Toml.Decode.path v) }
  else if key = "exclude".toList then
    return { draft with exclude := some (← Toml.Decode.list Toml.Decode.string v) }
  else
    v.pass
    return draft

/-- The table `input`. -/
def readInput : Value → Except Fault Input :=
  Toml.Decode.record "struct InputConfig" (⟨none, none⟩ : InputDraft) inputField
    (fun draft => do return ⟨← Toml.Decode.required "model_dir" draft.modelDir, draft.exclude.getD []⟩)
    (fun elements => do
      let (modelDir, rest) ← Toml.Decode.element Toml.Decode.path elements
      let (exclude, _) ← Toml.Decode.elementOr [] (Toml.Decode.list Toml.Decode.string) rest
      return ⟨modelDir, exclude⟩)

/-- The table `output`, of which some fields were read. -/
structure TargetsDraft where
  paths : Option (List Path)
  skipUnchanged : Option Bool

/-- Take the value of a key into the table `output`. -/
def targetsField (draft : TargetsDraft) (key : Text) (v : Value) : Except Fault TargetsDraft := do
  if key = "targets".toList then return { draft with paths := some (← Toml.Decode.list Toml.Decode.path v) }
  else if key = "skip_unchanged".toList then
    return { draft with skipUnchanged := some (← Toml.Decode.boolean v) }
  else
    v.pass
    return draft

/-- The table `output`. -/
def readTargets : Value → Except Fault Targets :=
  Toml.Decode.record "struct OutputConfig" (⟨none, none⟩ : TargetsDraft) targetsField
    (fun draft => do return ⟨← Toml.Decode.required "targets" draft.paths, draft.skipUnchanged.getD true⟩)
    (fun elements => do
      let (paths, rest) ← Toml.Decode.element (Toml.Decode.list Toml.Decode.path) elements
      let (skipUnchanged, _) ← Toml.Decode.elementOr true Toml.Decode.boolean rest
      return ⟨paths, skipUnchanged⟩)

/-- Take the value of a key into the table `naming`, which starts as the standard rules. -/
def namingField (naming : Naming) (key : Text) (v : Value) : Except Fault Naming := do
  if key = "namespace".toList then return { naming with spaceName := ← Toml.Decode.string v }
  else if key = "camel_case_properties".toList then
    return { naming with camelCaseProperties := ← Toml.Decode.boolean v }
  else
    v.pass
    return naming

/-- The table `naming`. -/
def readNaming : Value → Except Fault Naming :=
  Toml.Decode.record "struct NamingConfig" Naming.standard namingField .ok
    (fun elements => do
      let (spaceName, rest) ← Toml.Decode.elementOr Naming.defaultSpace Toml.Decode.string elements
      let (camelCaseProperties, _) ← Toml.Decode.elementOr false Toml.Decode.boolean rest
      return ⟨spaceName, camelCaseProperties⟩)

/-- A configuration of which some tables were read. -/
structure Draft where
  input : Option Input
  targets : Option Targets
  naming : Option Naming

/-- Take the value of a key of the document into a configuration. -/
def field (draft : Draft) (key : Text) (v : Value) : Except Fault Draft := do
  if key = "input".toList then return { draft with input := some (← readInput v) }
  else if key = "output".toList then return { draft with targets := some (← readTargets v) }
  else if key = "naming".toList then return { draft with naming := some (← readNaming v) }
  else
    v.pass
    return draft

/-- The configuration of the table of a document. -/
def ofValue : Value → Except Fault Config :=
  Toml.Decode.record "struct Config" (⟨none, none, none⟩ : Draft) field
    (fun draft => do
      return ⟨← Toml.Decode.required "input" draft.input, ← Toml.Decode.required "output" draft.targets,
        draft.naming.getD Naming.standard⟩)
    (fun elements => do
      let (input, rest) ← Toml.Decode.element readInput elements
      let (targets, rest) ← Toml.Decode.element readTargets rest
      let (naming, _) ← Toml.Decode.elementOr Naming.standard readNaming rest
      return ⟨input, targets, naming⟩)

/-- The configuration that a document holds. -/
def ofText (t : Text) : Except Fault Config := Toml.decode ofValue t

/-- The document that holds a configuration. -/
def toText (config : Config) : Text :=
  Toml.Write.header "input" ++
  Toml.Write.pair "model_dir" (Toml.Write.string config.input.modelDir) ++
  Toml.Write.pair "exclude" (Toml.Write.strings config.input.exclude) ++
  '\n' :: Toml.Write.header "output" ++
  Toml.Write.pair "targets" (Toml.Write.strings config.targets.paths) ++
  Toml.Write.pair "skip_unchanged" (Toml.Write.boolean config.targets.skipUnchanged) ++
  '\n' :: Toml.Write.header "naming" ++
  Toml.Write.pair "namespace" (Toml.Write.string config.naming.spaceName) ++
  Toml.Write.pair "camel_case_properties" (Toml.Write.boolean config.naming.camelCaseProperties)

end Config

end ModelStubs
