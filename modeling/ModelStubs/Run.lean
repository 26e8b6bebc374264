import ModelStubs.Config
import ModelStubs.Failure
import ModelStubs.FileSystem.Access
import ModelStubs.Log
import ModelStubs.Manifest
import ModelStubs.Search

/-!
# A run

A run loads the model that a configuration speaks of (`loadModel`) and writes every target in turn (`produce`). The
whole model is loaded before the first target is touched; a target that cannot be written ends the run, and the targets
before it stay written.
-/

namespace ModelStubs

namespace Run

/-- The text of a file. -/
def readText (fs : FileSystem) (p : Path) : Option Text :=
  match fs.read p with
  | .ok content => Text.decode? content
  | .error _ => none

/-- The objects that the text of the manifest at a path declares. -/
def readManifest (p : Path) (t : Text) : Except Failure (List Object) :=
  match Manifest.read t with
  | .ok objects => .ok objects
  | .error fault => .error (.manifestInvalid p fault)

/-- The objects of the manifest at a path. -/
def loadManifest (fs : FileSystem) (p : Path) : Except Failure (List Object) :=
  match readText fs p with
  | none => .error (.manifestUnreadable p)
  | some t => readManifest p t

/-- The manifests that are to be loaded. -/
def findManifests (fs : FileSystem) (input : Input) : Except Failure (List Path) :=
  match Search.manifests fs input.exclude input.modelDir with
  | .ok paths => .ok paths
  | .error _ => .error (.searchFailed input.modelDir)

/-- What a step gives, and what was told on the way. -/
structure Told (α : Type) where
  result : Except Failure α
  log : List Event

/-- The objects of manifests, one after the other. -/
def loadManifests (fs : FileSystem) : List Path → Told (List Object)
  | [] => ⟨.ok [], []⟩
  | p :: rest =>
    match loadManifest fs p with
    | .error failure => ⟨.error failure, []⟩
    | .ok objects =>
      let others := loadManifests fs rest
      ⟨others.result.map (objects ++ ·), .manifestLoaded objects.length p :: others.log⟩

/-- The objects whose name an earlier one has, after the names seen before. -/
def repeated (seen : List Text) : List Object → List Object
  | [] => []
  | object :: rest =>
    if object.name ∈ seen then object :: repeated seen rest else repeated (object.name :: seen) rest

/-- The model below a directory: the objects of its manifests, in the order of the files and then of declaration. -/
def loadModel (fs : FileSystem) (input : Input) : Told (List Object) :=
  match findManifests fs input with
  | .error failure => ⟨.error failure, []⟩
  | .ok paths =>
    let notice : List Event := if paths = [] then [.noManifests input.modelDir] else []
    let loaded := loadManifests fs paths
    match loaded.result with
    | .error failure => ⟨.error failure, notice ++ loaded.log⟩
    | .ok objects =>
      ⟨.ok objects, notice ++ loaded.log ++
        (repeated [] objects).map (fun object => .nameRepeated object.name object.fullName) ++
        [.modelLoaded objects.length paths.length]⟩

/-- What was done with a target. -/
inductive Status
  | written
  | unchanged
  deriving DecidableEq, Repr

/-- A target, the kind of its output, and what was done with it. -/
structure Report where
  path : Path
  output : Output
  status : Status
  deriving DecidableEq, Repr

/-- Write a text to a target. If unchanged targets are left alone, one that is there is read first. -/
def persist (fs : FileSystem) (target : Path) (t : Text) (skipUnchanged : Bool) :
    Except Failure (Status × FileSystem) :=
  let content := Text.encode t
  let write : Except Failure (Status × FileSystem) :=
    match fs.write target content with
    | .ok after => .ok (.written, after)
    | .error _ => .error (.targetUnwritable target)
  if skipUnchanged && fs.has target then
    match fs.read target with
    | .error _ => .error (.targetUnreadable target)
    | .ok current => if current = content then .ok (.unchanged, fs) else write
  else write

/-- What a run gives, what was told on the way, and the file system it leaves. -/
structure Outcome (α : Type) where
  result : Except Failure α
  log : List Event
  files : FileSystem

/-- What is told of a target that was persisted. -/
def Status.event (target : Path) : Status → Event
  | .written => .wrote target
  | .unchanged => .leftUnchanged target

/-- Write targets one after the other. -/
def produce (naming : Naming) (skipUnchanged : Bool) (objects : List Object) :
    List Path → FileSystem → Outcome (List Report)
  | [], fs => ⟨.ok [], [], fs⟩
  | target :: rest, fs =>
    let output := Output.ofPath target
    let start := .generating output target ::
      (output.unrecognized objects).map fun (descriptor, name) => .unrecognized descriptor name
    match persist fs target (output.render naming objects) skipUnchanged with
    | .error failure => ⟨.error failure, start, fs⟩
    | .ok (status, after) =>
      let others := produce naming skipUnchanged objects rest after
      ⟨others.result.map (⟨target, output, status⟩ :: ·), start ++ status.event target :: others.log, others.files⟩

/-- A run under a configuration, with a report on every target in order. -/
def all (fs : FileSystem) (config : Config) : Outcome (List Report) :=
  let loaded := loadModel fs config.input
  match loaded.result with
  | .error failure => ⟨.error failure, loaded.log, fs⟩
  | .ok objects =>
    let made := produce config.naming config.targets.skipUnchanged objects config.targets.paths fs
    ⟨made.result, loaded.log ++ made.log, made.files⟩

end Run

end ModelStubs
