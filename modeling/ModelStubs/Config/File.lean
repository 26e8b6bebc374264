import ModelStubs.Config
import ModelStubs.Failure
import ModelStubs.FileSystem.Access
import ModelStubs.Text.Blank

/-!
# Configuration files

Loading a configuration checks it against the file system: the model must be there and the targets must have
directories, which are made where they are missing. Nothing is made before every other check has passed.
-/

namespace ModelStubs.Config

/-- The configuration that a file holds. -/
def readFile (fs : FileSystem) (p : Path) : Except Failure Config :=
  match fs.read p with
  | .error _ => .error (.configUnreadable p)
  | .ok content =>
    match Text.decode? content with
    | none => .error (.configUnreadable p)
    | some t =>
      match ofText t with
      | .ok config => .ok config
      | .error fault => .error (.configInvalid p fault)

/-- What a configuration must meet before any directory is made for it. -/
def check (fs : FileSystem) (config : Config) : Except Failure Unit :=
  if !fs.has config.input.modelDir then .error (.modelDirMissing config.input.modelDir)
  else if config.targets.paths = [] then .error .noTargets
  else if Text.trim config.naming.spaceName = [] then .error .blankNamespace
  else .ok ()

/-- Make the directories of targets that are not there. -/
def makeTargetDirs : List Path → FileSystem → Except Failure Unit × FileSystem
  | [], fs => (.ok (), fs)
  | target :: rest, fs =>
    match Path.parent? target with
    | none => makeTargetDirs rest fs
    | some dir =>
      if dir = [] ∨ fs.has dir then makeTargetDirs rest fs
      else match fs.createDirectories dir with
        | (.ok (), after) => makeTargetDirs rest after
        | (.error _, after) => (.error (.targetDirNotMade dir), after)

/-- Load a configuration, and leave the file system ready for its targets. -/
def load (fs : FileSystem) (p : Path) : Except Failure Config × FileSystem :=
  match readFile fs p with
  | .error failure => (.error failure, fs)
  | .ok config =>
    match check fs config with
    | .error failure => (.error failure, fs)
    | .ok () =>
      match makeTargetDirs config.targets.paths fs with
      | (.ok (), after) => (.ok config, after)
      | (.error failure, after) => (.error failure, after)

/-- Write a configuration to a file. -/
def save (fs : FileSystem) (config : Config) (p : Path) : Except Failure FileSystem :=
  match fs.write p (Text.encode config.toText) with
  | .ok after => .ok after
  | .error _ => .error (.configUnwritable p)

/-- Write the standard configuration to a file; one that is there is replaced only by force. -/
def init (fs : FileSystem) (p : Path) (force : Bool) : Except Failure FileSystem :=
  if fs.has p && !force then .error (.configExists p) else save fs standard p

end ModelStubs.Config
