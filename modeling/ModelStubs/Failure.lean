import ModelStubs.Path
import ModelStubs.Toml.Decode

/-!
# Failures

Why a command fails, and how that is said to the user. What lies below a failure (the fault of a document, a file that
could not be read) is told apart by `Failure.ground` and is not part of the wording.
-/

namespace ModelStubs

/-- Why a command fails. -/
inductive Failure
  | configUnreadable (path : Path)
  | configInvalid (path : Path) (fault : Toml.Fault)
  | modelDirMissing (dir : Path)
  | noTargets
  | blankNamespace
  | targetDirNotMade (dir : Path)
  | configExists (path : Path)
  | configUnwritable (path : Path)
  | searchFailed (dir : Path)
  | manifestUnreadable (path : Path)
  | manifestInvalid (path : Path) (fault : Toml.Fault)
  | targetUnreadable (path : Path)
  | targetUnwritable (path : Path)
  deriving DecidableEq, Repr

/-- What lies below a failure. -/
inductive Ground
  /-- A document that is not what it should be. -/
  | document (fault : Toml.Fault)
  /-- The search of a directory tree. -/
  | search
  /-- A file or a directory that cannot be used. -/
  | file
  /-- Nothing: the command itself refuses. -/
  | refusal
  deriving DecidableEq, Repr

namespace Failure

/-- How a failure is said to the user. -/
def message : Failure → Text
  | configUnreadable path => "Failed to read config file: ".toList ++ path
  | configInvalid path _ => "Failed to parse config file: ".toList ++ path
  | modelDirMissing dir => "Model directory does not exist: ".toList ++ dir
  | noTargets => "No output targets configured".toList
  | blankNamespace => "Namespace must not be empty".toList
  | targetDirNotMade dir => "Failed to create output directory: ".toList ++ dir
  | configExists path =>
    "Configuration file already exists: ".toList ++ path ++ ". Use --force to overwrite.".toList
  | configUnwritable path => "Failed to write config file: ".toList ++ path
  | searchFailed dir => "Failed to scan model directory: ".toList ++ dir
  | manifestUnreadable path => "Failed to read model manifest: ".toList ++ path
  | manifestInvalid path _ => "Failed to parse model manifest: ".toList ++ path
  | targetUnreadable path => "Failed to read existing output: ".toList ++ path
  | targetUnwritable path => "Failed to write output file: ".toList ++ path

/-- What lies below a failure. -/
def ground : Failure → Ground
  | configInvalid _ fault => .document fault
  | manifestInvalid _ fault => .document fault
  | searchFailed _ => .search
  | modelDirMissing _ => .refusal
  | noTargets => .refusal
  | blankNamespace => .refusal
  | configExists _ => .refusal
  | configUnreadable _ => .file
  | targetDirNotMade _ => .file
  | configUnwritable _ => .file
  | manifestUnreadable _ => .file
  | targetUnreadable _ => .file
  | targetUnwritable _ => .file

end Failure

end ModelStubs
