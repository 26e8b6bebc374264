import ModelStubs.CommandLine.Help
import ModelStubs.Config.File
import ModelStubs.Run

/-!
# The program

What a call of the program does to a file system, and what it prints.
-/

namespace ModelStubs

namespace Program

/-- The end of a call: the exit code, the text on either output, and the file system that is left. -/
structure Result where
  exit : Nat
  out : Text
  err : Text
  files : FileSystem

/-- What is printed of a run: how many targets were written, and how many were left as they were. -/
def summary (reports : List Run.Report) : Text :=
  let written := (reports.filter (·.status = .written)).length
  "Generated ".toList ++ Text.ofNat written ++ " target(s), ".toList ++ Text.ofNat (reports.length - written) ++
    " unchanged\n".toList

/-- What is printed of a configuration file that was made. -/
def welcome (p : Path) : Text :=
  "Created configuration file: ".toList ++ p ++ '\n' :: CommandLine.ofLines [
    "",
    "Edit the file to configure:",
    "  - model_dir: Directory holding *.toml model manifests",
    "  - targets: Output files (.ts for declarations, anything else for stubs)",
    "  - namespace: Name of the generated namespace/module",
    "  - exclude: Directories to skip during scanning"]

/-- The end of a call that fails, after the lines of the log. -/
def failed (failure : Failure) (log : Text) (files : FileSystem) : Result :=
  ⟨1, [], log ++ "Error: ".toList ++ failure.message ++ ['\n'], files⟩

/-- The filter in force: the one that is given, or else all events down to `info`, or to `debug` if the call is to be
verbose. -/
def filterFor (given : Option Text) (verbose : Bool) : LogFilter :=
  match given with
  | some t => LogFilter.ofText t
  | none => LogFilter.upTo (if verbose then .debug else .info)

/-- Make the targets of the configuration at a path. -/
def generate (fs : FileSystem) (filter : LogFilter) (p : Path) : Result :=
  match Config.load fs p with
  | (.error failure, after) => failed failure [] after
  | (.ok config, after) =>
    let outcome := Run.all after config
    let log := filter.lines (.configLoaded p :: outcome.log)
    match outcome.result with
    | .error failure => failed failure log outcome.files
    | .ok reports => ⟨0, summary reports, log, outcome.files⟩

/-- Write a configuration file to start from. -/
def init (fs : FileSystem) (p : Path) (force : Bool) : Result :=
  match Config.init fs p force with
  | .error failure => failed failure [] fs
  | .ok after => ⟨0, welcome p, [], after⟩

/-- The paths that a call looks at, each with whether it looks at all that is below it. Those that a configuration names
are known once the configuration is. -/
def looksAt (fs : FileSystem) (args : List Text) : List (Path × Bool) :=
  match CommandLine.parse args with
  | .ok (.generate p _) =>
    (p, false) :: match Config.readFile fs p with
      | .ok config => (config.input.modelDir, true) :: config.targets.paths.map (·, false)
      | .error _ => []
  | .ok (.init p _) => [(p, false)]
  | .error _ => []

/-- A result with a text printed before its errors. -/
def Result.afterErr (t : Text) (result : Result) : Result := { result with err := t ++ result.err }

/-- A call of the program. `given` is the text of the log filter from the environment, if there is one. What it holds
that cannot be read is told before anything else. -/
def call (fs : FileSystem) (given : Option Text) (args : List Text) : Result :=
  let complaints := (given.map LogFilter.complaints).getD []
  match CommandLine.parse args with
  | .ok (.generate p verbose) => (generate fs (filterFor given verbose) p).afterErr complaints
  | .ok (.init p force) => (init fs p force).afterErr complaints
  | .error refusal =>
    if refusal.isAnswer then ⟨0, refusal.message, [], fs⟩ else ⟨2, [], refusal.message, fs⟩

end Program

end ModelStubs
