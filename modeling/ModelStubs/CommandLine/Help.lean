import ModelStubs.CommandLine

/-!
# Help

What the program says of itself when it is asked, and when its arguments are no command.
-/

namespace ModelStubs.CommandLine

/-- Lines of text. -/
def ofLines (lines : List String) : Text := lines.flatMap fun line => line.toList ++ ['\n']

/-- The name of the program and its version. -/
def versionText : Text := ofLines ["intellisense-generator 1.0.0"]

/-- The help on a subject. -/
def helpText : Subject → Text
  | .program => ofLines [
      "CLI tool to generate JavaScript IntelliSense stubs and TypeScript declarations from model manifests",
      "",
      "Usage: intellisense-generator <COMMAND>",
      "",
      "Commands:",
      "  generate  Generate all configured output targets",
      "  init      Write a default configuration file",
      "  help      Print this message or the help of the given subcommand(s)",
      "",
      "Options:",
      "  -h, --help     Print help",
      "  -V, --version  Print version"]
  | .generate => ofLines [
      "Generate all configured output targets",
      "",
      "Usage: intellisense-generator generate [OPTIONS]",
      "",
      "Options:",
      "  -c, --config <CONFIG>  Path to the configuration file [default: intellisense.toml]",
      "  -v, --verbose          Enable debug logging",
      "  -h, --help             Print help"]
  | .init => ofLines [
      "Write a default configuration file",
      "",
      "Usage: intellisense-generator init [OPTIONS]",
      "",
      "Options:",
      "  -o, --output <OUTPUT>  Where to write the configuration [default: intellisense.toml]",
      "  -f, --force            Overwrite an existing file",
      "  -h, --help             Print help"]
  | .help => ofLines [
      "Print this message or the help of the given subcommand(s)",
      "",
      "Usage: intellisense-generator help [COMMAND]...",
      "",
      "Arguments:",
      "  [COMMAND]...  Print help for the subcommand(s)"]

/-- What is said of arguments that are no command, where that is not an answer to what was asked. -/
def Refusal.message : Refusal → Text
  | .help subject => helpText subject
  | .version => versionText
  | .noCommand => helpText .program
  | .unknownCommand => ofLines ["error: unrecognized subcommand"]
  | .unknownArgument => ofLines ["error: unexpected argument found"]
  | .needlessValue => ofLines ["error: unexpected value for an option found; no more were expected"]
  | .repeated => ofLines ["error: an option cannot be used multiple times"]
  | .noValue => ofLines ["error: a value is required for an option but none was supplied"]

/-- Whether the user asked for what is said. -/
def Refusal.isAnswer : Refusal → Bool
  | .help _ => true
  | .version => true
  | _ => false

end ModelStubs.CommandLine
