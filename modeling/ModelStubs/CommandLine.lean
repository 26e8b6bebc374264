import ModelStubs.Config

/-!
# The command line

The arguments of the program as a command, or why they are none. Arguments are read from left to right, and the first
that cannot be read, or that asks for help, decides. The value of an option is taken in only when the next option or the
end is reached, so a fault of an argument in between is noticed first.
-/

namespace ModelStubs

/-- What the program is asked to do. -/
inductive Command
  /-- Make the targets of a configuration. -/
  | generate (config : Path) (verbose : Bool)
  /-- Write a configuration file to start from. -/
  | init (output : Path) (force : Bool)
  deriving DecidableEq, Repr

namespace CommandLine

/-- What help is asked for. -/
inductive Subject
  | program
  | generate
  | init
  | help
  deriving DecidableEq, Repr

/-- Why arguments are not a command. -/
inductive Refusal
  | help (subject : Subject)
  | version
  | noCommand
  | unknownCommand
  | unknownArgument
  /-- A value is given to an option that takes none. -/
  | needlessValue
  /-- An option is given twice. -/
  | repeated
  /-- An option is given without a value, or with an empty one. -/
  | noValue
  deriving DecidableEq, Repr

/-- The two options of a command, beside help: one that takes a value, and a switch. -/
structure Options where
  subject : Subject
  valueLetter : Char
  valueName : Text
  switchLetter : Char
  switchName : Text

/-- What was read of the arguments of a command: the value, the switch, and the value option that was named last, with
its value if that was given already. -/
structure Progress where
  value : Option Text
  switch : Bool
  pending : Option (Option Text)

namespace Progress

/-- Nothing was read yet. -/
def start : Progress := ⟨none, false, none⟩

/-- Take in a value. -/
def setValue (p : Progress) (v : Text) : Except Refusal Progress :=
  if p.value.isSome then .error .repeated
  else if v = [] then .error .noValue
  else .ok { p with value := some v }

/-- Take in what is pending. -/
def settle (p : Progress) : Except Refusal Progress :=
  match p.pending with
  | none => .ok p
  | some none => .error .noValue
  | some (some v) => setValue { p with pending := none } v

/-- The value option, with a value attached or to come. -/
def nameValue (p : Progress) (attached : Option Text) : Except Refusal Progress := do
  let p ← p.settle
  match attached with
  | some v => p.setValue v
  | none => .ok { p with pending := some none }

/-- The switch. -/
def turnOn (p : Progress) : Except Refusal Progress := do
  let p ← p.settle
  if p.switch then .error .repeated else .ok { p with switch := true }

end Progress

/-- An argument cut at its first equals sign: a name, and the value attached to it. -/
def attachment (t : Text) : Text × Option Text := (t.takeWhile (· != '='), Text.afterFirst? '=' t)

/-- An option by its name, after two dashes. -/
def longOption (options : Options) (p : Progress) (t : Text) : Except Refusal Progress :=
  let (name, attached) := attachment t
  if name = options.valueName then p.nameValue attached
  else if name = options.switchName then if attached.isSome then .error .needlessValue else p.turnOn
  else if name = "help".toList then
    if attached.isSome then .error .needlessValue else p.settle.bind fun _ => .error (.help options.subject)
  else .error .unknownArgument

/-- Options by their letters, after one dash. What follows the letter of the value option is its value, an equals sign
before it left out. -/
def letters (options : Options) (p : Progress) : List Char → Except Refusal Progress
  | [] => .ok p
  | c :: rest =>
    if c = options.switchLetter then p.turnOn.bind fun p => letters options p rest
    else if c = 'h' then p.settle.bind fun _ => .error (.help options.subject)
    else if c = options.valueLetter then
      match rest with
      | [] => p.nameValue none
      | d :: value => p.nameValue (some (if d = '=' then value else rest))
    else .error .unknownArgument

/-- The arguments of a command. After two dashes on their own nothing may follow. -/
def arguments (options : Options) (p : Progress) : List Text → Except Refusal Progress
  | [] => p.settle
  | a :: rest =>
    match a with
    | ['-', '-'] => if rest = [] then p.settle else .error .unknownArgument
    | '-' :: '-' :: name => (longOption options p name).bind fun p => arguments options p rest
    | '-' :: c :: more => (letters options p (c :: more)).bind fun p => arguments options p rest
    | _ =>
      match p.pending with
      | some none => arguments options { p with pending := some (some a) } rest
      | _ => .error .unknownArgument

/-- The options of `generate`. -/
def generateOptions : Options := ⟨.generate, 'c', "config".toList, 'v', "verbose".toList⟩

/-- The options of `init`. -/
def initOptions : Options := ⟨.init, 'o', "output".toList, 'f', "force".toList⟩

/-- The commands by their names. -/
def subject? (t : Text) : Option Subject :=
  if t = "generate".toList then some .generate
  else if t = "init".toList then some .init
  else if t = "help".toList then some .help
  else none

/-- What the arguments after `help` ask for. -/
def helpOn : List Text → Refusal
  | [] => .help .program
  | [t] =>
    match subject? t with
    | some subject => .help subject
    | none => .unknownCommand
  | _ => .unknownCommand

/-- An option before any command; there are two. -/
def leadingOption (a : Text) : Refusal :=
  match a with
  | '-' :: '-' :: t =>
    let (name, attached) := attachment t
    let asked : Option Refusal :=
      if name = "help".toList then some (.help .program) else if name = "version".toList then some .version else none
    match asked with
    | none => .unknownArgument
    | some refusal => if attached.isSome then .needlessValue else refusal
  | '-' :: 'h' :: _ => .help .program
  | '-' :: 'V' :: _ => .version
  | '-' :: _ :: _ => .unknownArgument
  | _ => .unknownCommand

/-- The command that the arguments of the program give. -/
def parse : List Text → Except Refusal Command
  | [] => .error .noCommand
  | a :: rest =>
    match subject? a with
    | some .generate => (arguments generateOptions .start rest).map fun p =>
        .generate (p.value.getD Config.defaultPath) p.switch
    | some .init => (arguments initOptions .start rest).map fun p =>
        .init (p.value.getD Config.defaultPath) p.switch
    | some _ => .error (helpOn rest)
    | none =>
      if a = ['-', '-'] then
        match rest with
        | [] => .error .noCommand
        | b :: _ => .error (if (subject? b).isSome then .unknownArgument else .unknownCommand)
      else .error (leadingOption a)

example : parse ["generate".toList, "-vcx".toList] = .ok (.generate "x".toList true) := by rfl
example : parse ["generate".toList, "-c".toList, "-v".toList] = .error .noValue := by rfl

end CommandLine

end ModelStubs
