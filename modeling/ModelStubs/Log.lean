import ModelStubs.Output
import ModelStubs.Text.Blank
import ModelStubs.Text.Terminal

/-!
# The log

What is told while a command runs. An event says what happened; its level, its topic and its wording are read off it. A
filter (`LogFilter`) chooses by level and topic which events reach the user.
-/

namespace ModelStubs

/-- How much an event matters, from the gravest on. -/
inductive Level
  | error
  | warn
  | info
  | debug
  | trace
  deriving DecidableEq, Repr

namespace Level

/-- The levels, the gravest first. -/
def all : List Level := [.error, .warn, .info, .debug, .trace]

/-- The name of a level. -/
def name : Level → Text
  | .error => "ERROR".toList
  | .warn => "WARN".toList
  | .info => "INFO".toList
  | .debug => "DEBUG".toList
  | .trace => "TRACE".toList

/-- The place of a level among the others, the gravest being first. -/
def rank : Level → Nat
  | .error => 1
  | .warn => 2
  | .info => 3
  | .debug => 4
  | .trace => 5

end Level

/-- The part of the program that an event comes from. -/
inductive Topic
  | program
  | run
  | types
  deriving DecidableEq, Repr

/-- The name by which a filter chooses a topic. -/
def Topic.name : Topic → Text
  | .program => "intellisense_generator".toList
  | .run => "intellisense_generator::pipeline".toList
  | .types => "intellisense_generator::generator::type_mapper".toList

/-- Something that happened. -/
inductive Event
  | configLoaded (path : Path)
  | noManifests (dir : Path)
  | manifestLoaded (objects : Nat) (path : Path)
  | nameRepeated (name fullName : Text)
  | modelLoaded (objects manifests : Nat)
  | generating (output : Output) (target : Path)
  | unrecognized (descriptor name : Text)
  | wrote (target : Path)
  | leftUnchanged (target : Path)
  deriving DecidableEq, Repr

namespace Event

/-- How much an event matters. -/
def level : Event → Level
  | noManifests _ => .warn
  | nameRepeated _ _ => .warn
  | modelLoaded _ _ => .info
  | wrote _ => .info
  | leftUnchanged _ => .info
  | configLoaded _ => .debug
  | manifestLoaded _ _ => .debug
  | generating _ _ => .debug
  | unrecognized _ _ => .debug

/-- Where an event comes from. -/
def topic : Event → Topic
  | configLoaded _ => .program
  | unrecognized _ _ => .types
  | _ => .run

/-- How an event is told. -/
def message : Event → Text
  | configLoaded path => "Loaded configuration from: ".toList ++ path
  | noManifests dir => "No model manifests found in ".toList ++ dir
  | manifestLoaded objects path =>
    "Loaded ".toList ++ Text.ofNat objects ++ " object(s) from ".toList ++ path
  | nameRepeated name fullName =>
    "Object name '".toList ++ name ++ "' is declared more than once (".toList ++ fullName ++ ")".toList
  | modelLoaded objects manifests =>
    "Loaded ".toList ++ Text.ofNat objects ++ " object(s) from ".toList ++ Text.ofNat manifests ++
      " manifest(s)".toList
  | generating output target => "Generating ".toList ++ output.title ++ " for ".toList ++ target
  | unrecognized descriptor name =>
    "Unrecognized descriptor '".toList ++ descriptor ++ "', using '".toList ++ name ++ "'".toList
  | wrote target => "Wrote ".toList ++ target
  | leftUnchanged target => "Unchanged ".toList ++ target

/-- An event as a line for the user. The lines of a message after its first are indented. -/
def line (e : Event) : Text :=
  let level := e.level.name
  '[' :: level ++ List.replicate (5 - level.length) ' ' ++ ' ' :: e.topic.name ++ "] ".toList ++
    e.message.flatMap (fun c => if c = '\n' then "\n    ".toList else [c]) ++ ['\n']

end Event

/-- What a filter says about the topics whose name opens with a text, or about all topics: the rank of the least level
that is shown. -/
structure Directive where
  topic : Option Text
  limit : Nat
  deriving DecidableEq, Repr

/-- The text that the name of a topic must open with. -/
def Directive.opening (d : Directive) : Text := d.topic.getD []

/-- A choice of events: a list of directives, of which the longest that fits a topic decides, and of those of one length
the last. -/
structure LogFilter where
  directives : List Directive
  deriving DecidableEq, Repr

namespace LogFilter

/-- The filter that shows all events down to a level. -/
def upTo (level : Level) : LogFilter := ⟨[⟨none, level.rank⟩]⟩

/-- The limit that the name of a level stands for, in either case of the letters; `off` shows nothing. -/
def limit? (t : Text) : Option Nat :=
  let word := Text.asciiLower t
  if word = "off".toList then some 0
  else (Level.all.find? fun level => Text.asciiLower level.name = word).map Level.rank

/-- A directive: a level for all topics, a topic to be shown at all levels, or a topic with a level, which may have
blanks around it. If it cannot be read, the part of it that cannot. -/
def directive (t : Text) : Except Text Directive :=
  match Text.splitAt '=' t with
  | [word] =>
    match limit? word with
    | some limit => .ok ⟨none, limit⟩
    | none => .ok ⟨some word, Level.trace.rank⟩
  | [topic, word] =>
    let word := Text.trim word
    if word = [] then .ok ⟨some topic, Level.trace.rank⟩
    else match limit? word with
      | some limit => .ok ⟨some topic, limit⟩
      | none => .error word
  | _ => .error t

/-- What stands between the commas of a text. -/
def words (t : Text) : List Text := ((Text.splitAt ',' t).map Text.trim).filter (· ≠ [])

/-- The directives with one more, which takes the place of an earlier one about the same topics. -/
def put (directives : List Directive) (d : Directive) : List Directive :=
  match directives with
  | [] => [d]
  | e :: rest => if e.topic = d.topic then d :: rest else e :: put rest d

/-- The filter that a text of directives between commas stands for. One that cannot be read is passed over; without any,
only errors are shown. -/
def ofText (t : Text) : LogFilter :=
  match (words t).filterMap fun word => (directive word).toOption with
  | [] => upTo .error
  | directives => ⟨directives.foldl put []⟩

/-- What the user is told about a directive. -/
def complaint (word : Text) : Text :=
  match directive word with
  | .ok _ => []
  | .error part => "warning: invalid logging spec '".toList ++ part ++ "', ignoring it\n".toList

/-- What the user is told about the directives of a text that cannot be read. -/
def complaints (t : Text) : Text := (words t).flatMap complaint

/-- The directive that decides on a topic, among those given and one chosen before. -/
def deciding (topic : Text) : Option Directive → List Directive → Option Directive
  | chosen, [] => chosen
  | chosen, d :: rest =>
    let better := match chosen with
      | some c => c.opening.length ≤ d.opening.length
      | none => true
    deciding topic (if d.opening.isPrefixOf topic && better then some d else chosen) rest

/-- Whether an event is shown. -/
def shows (filter : LogFilter) (e : Event) : Bool :=
  match deciding e.topic.name none filter.directives with
  | some d => e.level.rank ≤ d.limit
  | none => false

/-- The lines of the events that are shown. No line gives an order to a terminal. -/
def lines (filter : LogFilter) (log : List Event) : Text :=
  (log.filter filter.shows).flatMap fun e => Text.withoutOrders e.line

end LogFilter

end ModelStubs
