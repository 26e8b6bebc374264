import ModelStubs.FileSystem.Basic

/-!
# Where a path leads

A path is followed part by part from the working directory, or from the root if it opens with a slash. A symbolic link
on the way stands for its target, looked up in the directory that holds the link; at most forty links are followed, so
links that lead round in a circle lead nowhere. A path that is too long, or that has a zero character in it, is not
followed at all.
-/

namespace ModelStubs

/-- Why an operation on files fails. -/
inductive FileFault
  /-- Something on the way is not there. -/
  | missing
  /-- Something that would have to be a directory is not one. -/
  | notDirectory
  /-- A directory stands where a file is wanted. -/
  | isDirectory
  /-- Something is already there. -/
  | alreadyThere
  /-- More links are met than are followed. -/
  | tooManyLinks
  /-- No directory can hold an entry of that name. -/
  | badName
  /-- The path is too long, or has a zero character in it. -/
  | badPath
  deriving DecidableEq, Repr

/-- Where a path leads: to a node, or to a place in a directory where nothing is yet. -/
inductive Place
  | found (l : Location)
  | vacant (parent : Location) (name : Text)
  deriving DecidableEq, Repr

namespace Path

/-- The greatest number of bytes of a path that is followed. -/
def lengthLimit : Nat := 4095

/-- Whether a path is followed: it is not too long, and has no zero character in it. -/
def isFollowed (p : Path) : Bool := Text.byteLength p ≤ lengthLimit && !p.contains '\x00'

/-- The parts of a path between its slashes. -/
def parts (p : Path) : List Text := (Text.splitAt '/' p).filter (· ≠ [])

/-- The parts of a path; a slash at its end asks for a directory, as a last part `.` does. -/
def partsToDirectory (p : Path) : List Text :=
  if p.getLast? = some '/' then parts p ++ [['.']] else parts p

end Path

namespace FileSystem

/-- The number of links that are followed on one way. -/
def linkLimit : Nat := 40

/-- Where a way of parts leads from a directory. A link on it, and a last one if `last` says so, is handed to `follow`
with its target, the directory that holds it and the parts that remain. -/
def descend (fs : FileSystem) (last : Bool) (follow : Path → Location → List Text → Except FileFault Place)
    (here : Location) : List Text → Except FileFault Place
  | [] => .ok (.found here)
  | part :: rest =>
    if part = ['.'] then descend fs last follow here rest
    else if part = ['.', '.'] then descend fs last follow here.tail rest
    else if isEntryName part then
      match fs.node? (part :: here) with
      | some .directory => descend fs last follow (part :: here) rest
      | some (.file _) => if rest = [] then .ok (.found (part :: here)) else .error .notDirectory
      | some (.link target) =>
        if rest = [] ∧ last = false then .ok (.found (part :: here)) else follow target here rest
      | none => if rest = [] then .ok (.vacant here part) else .error .missing
    else .error .badName

/-- The directory at which a path starts that is looked up in the directory `here`. -/
def startOf (p : Path) (here : Location) : Location := if Path.isAbsolute p then [] else here

/-- Where a way of parts leads if so many links may be followed. -/
def walk (fs : FileSystem) (last : Bool) : Nat → Location → List Text → Except FileFault Place
  | 0 => descend fs last fun _ _ _ => .error .tooManyLinks
  | n + 1 => descend fs last fun target here rest =>
      walk fs last n (startOf target here) (Path.partsToDirectory target ++ rest)

/-- Where the parts of a path lead. -/
def locateParts (fs : FileSystem) (last : Bool) (p : Path) (parts : List Text) : Except FileFault Place :=
  if !Path.isFollowed p then .error .badPath
  else if p = [] ∨ fs.node? (startOf p fs.workDir) ≠ some .directory then .error .missing
  else walk fs last linkLimit (startOf p fs.workDir) parts

/-- Where a path leads, a link at its end followed. -/
def locate (fs : FileSystem) (p : Path) : Except FileFault Place :=
  locateParts fs true p (Path.partsToDirectory p)

/-- Where a path leads, a link at its end not followed. -/
def locateEntry (fs : FileSystem) (p : Path) : Except FileFault Place :=
  locateParts fs false p (Path.partsToDirectory p)

/-- The location of what a path leads to, if there is something. -/
def find? (fs : FileSystem) (p : Path) : Option Location :=
  match fs.locate p with
  | .ok (.found l) => some l
  | _ => none

/-- What a path leads to, if there is something. -/
def lookup? (fs : FileSystem) (p : Path) : Option Node := (fs.find? p).bind fs.node?

/-- Whether a path leads to anything. -/
def has (fs : FileSystem) (p : Path) : Bool := (fs.lookup? p).isSome

/-- Whether a path leads to a directory. -/
def hasDirectory (fs : FileSystem) (p : Path) : Bool := fs.lookup? p = some .directory

/-- Whether a path leads to a file. -/
def hasFile (fs : FileSystem) (p : Path) : Bool :=
  match fs.lookup? p with
  | some (.file _) => true
  | _ => false

end FileSystem

end ModelStubs
