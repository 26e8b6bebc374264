import ModelStubs.FileSystem.Locate

/-!
# Reading and changing a file system

Each operation takes a path. One that changes something leaves the file system as it was if it fails, with one
exception: `createDirectories` may fail after it has made some of the directories on the way.
-/

namespace ModelStubs

namespace Path

/-- A path and the paths it stands in, the longest first, short of the root and of the empty path. -/
def withParents (p : Path) : List Path := go p.length p
where
  go : Nat → Path → List Path
    | 0, _ => []
    | n + 1, p =>
      match parent? p with
      | none => []
      | some parent => p :: go n parent

end Path

namespace FileSystem

/-- The bytes of the file that a path leads to. -/
def read (fs : FileSystem) (p : Path) : Except FileFault ByteArray :=
  match fs.locate p with
  | .error fault => .error fault
  | .ok (.vacant _ _) => .error .missing
  | .ok (.found l) =>
    match fs.node? l with
    | some (.file content) => .ok content
    | some .directory => .error .isDirectory
    | _ => .error .missing

/-- Write a file: the one that the path leads to, or a new one in the directory that it leads into. -/
def write (fs : FileSystem) (p : Path) (content : ByteArray) : Except FileFault FileSystem :=
  match fs.locate p with
  | .error fault => .error fault
  | .ok (.vacant parent name) => .ok (fs.put parent name (.file content))
  | .ok (.found l) =>
    match l, fs.node? l with
    | name :: parent, some (.file _) => .ok (fs.put parent name (.file content))
    | _, _ => .error .isDirectory

/-- Make a directory in one that is there. A slash at the end of the path says nothing here. -/
def createDirectory (fs : FileSystem) (p : Path) : Except FileFault FileSystem :=
  match fs.locateParts false p (Path.parts p) with
  | .error fault => .error fault
  | .ok (.found _) => .error .alreadyThere
  | .ok (.vacant parent name) => .ok (fs.put parent name .directory)

/-- Make a directory unless one is there. -/
def ensureDirectory (fs : FileSystem) (p : Path) : Except FileFault FileSystem :=
  match fs.createDirectory p with
  | .error .alreadyThere => if fs.hasDirectory p then .ok fs else .error .alreadyThere
  | result => result

/-- Make the first directory of a list whose others lead to it, longest first, with as many of those as are missing.
The first that can be made or is there ends the way up. -/
def createAlong (fs : FileSystem) : List Path → Except FileFault Unit × FileSystem
  | [] => (.ok (), fs)
  | p :: outer =>
    match fs.ensureDirectory p with
    | .ok after => (.ok (), after)
    | .error .missing =>
      match createAlong fs outer with
      | (.error fault, after) => (.error fault, after)
      | (.ok (), after) =>
        match after.ensureDirectory p with
        | .ok final => (.ok (), final)
        | .error fault => (.error fault, after)
    | .error fault => (.error fault, fs)

/-- Make a directory and all directories on the way to it that are missing. -/
def createDirectories (fs : FileSystem) (p : Path) : Except FileFault Unit × FileSystem :=
  createAlong fs (Path.withParents p)

/-- Make a symbolic link. -/
def createLink (fs : FileSystem) (p target : Path) : Except FileFault FileSystem :=
  if target = [] then .error .missing
  else if !Path.isFollowed target then .error .badPath
  else match fs.locateEntry p with
    | .error fault => .error fault
    | .ok (.found _) => .error .alreadyThere
    | .ok (.vacant parent name) => .ok (fs.put parent name (.link target))

/-- Remove a file, a link or a whole directory. -/
def delete (fs : FileSystem) (p : Path) : Except FileFault FileSystem :=
  match fs.locateEntry p with
  | .error fault => .error fault
  | .ok (.vacant _ _) => .error .missing
  | .ok (.found l) => .ok (fs.remove l)

/-- The path from one location down to another that lies below it. -/
def pathBelow (top l : Location) : Path :=
  List.intercalate ['/'] (l.take (l.length - top.length)).reverse

/-- Everything below the working directory, by its path from there: a directory with a slash at the end, a link with an
at sign; in the order of these texts. -/
def listing (fs : FileSystem) : List Text :=
  sortBy Text.before (fs.nodes.filterMap fun e =>
    if fs.workDir.isSuffixOf e.1 ∧ e.1 ≠ fs.workDir then
      some (pathBelow fs.workDir e.1 ++
        match e.2 with
        | .directory => ['/']
        | .link _ => ['@']
        | .file _ => [])
    else none)

end FileSystem

end ModelStubs
