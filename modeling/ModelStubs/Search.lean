import ModelStubs.FileSystem.Locate

/-!
# The search for manifests

The manifests of a model are the files with the extension `toml` in a directory tree. The tree is walked in the order of
names, links are followed, and an entry with an excluded name is passed over with all that is below it.

A link in a directory that is walked must lead somewhere, and must not lead back to a directory on the way down to it;
its own name does not excuse it. Only such links make the walk endless, so the walk is bounded: on the way down no
directory is entered by a link twice, and between two links each directory lies below the one before.

Entries are reached by their whole paths, so the links on the way down count among those that a path may cross, and a way
down may become too long to be followed: a file at its end is not found then, and a link or a directory makes the search
fail.
-/

namespace ModelStubs

namespace Search

/-- Why a search fails. -/
inductive Fault
  /-- The directory to be searched is not there. -/
  | missing
  /-- The path of a link, or of a directory to be walked, leads nowhere. -/
  | unreachable (path : Path)
  /-- A link leads back to a directory on the way down to it. -/
  | linkLoop (path : Path)
  /-- The walk went deeper than any walk can. -/
  | tooDeep
  deriving DecidableEq, Repr

/-- Whether a path is that of a manifest. -/
def isManifest (p : Path) : Bool := Path.extension? p = some "toml".toList

/-- An entry that is met and is no directory. It is looked up once more by its path. -/
def file (fs : FileSystem) (excluded : Bool) (path : Path) : List Path :=
  if !excluded && fs.hasFile path && isManifest path then [path] else []

/-- How a directory is walked: given its path, the directories on the way down with itself first, and its location. -/
abbrev Walk := Path → List Location → Location → Except Fault (List Path)

/-- What an entry of a directory leads to. A directory is walked as a part of the tree (`down`), or as the end of a link
(`across`). -/
def entry (fs : FileSystem) (exclude : List Text) (across down : Walk) (dir : Path) (way : List Location)
    (here : Location) (name : Text) (node : Node) : Except Fault (List Path) :=
  let path := Path.join dir name
  let excluded := exclude.contains name
  match node with
  | .file _ => .ok (file fs excluded path)
  | .directory =>
    if excluded then .ok []
    else if fs.has path then down path ((name :: here) :: way) (name :: here)
    else .error (.unreachable path)
  | .link _ =>
    match fs.find? path with
    | none => .error (.unreachable path)
    | some l =>
      if fs.node? l = some .directory then
        if l ∈ way then .error (.linkLoop path)
        else if excluded then .ok []
        else across path (l :: way) l
      else .ok (file fs excluded path)

/-- The entries of a directory, one after the other. -/
def inOrder (visit : Text → Node → Except Fault (List Path)) : List (Text × Node) → Except Fault (List Path)
  | [] => .ok []
  | (name, node) :: rest => do return (← visit name node) ++ (← inOrder visit rest)

/-- Walk a directory and the directories below it, down to a depth. -/
def walkDown (fs : FileSystem) (exclude : List Text) (across : Walk) : Nat → Walk
  | 0 => fun _ _ _ => .error .tooDeep
  | depth + 1 => fun dir way here =>
    inOrder (entry fs exclude across (walkDown fs exclude across depth) dir way here) (fs.entries here)

/-- Walk a directory with so many links on any way down. -/
def walk (fs : FileSystem) (exclude : List Text) : Nat → Walk
  | 0 => walkDown fs exclude (fun _ _ _ => .error .tooDeep) (fs.nodes.length + 1)
  | links + 1 => walkDown fs exclude (walk fs exclude links) (fs.nodes.length + 1)

/-- The manifests at or below a path, in the order in which they are met. What the path itself is called excludes
nothing. -/
def met (fs : FileSystem) (exclude : List Text) (top : Path) : Except Fault (List Path) :=
  match fs.find? top with
  | none => .error .missing
  | some l =>
    if fs.node? l = some .directory then walk fs exclude (fs.nodes.length + 1) top [l] l
    else .ok (file fs false top)

/-- The manifests at or below a path, in the order of their paths. -/
def manifests (fs : FileSystem) (exclude : List Text) (top : Path) : Except Fault (List Path) :=
  (met fs exclude top).map (sortBy Path.before)

end Search

end ModelStubs
