import ModelStubs.Program

/-!
# Running the program

The program runs on a picture of the part of the disk that a call looks at. The picture is taken first; what the call
has changed in it is written back to the disk.
-/

namespace ModelStubs.Main

/-- The picture taken so far, and the directories of which everything was taken. -/
structure Picture where
  files : FileSystem
  trees : List Location

/-- The path of a location on the disk. -/
def diskPath (l : Location) : String := "/" ++ "/".intercalate (l.reverse.map String.ofList)

/-- The entry of the disk at a location. -/
def diskEntry (name : Text) (parent : Location) : IO.FS.DirEntry := ⟨diskPath parent, String.ofList name⟩

/-- The path that a link on the disk leads to in the end; for one that leads nowhere, its own. -/
def linkEnd (path : String) : IO Path := do
  try
    return (← IO.FS.realPath path).toString.toList
  catch _ => return path.toList

/-- What the disk holds under a name in a directory. -/
def nodeOnDisk? (parent : Location) (name : Text) : IO (Option Node) := do
  let path := (diskEntry name parent).path
  try
    match (← path.symlinkMetadata).type with
    | .dir => return some .directory
    | .file => return some (.file (← IO.FS.readBinFile path))
    | .symlink => return some (.link (← linkEnd (diskPath (name :: parent))))
    | .other => return none
  catch _ => return none

mutual

/-- Take the way of a path into the picture, and with `below` all that is below its end. -/
partial def takeWay (below : Bool) (picture : Picture) (here : Location) : List Text → IO Picture
  | [] => if below then takeTree picture here else return picture
  | part :: rest => do
    if part = ['.'] then takeWay below picture here rest
    else if part = ['.', '.'] then takeWay below picture here.tail rest
    else match ← nodeOnDisk? here part with
      | none => return picture
      | some node =>
        let next := { picture with files := picture.files.put here part node }
        match node with
        | .link target =>
          if Path.parts target = (part :: here).reverse then return next
          else takeWay below next [] (Path.parts target ++ rest)
        | _ => takeWay below next (part :: here) rest

/-- Take a directory into the picture with all that is below it, unless that was done before. -/
partial def takeTree (picture : Picture) (here : Location) : IO Picture := do
  match here with
  | name :: parent =>
    if here ∈ picture.trees ∨ picture.files.node? here ≠ some .directory then return picture
    let mut picture := { picture with trees := here :: picture.trees }
    for found in ← (diskEntry name parent).path.readDir do
      picture ← takeWay true picture here [found.fileName.toList]
    return picture
  | [] => return picture

end

/-- Take what a call looks at into the picture. -/
def take (picture : Picture) (looked : List (Path × Bool)) : IO Picture :=
  looked.foldlM (fun picture (p, below) =>
    takeWay below picture (FileSystem.startOf p picture.files.workDir) (Path.parts p)) picture

/-- Write what was changed in the picture to the disk, the directories before what is in them. -/
def writeBack (before after : FileSystem) : IO Unit := do
  let changed := after.nodes.filter fun (l, node) => before.node? l ≠ some node
  for (l, node) in changed.mergeSort fun a b => a.1.length ≤ b.1.length do
    match node with
    | .directory => IO.FS.createDirAll (diskPath l)
    | .file content => IO.FS.writeBinFile (diskPath l) content
    | .link _ => pure ()

end ModelStubs.Main

open ModelStubs

/-- Take the picture, make the call, write back and print. -/
def main (args : List String) : IO UInt32 := do
  let args := args.map String.toList
  let workDir := Path.parts (← IO.currentDir).toString.toList
  let start ← Main.takeWay false ⟨.bare workDir.reverse, []⟩ [] workDir
  let withConfig ← Main.take start (Program.looksAt start.files args)
  let picture ← Main.take withConfig (Program.looksAt withConfig.files args)
  let given ← IO.getEnv "RUST_LOG"
  let result := Program.call picture.files (given.map String.toList) args
  Main.writeBack picture.files result.files
  IO.print (String.ofList result.out)
  IO.eprint (String.ofList result.err)
  return result.exit.toUInt32
