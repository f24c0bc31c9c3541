import PropertyFiles.Command.Run
import PropertyFiles.Pattern.Search
/-!
# The command line program

The program looks at the project folder and its property files, runs the command on what it saw,
and writes the file that the command changed.
-/
namespace PropertyFiles.Program

def look (path : Path) : IO (Option Node) := do
  let place := (← IO.currentDir) / path.text
  if ← place.isDir then return some .folder
  else if ← place.pathExists then return some (.file (← IO.FS.readBinFile place))
  else return none

def see (tree : FileTree) (path : Path) : IO FileTree := do
  match ← look path with
  | some node => return tree.place path node
  | none => return tree

def filePaths (project : Path) : List Path :=
  Kind.all.map fun kind => project.child kind.fileName

/-- The folders on the way to a project, the project folder, and its property files. -/
def relevantPaths (project : Path) : List Path :=
  (List.range (project.parts.length + 1)).map (fun n => ⟨project.anchor, project.parts.take n⟩) ++
    filePaths project

def snapshot (project : Path) : IO FileTree := do
  let here := Path.ofString (← IO.currentDir).toString
  let start : FileTree := ⟨OrderedMap.empty, here.parts.reverse⟩
  (relevantPaths project).foldlM see (start.addFolders start.current)

/-- The property files that differ between two trees, written to the file system. -/
def writeBack (project : Path) (before after : FileTree) : IO Unit := do
  for path in filePaths project do
    match after.find? path with
    | some (.file bytes) =>
      if before.find? path ≠ some (.file bytes) then
        IO.FS.writeBinFile ((← IO.currentDir) / path.text) bytes
    | _ => pure ()

def projectOf (words : List String) : Path :=
  match Command.parse (words.map RawText.ofString) with
  | .ok invocation => Path.ofString invocation.project
  | .error _ => Path.ofString ""

end PropertyFiles.Program

def main (words : List String) : IO UInt32 := do
  let project := PropertyFiles.Program.projectOf words
  let before ← PropertyFiles.Program.snapshot project
  let result := PropertyFiles.Command.run PropertyFiles.Pattern.reader before
    (words.map PropertyFiles.RawText.ofString)
  PropertyFiles.Program.writeBack project before result.tree
  IO.print result.output
  IO.eprint result.errors
  return UInt32.ofNat result.status
