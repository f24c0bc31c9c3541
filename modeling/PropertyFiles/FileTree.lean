import PropertyFiles.OrderedMap.Lemmas
import PropertyFiles.Path
import PropertyFiles.Text.Quoted
/-!
# File trees

The files and folders that a program can see, and the folder it runs in. A path is walked name by
name: each name but the last has to be a folder, and `..` leads back to the folder above.
-/
namespace PropertyFiles

/-- The names that lead to a place in the tree, the innermost name first. -/
abbrev Location := List String

inductive Node
  | file (bytes : ByteArray)
  | folder

instance : DecidableEq Node
  | .file a, .file b =>
    decidable_of_iff (a.data = b.data)
      ⟨fun h => congrArg Node.file (ByteArray.ext h), fun h => by rw [Node.file.inj h]⟩
  | .folder, .folder => isTrue rfl
  | .file _, .folder => isFalse nofun
  | .folder, .file _ => isFalse nofun

/-- Files and folders below the root, and the current folder. -/
structure FileTree where
  nodes : OrderedMap Location Node
  current : Location

inductive FileFailure
  | missing
  | notFolder
  | isFolder
deriving DecidableEq, Repr

def FileFailure.message (failure : FileFailure) (path : Path) : String :=
  let reason := match failure with
    | .missing => "[Errno 2] No such file or directory: "
    | .notFolder => "[Errno 20] Not a directory: "
    | .isFolder => "[Errno 21] Is a directory: "
  reason ++ Text.quoted path.text

namespace FileTree

def emptyAt (name : String) : FileTree :=
  ⟨OrderedMap.empty.insert [name] .folder, [name]⟩

/-- What stands at a location. The root is always a folder. -/
def node? (tree : FileTree) (place : Location) : Option Node :=
  match place with
  | [] => some .folder
  | _ => tree.nodes.get? place

/-- The location one name further: `..` leads to the folder above. -/
def descend (here : Location) (name : String) : Location :=
  if name = ".." then here.tail else name :: here

/-- The location that a chain of names leads to, whether something stands there or not. -/
def walk (tree : FileTree) : Location → List String → Except FileFailure Location
  | here, [] => .ok here
  | here, name :: rest =>
    match tree.node? here with
    | none => .error .missing
    | some (.file _) => .error .notFolder
    | some .folder => walk tree (descend here name) rest

def startOf (tree : FileTree) (path : Path) : Location :=
  match path.anchor with
  | .here => tree.current
  | .root | .doubleRoot => []

def locate (tree : FileTree) (path : Path) : Except FileFailure Location :=
  tree.walk (tree.startOf path) path.parts

def find? (tree : FileTree) (path : Path) : Option Node :=
  if path.hasNul then none
  else
    match tree.locate path with
    | .ok place => tree.node? place
    | .error _ => none

def isFolder (tree : FileTree) (path : Path) : Bool :=
  match tree.find? path with
  | some .folder => true
  | _ => false

def isFile (tree : FileTree) (path : Path) : Bool :=
  match tree.find? path with
  | some (.file _) => true
  | _ => false

def contains (tree : FileTree) (path : Path) : Bool :=
  (tree.find? path).isSome

def readFile (tree : FileTree) (path : Path) : Except FileFailure ByteArray :=
  match tree.locate path with
  | .error failure => .error failure
  | .ok place =>
    match tree.node? place with
    | none => .error .missing
    | some .folder => .error .isFolder
    | some (.file bytes) => .ok bytes

def set (tree : FileTree) (place : Location) (node : Node) : FileTree :=
  { tree with nodes := tree.nodes.insert place node }

/-- The tree with the bytes of a file replaced, or with a new file in a folder that exists. -/
def writeFile (tree : FileTree) (path : Path) (bytes : ByteArray) : Except FileFailure FileTree :=
  match tree.locate path with
  | .error failure => .error failure
  | .ok place =>
    match tree.node? place with
    | some .folder => .error .isFolder
    | _ => .ok (tree.set place (.file bytes))

/-- The tree with a location and all folders around it made folders, files excepted. -/
def addFolders (tree : FileTree) : Location → FileTree
  | [] => tree
  | name :: above =>
    let tree := addFolders tree above
    match tree.node? (name :: above) with
    | some _ => tree
    | none => tree.set (name :: above) .folder

def place (tree : FileTree) (path : Path) (node : Node) : FileTree :=
  let location := path.parts.foldl descend (tree.startOf path)
  match node with
  | .folder => tree.addFolders location
  | .file _ => (tree.addFolders location.tail).set location node

def removeAt (tree : FileTree) (location : Location) : FileTree :=
  { tree with nodes := tree.nodes.filterKeys fun other => !location.isSuffixOf other }

def remove (tree : FileTree) (path : Path) : FileTree :=
  match tree.locate path with
  | .ok location => tree.removeAt location
  | .error _ => tree

def changes (before after : FileTree) : List (Location × Node) :=
  after.nodes.entries.filter fun e => before.nodes.get? e.1 ≠ some e.2

@[simp] theorem node?_root (tree : FileTree) : tree.node? [] = some .folder := rfl

theorem node?_of_ne_root (tree : FileTree) {location : Location} (h : location ≠ []) :
    tree.node? location = tree.nodes.get? location := by
  unfold node?
  split
  · exact absurd rfl h
  · rfl

/-- Setting a node changes what stands at its location and nowhere else. -/
theorem node?_set (tree : FileTree) {location : Location} (node : Node) (h : location ≠ [])
    (other : Location) :
    (tree.set location node).node? other =
      if other = location then some node else tree.node? other := by
  by_cases ho : other = []
  · subst ho
    rw [if_neg (Ne.symm h), node?_root, node?_root]
  · rw [node?_of_ne_root _ ho, node?_of_ne_root _ ho, set, OrderedMap.get?_insert]

/-- A file that could be written stands where its path leads. -/
theorem writeFile_eq_ok {tree after : FileTree} {path : Path} {bytes : ByteArray}
    (h : tree.writeFile path bytes = .ok after) :
    ∃ location, tree.locate path = .ok location ∧ tree.node? location ≠ some .folder ∧
      after = tree.set location (.file bytes) := by
  unfold writeFile at h
  split at h
  · simp at h
  · rename_i location hl
    split at h
    · simp at h
    · rename_i hn
      exact ⟨location, hl, fun hf => hn hf, (Except.ok.inj h).symm⟩

end FileTree
end PropertyFiles
