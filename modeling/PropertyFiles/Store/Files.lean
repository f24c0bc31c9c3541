import PropertyFiles.Store.Basic
/-!
# Loading, merging and saving stores

How stores meet the file tree. A missing folder, a missing file and a file that cannot be read are
all reported in notices; only saving can fail. A save that fails writes nothing, unless it is stopped
by a value that cannot be encoded: that is found out when the file is already being written.
-/
namespace PropertyFiles

/-- The properties of a file with these bytes. If they are no text, nothing else is reported of them. -/
def Document.decode (path : Path) (bytes : ByteArray) :
    Except Notice (OrderedMap String String) :=
  match String.fromUTF8? bytes with
  | none => .error (.undecodable path)
  | some text =>
    match Document.read text with
    | .ok properties => .ok properties
    | .error line => .error (.malformed path line)

def FileTree.loadProperties (tree : FileTree) (path : Path) :
    Option (OrderedMap String String) × List Notice :=
  match tree.readFile path with
  | .error failure => (none, [.unreadable path failure])
  | .ok bytes =>
    match Document.decode path bytes with
    | .ok properties => (some properties, [.loaded properties.size path])
    | .error notice => (none, [notice])

def FileTree.loadProject (tree : FileTree) (folder : String) (kind : Kind) :
    Option (OrderedMap String String) × List Notice :=
  let folderPath := Path.ofString folder
  let path := folderPath.child kind.fileName
  if !tree.isFolder folderPath then (none, [.noFolder folderPath])
  else if !tree.isFile path then (none, [.noFile kind folderPath])
  else tree.loadProperties path

namespace Store

def load (tree : FileTree) (folder : String) (kind : Kind) : Option Store × List Notice :=
  match tree.loadProject folder kind with
  | (some properties, notices) => (some ⟨folder, kind, properties.raw.mapValues some⟩, notices)
  | (none, notices) => (none, notices)

/-- The store with the properties of the project's file of another kind filled in. A file that
cannot be read adds nothing. -/
def merge (tree : FileTree) (store : Store) (kind : Kind) : Store × List Notice :=
  match tree.loadProject store.folder kind with
  | (none, notices) => (store, notices)
  | (some properties, notices) =>
    let merged := store.properties.mergeMissing (properties.raw.mapValues some)
    ({ store with properties := merged.map },
      notices ++ [.merged merged.added.length kind store.kind])

/-- The text that saving writes, up to a line that cannot be encoded. -/
def text (store : Store) : String :=
  Document.render store.kind store.properties

/-- The file tree with the file of the store replaced. Every entry is checked before the file is
touched, but not whether it can be encoded. -/
def save (tree : FileTree) (store : Store) : FileTree × Except StoreError (List Notice) :=
  match Document.fault? store.properties with
  | some (key, fault) => (tree, .error (.unwritable key fault))
  | none =>
    if store.path.hasNul then (tree, .error .nulInPath)
    else
      match tree.writeFile store.path store.text.toUTF8 with
      | .error failure => (tree, .error (.file failure store.path))
      | .ok written =>
        match Document.unencodable? store.properties with
        | some line => (written, .error (.unencodable line))
        | none => (written, .ok [.saved store.properties.size store.path])

end Store
end PropertyFiles
