/-!
# Paths

A path is a chain of names that starts at the current folder or at the root. Two spellings that
differ only in repeated slashes, components `.` or a slash at the end are one path.
-/
namespace PropertyFiles

/-- Where a path starts. A path may begin with exactly two slashes, which are kept. -/
inductive Anchor
  | here
  | root
  | doubleRoot
deriving DecidableEq, Repr

/-- A path without redundant components. The component `..` stays. -/
structure Path where
  anchor : Anchor
  parts : List String
deriving DecidableEq, Repr

namespace Path

/-- The anchor of a spelled path, known by the number of slashes in front. -/
def anchorOf (cs : List Char) : Anchor :=
  match (cs.takeWhile (· == '/')).length with
  | 0 => .here
  | 2 => .doubleRoot
  | _ => .root

def partsOf (cs : List Char) : List String :=
  ((cs.splitOn '/').filter fun part => part ≠ [] ∧ part ≠ ['.']).map String.ofList

def ofString (text : String) : Path :=
  ⟨anchorOf text.toList, partsOf text.toList⟩

def child (folder : Path) (name : String) : Path :=
  ⟨folder.anchor, folder.parts ++ [name]⟩

def slashes (path : Path) : String :=
  match path.anchor with
  | .here => ""
  | .root => "/"
  | .doubleRoot => "//"

/-- The shortest spelling of a path; the current folder is a single full stop. -/
def text (path : Path) : String :=
  if path.anchor = .here ∧ path.parts = [] then "."
  else path.slashes ++ "/".intercalate path.parts

/-- Whether a NUL stands in a path, which then names nothing. -/
def hasNul (path : Path) : Bool :=
  path.parts.any fun part => part.toList.contains '\x00'

instance : ToString Path := ⟨text⟩

@[simp] theorem parts_child (folder : Path) (name : String) :
    (folder.child name).parts = folder.parts ++ [name] := rfl

end Path
end PropertyFiles
