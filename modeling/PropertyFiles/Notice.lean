import PropertyFiles.Document
import PropertyFiles.FileTree
/-!
# Notices

What reading and writing property files reports on the side: each notice has a level, the part
that reports it, and a text.
-/
namespace PropertyFiles

inductive Level
  | debug
  | warning
deriving DecidableEq, Repr

def Level.word : Level → String
  | .debug => "DEBUG"
  | .warning => "WARNING"

inductive Notice
  | loaded (count : Nat) (path : Path)
  | malformed (path : Path) (line : Malformed)
  | undecodable (path : Path)
  | unreadable (path : Path) (failure : FileFailure)
  | noFolder (folder : Path)
  | noFile (kind : Kind) (folder : Path)
  | merged (count : Nat) (source target : Kind)
  | saved (count : Nat) (path : Path)
deriving DecidableEq, Repr

namespace Notice

/-- Failures to read a file are warnings; all else is for debugging. -/
def level : Notice → Level
  | malformed .. | undecodable .. | unreadable .. => .warning
  | _ => .debug

/-- The name of the part that reports: the reader of files or the stores above it. -/
def channel : Notice → String
  | loaded .. | malformed .. | undecodable .. | unreadable .. => "projprops.parser"
  | _ => "projprops.core.properties"

def text : Notice → String
  | loaded count path => s!"Loaded {count} properties from {path}"
  | malformed path line =>
    s!"Error parsing {path}: line {line.number}: invalid property line {Text.quoted line.text}"
  | undecodable path => s!"Error loading {path}: UnicodeDecodeError"
  | unreadable path failure => s!"Error loading {path}: {failure.message path}"
  | noFolder folder => s!"No project folder at {folder}"
  | noFile kind folder => s!"No {kind.fileName} in {folder}"
  | merged count source target =>
    s!"Merged {count} properties from {source.fileName} into {target.fileName}"
  | saved count path => s!"Saved {count} properties to {path}"

def line (notice : Notice) : String :=
  s!"{notice.level.word} {notice.channel}: {notice.text}\n"

end Notice
end PropertyFiles
