import PropertyFiles.Text.Lines
/-!
# Kinds of property files

A project has up to three property files. Each kind has a file name of its own and a header that
explains to the reader what the file is for.
-/
namespace PropertyFiles

inductive Kind
  /-- Overrides of the build's own defaults. -/
  | build
  /-- Settings that the project shares. -/
  | default
  /-- Settings of one machine, never shared. -/
  | machine
deriving DecidableEq, Repr

namespace Kind

def all : List Kind := [.build, .default, .machine]

def name : Kind → String
  | .build => "BUILD"
  | .default => "DEFAULT"
  | .machine => "LOCAL"

def word : Kind → String
  | .build => "build"
  | .default => "default"
  | .machine => "local"

def fileName (kind : Kind) : String :=
  kind.word ++ ".properties"

def headerLines : Kind → List String
  | .build => [
    "# This file is used to override default values used by the Ant build system.",
    "# ",
    "# This file must be checked in Version Control Systems, as it is",
    "# integral to the build system of your project.",
    "",
    "# The name of your application package as defined in the manifest.",
    "# Used by the 'uninstall' rule.",
    "#application-package=com.example.myproject",
    "",
    "# The name of the source folder.",
    "#source-folder=src",
    "",
    "# The name of the output folder.",
    "#out-folder=bin",
    ""]
  | .default => [
    "# This file is automatically generated by Android Tools.",
    "# Do not modify this file -- YOUR CHANGES WILL BE ERASED!",
    "# ",
    "# This file must be checked in Version Control Systems.",
    "# ",
    "# To customize properties used by the Ant build system use,",
    "# \x22build.properties\x22, and override values to adapt the script to your",
    "# project structure.",
    ""]
  | .machine => [
    "# This file is automatically generated by Android Tools.",
    "# Do not modify this file -- YOUR CHANGES WILL BE ERASED!",
    "# ",
    "# This file must *NOT* be checked in Version Control Systems,",
    "# as it contains information specific to your local configuration.",
    ""]

def header (kind : Kind) : String :=
  Text.unlines kind.headerLines

def ofName? (name : String) : Option Kind :=
  all.find? fun kind => kind.name == name

def ofWord? (word : String) : Option Kind :=
  all.find? fun kind => kind.word == word

@[simp] theorem ofName?_name (kind : Kind) : ofName? kind.name = some kind := by
  cases kind <;> decide

@[simp] theorem ofWord?_word (kind : Kind) : ofWord? kind.word = some kind := by
  cases kind <;> decide

end Kind
end PropertyFiles
