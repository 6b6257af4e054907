import SpecAtlas.Fault

/-!
# Source files of a workspace

The test directories of a workspace are given by glob patterns, the workspace itself also by `.` or
by nothing, and the source files below each of them by further patterns. A file counts once, where
it comes up first. Files below a directory with an ignored name do not count, wherever that
directory stands below the workspace.

Settings may hold values that are no patterns. Such a value is a fault, but only where it comes up; so is
a workspace, or a name in a pattern, that the system does not take.
-/

namespace SpecAtlas.Discovery

open File Text

/-- A pattern as settings give it: a text, or what is wrong with a value that is none. -/
abbrev Pattern := Except Misfit Text

/-- Where the source files of a workspace are looked for. -/
structure Settings where
  testDirectories : List Pattern
  patterns : List Pattern
  ignored : List Text

/-- A list, or another one in place of the empty one. -/
def nonEmptyOr (default given : List Pattern) : List Pattern := if given.isEmpty then default else given

/-- Settings in which a missing list of directories or patterns has its default. -/
def Settings.of (testDirectories patterns : List Pattern) (ignored : List Text) : Settings :=
  ⟨nonEmptyOr [.ok ['.']] testDirectories, nonEmptyOr [.ok "**/*.groovy".toList] patterns, ignored⟩

/-- The glob pattern that a pattern writes. -/
def glob (pattern : Text) : Except Fault Glob := (Glob.read pattern).mapError .pattern

/-- Asks whether the workspace is a directory, which nobody can say of a path that the system does not
take. -/
def askWorkspace (root : Node) (workspace : FilePath) : Except Fault Bool :=
  (root.ask Node.isDirectory workspace).mapError .blocked

/-- What a glob pattern selects below a directory, by the components below it. -/
def selectBelow (glob : Glob) (root : Node) (directory : FilePath) : Except Fault (List (List Text)) :=
  (glob.select root directory).mapError .blocked

/-- The directories that a pattern stands for, by their components below the workspace. -/
def directoriesFor (root : Node) (workspace : FilePath) (pattern : Pattern) : Except Fault (List (List Text)) := do
  let pattern ← pattern.mapError .misfit
  if pattern.isEmpty || pattern = ['.'] then
    let _ ← askWorkspace root workspace
    return [[]]
  else
    let glob ← glob pattern
    let _ ← askWorkspace root workspace
    selectBelow glob root workspace

/-- What a file pattern selects in a test directory, by the components below the workspace. -/
def selectedIn (root : Node) (workspace : FilePath) (directory : List Text) (pattern : Pattern) :
    Except Fault (List (List Text)) := do
  let pattern ← pattern.mapError .misfit
  let glob ← glob pattern
  return (← selectBelow glob root (workspace.children directory)).map (directory ++ ·)

/-- Whether components below the workspace name a source file that is not ignored. -/
def isCandidate (root : Node) (workspace : FilePath) (ignored : List Text) (parts : List Text) : Bool :=
  root.isFileAt (workspace.children parts) && !parts.dropLast.any ignored.contains

/-- What the patterns select in the test directories, in order and with repetitions. -/
def selected (root : Node) (workspace : FilePath) (s : Settings) : Except Fault (List (List Text)) := do
  let found ← s.testDirectories.mapM fun pattern => do
    let directories ← directoriesFor root workspace pattern
    let directories := directories.filter fun parts => root.isDirectoryAt (workspace.children parts)
    directories.mapM fun directory => s.patterns.mapM (selectedIn root workspace directory)
  return found.flatten.flatten.flatten

/-- The source files of a workspace, by their components below it. -/
def candidates (root : Node) (workspace : FilePath) (s : Settings) : Except Fault (List (List Text)) :=
  (selected root workspace s).map fun found =>
    (found.filter (isCandidate root workspace s.ignored)).eraseDups

end SpecAtlas.Discovery
