import SpecAtlas.Build.Invocation
import SpecAtlas.Build.TestItem
import SpecAtlas.CommandLine.Session
import SpecAtlas.Shell.Quoting

/-!
# Printing the command that runs a test

The command is printed in the words of a shell, so that it can be pasted. A debugger needs a port:
Gradle has one of its own, and for Maven the user must name one.
-/

namespace SpecAtlas.CommandLine

open Build Text

/-- The port for a debugger; `none` if one is needed and not given. -/
def RunRequest.debugPort? (r : RunRequest) (tool : Tool) : Option (Option Int) :=
  if !r.debug then some r.port
  else
    match tool, r.port with
    | .gradle, _ => some (some gradleDebugPort)
    | .maven, some port => if port = 0 then none else some (some port)
    | .maven, none => none

/-- The filter for the test. An empty list shows inside a word, and alone is an empty word. -/
def RunRequest.filter (r : RunRequest) (tool : Tool) : Text :=
  if r.className = .empty && r.feature.isEmpty && tool = .gradle then []
  else testFilter r.className.shown r.feature

/-- What runs the test; `wrapper` says whether the workspace brings its own Gradle. -/
def RunRequest.invocation (r : RunRequest) (s : Session) (wrapper : Bool) (tool : Tool) (port : Option Int) : Invocation :=
  ⟨tool, wrapper, r.filter tool, r.debug, port, s.time⟩

/-- Whether a build tool is the Gradle of the workspace; nobody asks for it with Maven. -/
def usesWrapper (root : File.Node) (workspace : File.FilePath) (tool : Tool) : Except Fault Bool :=
  match tool with
  | .gradle => (hasWrapper root workspace).mapError .blocked
  | .maven => .ok false

/-- Prints the command that runs a test. -/
def RunRequest.run (r : RunRequest) (common : Common) (s : Session) : Except Fault Outcome := do
  let workspace ← s.workspace r.workspace
  let settings ← s.settings common workspace r.tool
  let tool ← Config.buildTool s.root workspace settings
  match r.debugPort? tool with
  | none => return ⟨1, [], linesOf [errorLine "--port is required to debug with Maven".toList]⟩
  | some port =>
    let wrapper ← usesWrapper s.root workspace tool
    return ⟨0, linesOf [Shell.quoteWords (r.invocation s wrapper tool port).arguments], []⟩

end SpecAtlas.CommandLine
