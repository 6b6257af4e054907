import SpecAtlas.CommandLine.Discover
import SpecAtlas.CommandLine.Results
import SpecAtlas.CommandLine.Run

/-!
# The program

From the arguments to the outcome. What is wrong with the configuration is reported and ends the
program with exit code 1, what is wrong with the arguments with exit code 2; any other fault has no
outcome.
-/

namespace SpecAtlas.CommandLine

open Text

/-- The line that tells the version. -/
def versionLine : Text := programName ++ " 0.3.0".toList

/-- Does what the user asks for. -/
def Request.run (request : Request) (common : Common) (s : Session) : Except Fault Outcome :=
  match request with
  | discover r => r.run common s
  | results r => r.run common s
  | command r => r.run common s
  | version => .ok ⟨0, linesOf [versionLine], []⟩

/-- Reports a fault of the configuration. -/
def reportConfig : Except Fault Outcome → Except Fault Outcome
  | .error (.config problem) => .ok ⟨1, [], linesOf [errorLine problem.message]⟩
  | r => r

/-- Runs the program. The text of its help is given. -/
def run (help : Text) (arguments : List Text) (s : Session) : Except Fault Outcome :=
  match Request.read arguments with
  | .ok (common, request) => reportConfig (request.run common s)
  | .error .help => .ok ⟨0, help, []⟩
  | .error .version => .ok ⟨0, linesOf [versionLine], []⟩
  | .error (.misuse program problem) =>
    .ok ⟨2, [], linesOf [program ++ ": error: ".toList ++ problem.message]⟩

end SpecAtlas.CommandLine
