import SpecAtlas.Config.Load
import SpecAtlas.Config.Setting
import SpecAtlas.CommandLine.Request
import SpecAtlas.Log

/-!
# Sessions

A command sees its surroundings as a value: the files, the current directory, the environment, the
standard input and the clock, and the library that reads configuration files. What it does is a value too,
the exit code and what is written to the two outputs.
-/

namespace SpecAtlas.CommandLine

open File Text

/-- What a command sees. -/
structure Session where
  root : Node
  /-- The current directory, an absolute path in normal form. -/
  cwd : FilePath
  environment : List (Text × Text)
  input : Text
  /-- Milliseconds since 1970. -/
  time : Int
  /-- What reads configuration files. -/
  reader : Config.TableReader

/-- What a command does. -/
structure Outcome where
  exit : Nat
  out : Text
  err : Text
  deriving DecidableEq, Repr

/-- Lines of output. -/
def linesOf (texts : List Text) : Text := texts.flatMap (· ++ ['\n'])

/-- The workspace that a command works on. -/
def Session.workspace (s : Session) (given : Option Text) : Except Fault FilePath :=
  match given with
  | some text => FilePath.resolved s.cwd (.ofText text)
  | none => .ok s.cwd

/-- The configuration file that the user names. -/
def Common.configPath (common : Common) : Except Misfit (Option FilePath) :=
  match common.configFile with
  | none => .ok none
  | some (.text t) => .ok (some (.ofText t))
  | some .empty => .error .listNoFile

/-- The configuration for a workspace, with the build tool that the user may have named. -/
def Session.settings (s : Session) (common : Common) (workspace : FilePath) (tool : Option Text) :
    Except Fault Config.Settings := do
  let file ← common.configPath.mapError .misfit
  let settings ← Config.load s.reader s.root s.cwd s.environment file workspace
  match tool with
  | some name => (Config.withBuildTool settings name).mapError .misfit
  | none => return settings

/-- What is logged about events, under the name of a command: everything if the user wants to see
it, and nothing otherwise. -/
def Common.log (common : Common) (command : String) (events : List Event) : Text :=
  let threshold := if common.verbose then 10 else if common.quiet then 40 else 30
  linesOf ((logged threshold 10 (events.map Event.record)).map fun message =>
    programName ++ '.' :: command.toList ++ ": ".toList ++ message)

/-- A message on the second output. -/
def errorLine (message : Text) : Text := "Error: ".toList ++ message

end SpecAtlas.CommandLine
