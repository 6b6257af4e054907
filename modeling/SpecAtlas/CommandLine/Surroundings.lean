import SpecAtlas.Build.Project
import SpecAtlas.CommandLine.Program

/-!
# What a command looks at

A command never looks at more of the file system than its request says: some single files, and for
a scan the workspace with everything below it. The report of a class is known only once the
configuration has been read.
-/

namespace SpecAtlas.CommandLine

open File Text

/-- The places that a command looks at. -/
structure Surroundings where
  /-- Directories with everything below them. -/
  trees : List FilePath
  files : List FilePath

/-- Places without further ones. -/
def Surroundings.ofFiles (files : List FilePath) : Surroundings := ⟨[], files⟩

/-- The files that tell about the project in a workspace. -/
def projectFiles (workspace : FilePath) : List FilePath :=
  ("gradlew".toList :: Build.mavenBuildFile :: Build.gradleBuildFiles).map workspace.child

/-- The configuration files that may count for a workspace. -/
def configFiles (workspace : FilePath) : List FilePath := workspace.upward.map (·.child Config.fileName)

/-- What a request looks at in the workspace that it is about. -/
def Request.placesIn (request : Request) (workspace : FilePath) : Surroundings :=
  match request with
  | discover r => if r.files.isEmpty then ⟨[workspace], []⟩ else .ofFiles (r.files.map .ofText)
  | results r => .ofFiles (.ofText r.console :: projectFiles workspace)
  | command _ => .ofFiles (projectFiles workspace)
  | version => .ofFiles []

/-- The workspace that a request names. -/
def Request.workspace? : Request → Option Text
  | discover r => r.workspace
  | results r => r.workspace
  | command r => r.workspace
  | version => none

/-- What a request looks at, before its configuration is read. -/
def Request.surroundings (request : Request) (common : Common) (s : Session) : Surroundings :=
  let workspace := (s.workspace request.workspace?).toOption.getD s.cwd
  let places := request.placesIn workspace
  { places with files := places.files ++ configFiles workspace ++ (common.configPath.toOption.bind id).toList }

/-- The report that a request looks at, once its configuration can be read. -/
def Request.report? (request : Request) (common : Common) (s : Session) : Option FilePath :=
  match request with
  | results r =>
    let path : Except Fault FilePath := do
      let workspace ← s.workspace r.workspace
      let settings ← s.settings common workspace r.tool
      let tool ← Config.buildTool s.root workspace settings
      let directory ← (Config.reportDirectory settings).mapError .misfit
      return Result.Query.reportPath ⟨workspace, tool, directory, r.className.shown⟩
    path.toOption
  | _ => none

end SpecAtlas.CommandLine
