import SpecAtlas.File.Path

/-!
# Build tools

The two build tools, and where each of them writes its reports: one file for every test class.
-/

namespace SpecAtlas.Build

open File

/-- A build tool. -/
inductive Tool where
  | gradle
  | maven
  deriving DecidableEq, Repr

namespace Tool

/-- The name of a build tool. -/
def name : Tool → Text
  | gradle => "gradle".toList
  | maven => "maven".toList

/-- The build tool with a name. -/
def ofName? (name : Text) : Option Tool := [gradle, maven].find? (·.name = name)

/-- Where a build tool writes its reports, below the workspace. -/
def reportDirectory : Tool → FilePath
  | gradle => .ofText "build/test-results/test".toList
  | maven => .ofText "target/surefire-reports".toList

end Tool

/-- The report of a test class. A directory other than the build tool's own may be given; an empty
one counts as none. -/
def reportPath (workspace : FilePath) (tool : Tool) (directory className : Text) : FilePath :=
  let directory := if directory.isEmpty then tool.reportDirectory else .ofText directory
  workspace ++ directory ++ .ofText ("TEST-".toList ++ className ++ ".xml".toList)

end SpecAtlas.Build
