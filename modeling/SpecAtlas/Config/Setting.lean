import SpecAtlas.Config.Merge
import SpecAtlas.Build.Project
import SpecAtlas.Discovery.Candidates
import SpecAtlas.Text.Case

/-!
# Reading settings

What the configuration says about the search for source files, about reports and about the build
tool. A section or a setting that is missing has its default, and so has a setting that counts as
nothing; one of the wrong form is a misfit.
-/

namespace SpecAtlas.Config

open File Text

/-- The entries of a section, which may be missing. -/
def sectionOf (settings : Settings) (name : String) : Except Misfit (Mapping Value) :=
  ((Mapping.get? settings name.toList).getD (.map [])).asTable

/-- A setting of a section; without it nothing is set. -/
def setting (entries : Mapping Value) (key : String) : Value := (Mapping.get? entries key.toList).getD .null

/-! ## Source files -/

/-- Where a section says that source files are looked for. -/
def discoveryOf (entries : Mapping Value) : Except Misfit Discovery.Settings := do
  let ignored ← (setting entries "ignore").asNames
  return .of (setting entries "test_dirs").asPatterns (setting entries "patterns").asPatterns ignored

/-- Where the configuration looks for source files. -/
def discoverySettings (settings : Settings) : Except Misfit Discovery.Settings := do
  discoveryOf (← sectionOf settings "discovery")

/-! ## Reports and the build tool -/

/-- The directory of reports that the configuration names; empty if it names none. -/
def reportDirectory (settings : Settings) : Except Misfit Text := do
  (setting (← sectionOf settings "results") "report_dir").asPath

/-- The text of a value that stands in the place of a name. -/
def nameText : Value → Except Fault Text
  | .text t => .ok t
  | .moment m => .ok m.text
  | v => if v.hasLongNumber then .error .longNumber else .ok v.detail

/-- The name of the build tool that the configuration names, in lower case. -/
def toolName (settings : Settings) : Except Fault Text := do
  let entries ← (sectionOf settings "results").mapError .misfit
  let name ← nameText ((Mapping.get? entries "build_tool".toList).getD (.text "auto".toList))
  return lower name

/-- The build tool that the configuration names; `auto` is the one that the build files in the
workspace show, and Gradle if they show none. -/
def buildTool (root : Node) (workspace : FilePath) (settings : Settings) : Except Fault Build.Tool := do
  let name ← toolName settings
  if name = "auto".toList then return (← (Build.detect? root workspace).mapError .blocked).getD .gradle
  else
    match Build.Tool.ofName? name with
    | some tool => return tool
    | none => .error (.config (.unknownTool name))

/-- The configuration with another build tool. -/
def withBuildTool (settings : Settings) (name : Text) : Except Misfit Settings := do
  let key := "results".toList
  let entries := (Mapping.get? settings key).getD (.map [])
  return Mapping.put settings key (← entries.withEntry "build_tool".toList (.text name))

end SpecAtlas.Config
