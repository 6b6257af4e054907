import SpecAtlas.CommandLine.Session
import SpecAtlas.Discovery.Scan
import SpecAtlas.Json.Writer

/-!
# Listing specifications

The files that the user names are read one by one, under the paths as they were given; without any
the workspace is scanned. The command fails if a file could not be read, but shows all others.
-/

namespace SpecAtlas.CommandLine

open File Source Discovery Text

/-- An iteration in the list. -/
def iterationLine (i : Iteration) : Text :=
  "        #".toList ++ Numeral.ofNat i.index ++ ' ' :: i.displayName

/-- The lines for a feature. -/
def featureLines (f : Feature) : List Text :=
  match f.data with
  | none => ["    - ".toList ++ f.name]
  | some data =>
    ("    - ".toList ++ f.name ++ "  [".toList ++ Numeral.ofNat data.iterations.length
      ++ " iteration(s)]".toList) :: data.iterations.map iterationLine

/-- The lines for a specification. Its line counts from one here. -/
def specificationLines (s : Specification) : List Text :=
  ("  ".toList ++ s.name ++ (if s.isAbstract then " (abstract)".toList else []) ++ "  [line ".toList
    ++ Numeral.ofNat (s.line + 1) ++ [']']) :: s.features.flatMap featureLines

/-- A path as it is shown: below the workspace if it lies there. -/
def shownPath (cwd workspace path : FilePath) : Text :=
  match workspace.below? (FilePath.resolve cwd path) with
  | some parts => (FilePath.mk [] parts).text
  | none => path.text

/-- The lines for a file. -/
def fileLines (cwd workspace : FilePath) (f : SourceFile) : List Text :=
  shownPath cwd workspace f.path :: f.specifications.flatMap specificationLines

/-- The last line of the list. -/
def scanSummary (scan : Scan) : Text :=
  Numeral.ofNat scan.featureCount ++ " feature(s) in ".toList ++ Numeral.ofNat scan.files.length
    ++ " file(s) (".toList ++ Numeral.ofNat scan.filesScanned ++ " scanned)".toList

/-- A scan as a document. -/
def scanDocument (scan : Scan) : Value :=
  document
    [("files", .list (scan.files.map SourceFile.document)), ("filesScanned", .nat scan.filesScanned),
      ("testCount", .nat scan.featureCount), ("errors", .list (scan.errors.map .text))]

/-- The scan that a request asks for, with its events. The configuration must say where source files
are looked for even if the request names them. -/
def DiscoverRequest.scan (r : DiscoverRequest) (s : Session) (workspace : FilePath) (settings : Config.Settings) :
    Except Fault (Scan × List Event) := do
  let search ← (Config.discoverySettings settings).mapError .misfit
  if r.files.isEmpty then
    let found ← candidates s.root workspace search
    let scan ← scanFiles s.root s.cwd r.withData (found.map workspace.children)
    return (scan, scan.flatMap Scanned.eventsInWorkspace)
  else
    let scan ← scanFiles s.root s.cwd r.withData (r.files.map .ofText)
    return (scan, scan.flatMap Scanned.events)

/-- Lists specifications. -/
def DiscoverRequest.run (r : DiscoverRequest) (common : Common) (s : Session) : Except Fault Outcome := do
  let workspace ← s.workspace r.workspace
  let settings ← s.settings common workspace none
  let (scan, events) ← r.scan s workspace settings
  let out :=
    if r.json then [Json.write (scanDocument scan)]
    else if common.quiet then []
    else scan.files.flatMap (fileLines s.cwd workspace) ++ [scanSummary scan]
  return ⟨if scan.errors.isEmpty then 0 else 1, linesOf out,
    common.log "discover" events ++ linesOf (scan.errors.map errorLine)⟩

end SpecAtlas.CommandLine
