import SpecAtlas.CommandLine.Session
import SpecAtlas.Document
import SpecAtlas.Json.Writer
import SpecAtlas.Result.Selection

/-!
# Showing results

The command shows the results of one feature, whether they come from the report of its class or from
console output, and fails if one of the iterations did.
-/

namespace SpecAtlas.CommandLine

open File Result Text

/-- The duration of an iteration as it is shown; zero is not shown. -/
def shownDuration (duration : Binary64) : Text :=
  if duration.isZero then [] else " (".toList ++ duration.toThousandths ++ "s)".toList

/-- The lines for the result of an iteration. -/
def resultLines (r : IterationResult) : List Text :=
  ((if r.success then '✓' else '✗') :: " #".toList ++ Numeral.ofNat r.index ++ ' ' :: r.displayName
    ++ shownDuration r.duration) :: (r.error.map ("    ".toList ++ ·)).toList

/-- The results that did not succeed. -/
def failed (results : List IterationResult) : List IterationResult := results.filter (!·.success)

/-- The last line of the list. -/
def resultSummary (results : List IterationResult) : Text :=
  Numeral.ofNat (results.length - (failed results).length) ++ " passed, ".toList
    ++ Numeral.ofNat (failed results).length ++ " failed".toList

/-- Results as they are shown. -/
def ResultsRequest.lines (r : ResultsRequest) (results : List IterationResult) : List Text :=
  if results.isEmpty then
    ["No iteration results found for ".toList ++ r.className.shown ++ '.' :: r.feature.shown]
  else results.flatMap resultLines ++ [resultSummary results]

/-- Results as a document. -/
def ResultsRequest.document (r : ResultsRequest) (tool : Build.Tool) (results : List IterationResult) : Value :=
  SpecAtlas.document
    [("class", r.className.value), ("test", r.feature.value), ("buildTool", .text tool.name),
      ("results", .list (results.map IterationResult.document)), ("failed", .nat (failed results).length)]

/-- The console output that the user names; none if no file is named. -/
def ResultsRequest.consoleText (r : ResultsRequest) (s : Session) : Except Unread Text :=
  if r.console.isEmpty then .ok []
  else if r.console = ['-'] then .ok s.input
  else s.root.readLossy s.cwd (.ofText r.console)

/-- The outcome if the console output cannot be read. -/
def ResultsRequest.unreadable (r : ResultsRequest) (obstacle : Obstacle) : Outcome :=
  ⟨1, [], linesOf [errorLine ("Cannot read console output ".toList ++ r.console ++ ": ".toList
    ++ obstacle.message (.ofText r.console))]⟩

/-- The results of the feature, with the events of reading them. Only the report can be asked for an
empty list, and then none of its results is meant. -/
def ResultsRequest.found (r : ResultsRequest) (query : Query) (root : Node) (console : Text) :
    Except Fault Result.Reading :=
  match r.feature with
  | .text feature => do
    let (results, events) ← query.run root console feature
    return (ofFeature feature results, events)
  | .empty => do
    let report ← query.report root
    if report.1.isEmpty then .error (.misfit .listNoSearch)
    else return ([], report.2 ++ [.resultsFrom .report report.1.length])

/-- Shows the results of a feature. -/
def ResultsRequest.run (r : ResultsRequest) (common : Common) (s : Session) : Except Fault Outcome := do
  let workspace ← s.workspace r.workspace
  let settings ← s.settings common workspace r.tool
  let tool ← Config.buildTool s.root workspace settings
  match r.consoleText s with
  | .error (.obstacle o) => return r.unreadable o
  | .error .nullCharacter => .error .nullCharacter
  | .ok console =>
    let directory ← (Config.reportDirectory settings).mapError .misfit
    let (results, events) ← r.found ⟨workspace, tool, directory, r.className.shown⟩ s.root console
    let out :=
      if r.json then [Json.write (r.document tool results)]
      else if common.quiet then []
      else r.lines results
    return ⟨if (failed results).isEmpty then 0 else 1, linesOf out, common.log "results" events⟩

end SpecAtlas.CommandLine
