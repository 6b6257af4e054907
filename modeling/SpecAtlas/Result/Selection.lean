import SpecAtlas.Build.Tool
import SpecAtlas.File.Tree
import SpecAtlas.Fault
import SpecAtlas.Result.Console
import SpecAtlas.Result.Report

/-!
# Where the results of a feature come from

The report of a test class carries durations and failure texts, so it is preferred: as soon as it
has a result, all its results are taken and the console is not read. A report that is missing or
cannot be read has no results, which is no fault; a path about which nothing can be asked is one.

The report is that of the whole class. `ofFeature` keeps what belongs to one feature.
-/

namespace SpecAtlas.Result

open File Text

/-- Results with the events of reading them. -/
abbrev Reading := List IterationResult × List Event

/-- Reads a report at an absolute path. -/
def readReportFile (root : Node) (path : FilePath) : Except Fault Reading := do
  if ← (root.ask Node.isFile path).mapError .blocked then
    match root.read path with
    | .error o => return ([], [.reportUnreadable path.text (o.message path)])
    | .ok bytes =>
      match Utf8.decode bytes with
      | .error e => return ([], [.reportUnreadable path.text e.message])
      | .ok content =>
        let (results, events) ← (readReport (unifyLines content) path.text).mapError .longNumeral
        return (results, events ++ [.reportRead path.text results.length])
  else return ([], [.reportMissing path.text])

/-- Takes the results of a report, or those of the console if the report has none. -/
def preferReport (report : Reading) (console : Except LongNumeral Reading) : Except LongNumeral Reading :=
  if report.1.isEmpty then do
    let console ← console
    return (console.1, report.2 ++ console.2 ++ [.resultsFrom .console console.1.length])
  else .ok (report.1, report.2 ++ [.resultsFrom .report report.1.length])

/-- What is asked for: the results of a class. -/
structure Query where
  workspace : FilePath
  tool : Build.Tool
  /-- The directory of reports, or nothing for the build tool's own. -/
  reportDirectory : Text
  className : Text

/-- Where the report of the class is looked for. -/
def Query.reportPath (q : Query) : FilePath := Build.reportPath q.workspace q.tool q.reportDirectory q.className

/-- The report of the class. -/
def Query.report (q : Query) (root : Node) : Except Fault Reading := readReportFile root q.reportPath

/-- The results that answer a query, from the report of the class or, for one of its features, from
console output. -/
def Query.run (q : Query) (root : Node) (console feature : Text) : Except Fault Reading := do
  (preferReport (← q.report root) (readConsole console feature)).mapError .longNumeral

/-- The results of a feature among those of its class. -/
def ofFeature (feature : Text) (results : List IterationResult) : List IterationResult :=
  results.filter fun r => featureOf? r.displayName = some feature

end SpecAtlas.Result
