import SpecAtlas.Value
import SpecAtlas.Source.Acceptance
import SpecAtlas.Source.Iteration

/-!
# Events

The readers of this library report what they found and what they passed over as events. An event
is data; whoever calls a reader decides whether to log it. `Event.record` gives the general form of
an event, a dotted name with named details.
-/

namespace SpecAtlas

open Source

/-- The outcome of an iteration as the build tool prints it. -/
inductive Status where
  | passed
  | failed
  | skipped
  deriving DecidableEq, Repr

/-- An outcome as it is printed. -/
def Status.text : Status → Text
  | passed => "PASSED".toList
  | failed => "FAILED".toList
  | skipped => "SKIPPED".toList

/-- Where results come from. -/
inductive ResultSource where
  | report
  | console
  deriving DecidableEq, Repr

/-- The name of a source of results. -/
def ResultSource.text : ResultSource → Text
  | report => "xml".toList
  | console => "console".toList

/-- What a reader reports. -/
inductive Event where
  | classFound (name : Text) (line : Nat)
  | methodRejected (line : Nat) (reason : Rejection)
  | methodAccepted (name : Text) (line : Nat)
  | tableHeader (line : Nat) (columns : List Text)
  | pipeUnreadable (line : Nat) (expression : Text)
  | iterationsRead (method : Text) (count : Nat)
  | fileScanned (path : Text) (classes : Nat)
  | fileUnreadable (path reason : Text)
  | iterationFound (source : ResultSource) (index : Nat) (status : Status)
  | consoleRead (method : Text) (count : Nat)
  | testcaseMalformed (name report : Text)
  | reportMissing (path : Text)
  | reportUnreadable (path reason : Text)
  | reportRead (path : Text) (count : Nat)
  | resultsFrom (source : ResultSource) (count : Nat)

/-- An event in general form: a dotted name and named details, in order. -/
structure EventRecord where
  name : Text
  details : List (Text × Value)

namespace Event

/-- A detail that is a text. -/
def text (key : String) (t : Text) : Text × Value := (key.toList, .text t)

/-- A detail that is a number. -/
def nat (key : String) (n : Nat) : Text × Value := (key.toList, .int n)

/-- The general form of an event. -/
def record : Event → EventRecord
  | classFound name line => ⟨"class.found".toList, [text "name" name, nat "line" line]⟩
  | methodRejected line reason => ⟨"method.rejected".toList, [nat "line" line, text "reason" reason.name]⟩
  | methodAccepted name line => ⟨"method.accepted".toList, [text "name" name, nat "line" line]⟩
  | tableHeader line columns =>
    ⟨"table.header".toList, [nat "line" line, ("columns".toList, .list (columns.map .text))]⟩
  | pipeUnreadable line expression =>
    ⟨"pipe.unreadable".toList, [nat "line" line, text "expression" expression]⟩
  | iterationsRead method count =>
    ⟨"iterations.parsed".toList, [text "method" method, nat "count" count]⟩
  | fileScanned path classes => ⟨"file.scanned".toList, [text "path" path, nat "classes" classes]⟩
  | fileUnreadable path reason =>
    ⟨"file.unreadable".toList, [text "path" path, text "error" reason]⟩
  | iterationFound source index status =>
    ⟨"iteration.found".toList,
      [text "source" source.text, nat "index" index, text "status" status.text]⟩
  | consoleRead method count => ⟨"console.parsed".toList, [text "method" method, nat "count" count]⟩
  | testcaseMalformed name report =>
    ⟨"testcase.malformed".toList, [text "name" name, text "report" report]⟩
  | reportMissing path => ⟨"report.missing".toList, [text "path" path]⟩
  | reportUnreadable path reason =>
    ⟨"report.unreadable".toList, [text "path" path, text "error" reason]⟩
  | reportRead path count => ⟨"report.parsed".toList, [text "path" path, nat "count" count]⟩
  | resultsFrom source count => ⟨"results.source".toList, [text "source" source.text, nat "count" count]⟩

end Event

end SpecAtlas
