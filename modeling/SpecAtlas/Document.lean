import SpecAtlas.Source.Specification
import SpecAtlas.Result.IterationResult
import SpecAtlas.Result.Failure

/-!
# Documents

What the library finds, as values with named entries, ready to be written as JSON. Lines and columns
count from zero in them, as everywhere in the library.

A feature without a where-block has no entries about data, a failure that names no place has no
entry for it; all other entries are always present.
-/

namespace SpecAtlas

/-- A document: its entries in order. -/
def document (entries : List (String × Value)) : Value :=
  .map (entries.map fun (key, value) => (key.toList, value))

/-- A count, a line or a column in a document. -/
def Value.nat (n : Nat) : Value := .int n

namespace Source

/-- A range as a document. -/
def SourceRange.document (r : SourceRange) : Value :=
  SpecAtlas.document
    [("startLine", .nat r.startLine), ("startColumn", .nat r.startColumn),
      ("endLine", .nat r.endLine), ("endColumn", .nat r.endColumn)]

/-- An iteration as a document. -/
def Iteration.document (i : Iteration) : Value :=
  SpecAtlas.document
    [("index", .nat i.index), ("dataValues", .map i.values), ("displayName", .text i.displayName),
      ("sourceRange", i.range.document), ("originalMethodName", .text i.method)]

/-- The entries of a document that tell the data of a feature. -/
def FeatureData.entries (d : FeatureData) : List (String × Value) :=
  [("dataIterations", .list (d.iterations.map Iteration.document)),
    ("whereBlockRange", d.range.document)]

/-- A feature as a document. -/
def Feature.document (f : Feature) : Value :=
  SpecAtlas.document
    ([("name", .text f.name), ("declarationLine", .nat f.line), ("sourceRange", f.range.document),
      ("isDataDriven", .bool f.data.isSome)] ++ (f.data.map FeatureData.entries).getD [])

/-- A specification as a document. -/
def Specification.document (s : Specification) : Value :=
  SpecAtlas.document
    [("name", .text s.name), ("declarationLine", .nat s.line), ("sourceRange", s.range.document),
      ("isAbstract", .bool s.isAbstract), ("methods", .list (s.features.map Feature.document))]

end Source

namespace Result

/-- A place as a document. -/
def FailurePlace.document (p : FailurePlace) : Value :=
  SpecAtlas.document [("file", .text p.file), ("line", .int p.line)]

/-- The summary of a failure as a document. -/
def FailureSummary.document (s : FailureSummary) : Value :=
  SpecAtlas.document
    (("error", .text s.message) :: (s.place.map fun p => [("location", p.document)]).getD [])

/-- The result of an iteration as a document. -/
def IterationResult.document (r : IterationResult) : Value :=
  SpecAtlas.document
    [("index", .nat r.index), ("displayName", .text r.displayName),
      ("parameters", .map r.parameters), ("success", .bool r.success),
      ("duration", .float r.duration), ("output", .text r.output),
      ("errorInfo", (r.error.map fun e => (FailureSummary.mk e none).document).getD .null)]

end Result

end SpecAtlas
