import SpecAtlas.Event
import SpecAtlas.Source.Position

/-!
# Specifications

The specification classes of a file, each with its features, and each feature with the iterations
of its where-block.

A file is read in two steps. `findings` lists what every heading of the file turns out to be, in
order; the tree of classes and the log of events are two views of that list. So every class and
every feature has exactly one event, and every candidate is either accepted or turned down.
-/

namespace SpecAtlas.Source

/-- The data of a feature: where its where-block stands, and its iterations. -/
structure FeatureData where
  range : SourceRange
  iterations : List Iteration

/-- A feature of a specification. A feature is data-driven if it has a where-block. -/
structure Feature where
  name : Text
  line : Nat
  range : SourceRange
  data : Option FeatureData

/-- A specification class. -/
structure Specification where
  name : Text
  line : Nat
  range : SourceRange
  isAbstract : Bool
  features : List Feature

/-! ## Findings -/

/-- What a heading turns out to be. -/
inductive Finding where
  | specification (s : Specification)
  | rejected (line : Nat) (reason : Rejection)
  | feature (f : Feature) (contributions : List Contribution)

/-- The range of a where-block; a block that the end of the file closes ends with the last line. -/
def BlockSpan.range (block : BlockSpan) (lines : List Text) : SourceRange :=
  let last := min block.close (lines.length - 1)
  ⟨block.label, 0, last, (lines.getD last []).length⟩

/-- What a candidate with a given heading turns out to be. -/
def judge (withData : Bool) (lines : List Text) (line : Nat) (heading : MethodHeading) :
    Except Refusal Finding :=
  match rejection? heading (lines.drop (line + 1)) with
  | some reason => .ok (.rejected line reason)
  | none =>
    let range := SourceRange.ofLine line (lines.getD line [])
    match if withData then findBlock? lines line else none with
    | none => .ok (.feature ⟨heading.name, line, range, none⟩ [])
    | some block => do
      let contributions ← contributions lines block
      let iterations := number heading.name contributions
      return .feature ⟨heading.name, line, range, some ⟨block.range lines, iterations⟩⟩ contributions

/-- What a heading turns out to be. -/
def Located.finding (withData : Bool) (lines : List Text) (located : Located) : Except Refusal Finding :=
  match located.heading with
  | .specification h =>
    .ok (.specification
      ⟨h.name, located.line, .ofLine located.line (lines.getD located.line []), h.isAbstract, []⟩)
  | .method h => judge withData lines located.line h

/-- The lines of a file; carriage returns at the end of a line do not belong to it. -/
def fileLines (content : Text) : List Text := (Text.lines content).map Text.dropReturns

/-- What the headings of a file turn out to be. -/
def findings (withData : Bool) (content : Text) : Except Refusal (List Finding) :=
  let lines := fileLines content
  (headings lines).mapM (·.finding withData lines)

/-! ## The two views of the findings -/

/-- The features in front of the next specification, and the specifications from there on, each with
its features. -/
def assemble : List Finding → List Feature × List Specification
  | [] => ([], [])
  | .rejected .. :: rest => assemble rest
  | .feature f _ :: rest =>
    let (features, specifications) := assemble rest
    (f :: features, specifications)
  | .specification s :: rest =>
    let (features, specifications) := assemble rest
    ([], { s with features } :: specifications)

/-- The event of a contribution, if it has one. -/
def Contribution.event? : Contribution → Option Event
  | header line columns => some (.tableHeader line columns)
  | unreadable line expression => some (.pipeUnreadable line expression)
  | data .. => none

/-- The events of the data of a feature. -/
def dataEvents (method : Text) (iterations : List Iteration) (contributions : List Contribution) : List Event :=
  contributions.filterMap Contribution.event? ++ [.iterationsRead method iterations.length]

/-- The events of a finding. -/
def Finding.events : Finding → List Event
  | specification s => [.classFound s.name s.line]
  | rejected line reason => [.methodRejected line reason]
  | feature f contributions =>
    .methodAccepted f.name f.line ::
      match f.data with
      | none => []
      | some data => dataEvents f.name data.iterations contributions

/-- The specifications of a file and the events of reading it. -/
def readSpecifications (withData : Bool) (content : Text) :
    Except Refusal (List Specification × List Event) := do
  let findings ← findings withData content
  return ((assemble findings).2, findings.flatMap Finding.events)

/-! ## Views of specifications -/

/-- The specifications that can be run: abstract ones cannot. -/
def runnable (specifications : List Specification) : List Specification :=
  specifications.filter (!·.isAbstract)

/-- The number of features that can be run. -/
def featureCount (specifications : List Specification) : Nat :=
  ((runnable specifications).flatMap Specification.features).length

end SpecAtlas.Source
