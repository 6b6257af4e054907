import SpecAtlas.Source.Statement
import SpecAtlas.Source.WhereBlock
import SpecAtlas.Value.Print

/-!
# Iterations

A data-driven feature runs once for every row of its data table and for every element of its
pipes. The iterations are numbered in the order of the file, over all notations of the block.

The first row is the header and names the variables; a column named `_` carries no data. A row with
more cells than the header loses the surplus, a row with fewer sets only the first variables, and a
row that sets none is no iteration. An element of a pipe always is one.
-/

namespace SpecAtlas.Source

/-- A part of a source file, by lines and columns; the end column is the first one behind it. -/
structure SourceRange where
  startLine : Nat
  startColumn : Nat
  endLine : Nat
  endColumn : Nat
  deriving DecidableEq, Repr

/-- The range of a whole line. -/
def SourceRange.ofLine (number : Nat) (line : Text) : SourceRange := ⟨number, 0, number, line.length⟩

/-- One iteration of a data-driven feature. -/
structure Iteration where
  index : Nat
  values : Mapping Value
  displayName : Text
  range : SourceRange
  method : Text

/-- The column that carries no data. -/
def placeholderColumn : Text := ['_']

/-- The data of several variables; a name that occurs twice takes the last value. -/
def assign (entries : List (Text × Value)) : Mapping Value :=
  Mapping.ofList (entries.filter (·.1 ≠ placeholderColumn))

/-- The data that one element of a pipe gives its variables. -/
def Targets.bind (targets : Targets) (element : Value) : Mapping Value :=
  match targets, element with
  | .one name, element => [(name, element)]
  | .several names, .list items => assign (names.zip items)
  | .several names, element => assign (names.zip [element])

/-- The data of a row under a header. -/
def rowValues (header cells : List Text) : Except LongNumeral (Mapping Value) := do
  let named := (header.zip cells).filter (·.1 ≠ placeholderColumn)
  return Mapping.ofList (← named.mapM fun (name, cell) => do return (name, ← coerce cell))

/-- What a statement brings to the feature. -/
inductive Contribution where
  | header (line : Nat) (columns : List Text)
  | unreadable (line : Nat) (expression : Text)
  | data (line : NumberedLine) (values : List (Mapping Value))

/-- What the statements of a block bring, under the header that has been read. -/
def contributionsFrom (header : Option (List Text)) : List Statement → Except Refusal (List Contribution)
  | [] => .ok []
  | .pipe line targets expression :: rest =>
    match elements? expression with
    | none => do return .unreadable line.number expression :: (← contributionsFrom header rest)
    | some elements => do
      let data := (← elements).map targets.bind
      return .data line data :: (← contributionsFrom header rest)
  | .row line cells :: rest =>
    match header with
    | none => do return .header line.number cells :: (← contributionsFrom (some cells) rest)
    | some columns => do
      let values ← (rowValues columns cells).mapError .longNumeral
      let data := if values.isEmpty then [] else [values]
      return .data line data :: (← contributionsFrom header rest)

/-- The data sets of a contribution, with the lines that they come from. -/
def Contribution.data? : Contribution → List (NumberedLine × Mapping Value)
  | data line values => values.map (line, ·)
  | _ => []

/-- The iterations that contributions make up, numbered from zero. -/
def number (method : Text) (contributions : List Contribution) : List Iteration :=
  (contributions.flatMap Contribution.data?).mapIdx fun index (line, values) =>
    ⟨index, values, displayName method values, .ofLine line.number line.text, method⟩

/-- The body of a where-block: its lines between the label and the closing line. -/
def BlockSpan.body (block : BlockSpan) (lines : List Text) : List NumberedLine :=
  let first := block.label + 1
  (((lines.drop first).take (block.close - first)).zipIdx first).map fun (text, number) => ⟨number, text⟩

/-- What the statements of a where-block bring. -/
def contributions (lines : List Text) (block : BlockSpan) : Except Refusal (List Contribution) :=
  contributionsFrom none (statements (block.body lines))

end SpecAtlas.Source
