import SpecAtlas.Source.Row
import SpecAtlas.Source.Element

/-!
# Statements of a where-block

The body of a where-block is a sequence of statements, most of them one line long:

* a *pipe* feeds one variable, `x << [1, 2]`, or several, `[a, b] << [[1, 2], [3, 4]]`;
* a *row* belongs to the block's data table.

A pipe whose list literal is still open at the end of its line goes on over the next lines. Blank
lines, comments, assignments and pipes of other shapes say nothing.
-/

namespace SpecAtlas.Source

open Text

/-- A line of a file with its index. -/
structure NumberedLine where
  number : Nat
  text : Text
  deriving DecidableEq, Repr

/-- The variables that a pipe feeds. -/
inductive Targets where
  | one (name : Text)
  | several (names : List Text)
  deriving DecidableEq, Repr

/-- A statement of a where-block. -/
inductive Statement where
  | pipe (line : NumberedLine) (targets : Targets) (expression : Text)
  | row (line : NumberedLine) (cells : List Text)
  deriving DecidableEq, Repr

/-! ## One line -/

/-- The opening square brackets of a text less its closing ones, wherever they stand. -/
def bracketDelta (text : Text) : Int := (text.count '[' : Int) - text.count ']'

/-- The expression behind the arrows of a pipe. It is not empty and stands on one line. -/
def expression? (text : Text) : Option Text := do
  let expression := trimLeft (← after? "<<".toList (trimLeft text))
  if expression.isEmpty || expression.elem '\n' then none else some expression

/-- Reads a pipe of several variables: their names in square brackets, and the expression. -/
def severalPipe? (line : Text) : Option (Targets × Text) :=
  match line with
  | '[' :: rest =>
    match cut? [']'] rest with
    | some ([], _) => none
    | some (names, rest) => (expression? rest).map (.several (filled (pieces ',' names)), ·)
    | none => none
  | _ => none

/-- Reads a pipe of one variable. -/
def onePipe? (line : Text) : Option (Targets × Text) :=
  if (line.take 1).any isIdentStart then
    (expression? (line.dropWhile isWord)).map (.one (line.takeWhile isWord), ·)
  else none

/-- Whether a line assigns to a variable. -/
def isAssignment (line : Text) : Bool :=
  (line.take 1).any isIdentStart &&
    match trimLeft (line.dropWhile isWord) with
    | '=' :: rest => rest.head? != some '='
    | _ => false

/-- A line of a where-block as it is read: without white space around it, and without its trailing
comment. -/
def content (line : NumberedLine) : Text := stripComment (trim line.text)

/-! ## Statements over several lines -/

/-- A pipe whose expression may go on: the parts of the expression so far, last one first, and how
many square brackets are open. -/
structure OpenPipe where
  line : NumberedLine
  targets : Targets
  parts : List Text
  depth : Int
  deriving DecidableEq, Repr

namespace OpenPipe

/-- A pipe with its first line. -/
def start (line : NumberedLine) (targets : Targets) (expression : Text) : OpenPipe :=
  ⟨line, targets, [expression], if expression.head? = some '[' then bracketDelta expression else 0⟩

/-- A pipe with one more line. -/
def add (p : OpenPipe) (line : NumberedLine) : OpenPipe :=
  { p with parts := content line :: p.parts, depth := p.depth + bracketDelta (content line) }

/-- Whether the next line belongs to the pipe too. -/
def isOpen (p : OpenPipe) : Bool := 0 < p.depth

/-- The statement that a pipe is, with a space between the parts of its expression. -/
def statement (p : OpenPipe) : Statement := .pipe p.line p.targets (join [' '] p.parts.reverse)

end OpenPipe

/-- What a line says where no pipe is open. -/
inductive Reading where
  | nothing
  | pipe (p : OpenPipe)
  | row (cells : List Text)

/-- Reads a line where no pipe is open. -/
def readLine (line : NumberedLine) : Reading :=
  let text := content line
  if text.isEmpty || isComment text then .nothing
  else
    match (severalPipe? text).or (onePipe? text) with
    | some (targets, expression) => .pipe (.start line targets expression)
    | none =>
      if hasMark "<<".toList text || isAssignment text then .nothing else .row (cells text)

/-- The statements of lines, behind a pipe that may still be open. -/
def statementsFrom : Option OpenPipe → List NumberedLine → List Statement
  | none, [] => []
  | some p, [] => [p.statement]
  | some p, line :: rest =>
    let p := p.add line
    if p.isOpen then statementsFrom (some p) rest else p.statement :: statementsFrom none rest
  | none, line :: rest =>
    match readLine line with
    | .nothing => statementsFrom none rest
    | .row cells => .row line cells :: statementsFrom none rest
    | .pipe p =>
      if p.isOpen then statementsFrom (some p) rest else p.statement :: statementsFrom none rest

/-- The statements of the body of a where-block. -/
def statements (body : List NumberedLine) : List Statement := statementsFrom none body

end SpecAtlas.Source
