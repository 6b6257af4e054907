import SpecAtlas.Source.Iteration
import SpecAtlas.Proofs.Except

/-!
# Lines by another label

A where-block is read line by line, and of a line only its `content` is looked at. The line itself is handed
on: to the statement that it begins, and from there to what the statement brings. So if every line of a block is
put in the place of another one with the same content, nothing changes but these labels
(`statementsFrom_line`, `contributionsFrom_statement`; for the whole block `contributions_of_body`).
-/

namespace SpecAtlas.Source

open Text

/-- A change of lines that keeps their contents, with what it does to their numbers. -/
structure Relabelling where
  line : NumberedLine → NumberedLine
  number : Nat → Nat
  content_line (l : NumberedLine) : content (line l) = content l
  number_line (l : NumberedLine) : (line l).number = number l.number

namespace Relabelling

variable (r : Relabelling)

/-! ## What has labels -/

/-- A pipe that begins with the other line. -/
def openPipe (p : OpenPipe) : OpenPipe := { p with line := r.line p.line }

/-- What the other line says. -/
def reading : Reading → Reading
  | .nothing => .nothing
  | .pipe p => .pipe (r.openPipe p)
  | .row cells => .row cells

/-- A statement that begins with the other line. -/
def statement : Statement → Statement
  | .pipe line targets expression => .pipe (r.line line) targets expression
  | .row line cells => .row (r.line line) cells

/-- What a statement brings that begins with the other line. -/
def contribution : Contribution → Contribution
  | .header line columns => .header (r.number line) columns
  | .unreadable line expression => .unreadable (r.number line) expression
  | .data line values => .data (r.line line) values

/-! ## Reading -/

theorem readLine_line (l : NumberedLine) : readLine (r.line l) = r.reading (readLine l) := by
  simp only [readLine, r.content_line]
  split
  · rfl
  · split
    · rfl
    · split <;> rfl

theorem openPipe_add (p : OpenPipe) (l : NumberedLine) : (r.openPipe p).add (r.line l) = r.openPipe (p.add l) := by
  simp only [OpenPipe.add, openPipe, r.content_line]

/-- The statements of relabelled lines are the relabelled statements, also behind a pipe that is still open. -/
theorem statementsFrom_line (p : Option OpenPipe) (body : List NumberedLine) :
    statementsFrom (p.map r.openPipe) (body.map r.line) = (statementsFrom p body).map r.statement := by
  induction body generalizing p with
  | nil => cases p <;> rfl
  | cons l rest ih =>
      have hends := ih none
      rw [Option.map_none] at hends
      -- A pipe that a line begins or goes on with decides alone whether it stays open.
      have hgoes (q : OpenPipe) :
          (if (r.openPipe q).isOpen then statementsFrom (some (r.openPipe q)) (rest.map r.line)
            else (r.openPipe q).statement :: statementsFrom none (rest.map r.line)) =
          (if q.isOpen then statementsFrom (some q) rest else q.statement :: statementsFrom none rest).map
            r.statement := by
        have hopen : (r.openPipe q).isOpen = q.isOpen := rfl
        have hq := ih (some q)
        rw [Option.map_some] at hq
        rw [hopen, hq, hends]
        split <;> rfl
      cases p with
      | some p =>
          simp only [Option.map_some, List.map_cons, statementsFrom, openPipe_add]
          exact hgoes (p.add l)
      | none =>
          simp only [Option.map_none, List.map_cons, statementsFrom, readLine_line]
          cases readLine l with
          | nothing => exact hends
          | row cells => simp only [reading, hends, List.map_cons, statement]
          | pipe p => exact hgoes p

theorem statements_line (body : List NumberedLine) :
    statements (body.map r.line) = (statements body).map r.statement :=
  r.statementsFrom_line none body

/-- Relabelled statements bring what the statements bring, relabelled. -/
theorem contributionsFrom_statement (header : Option (List Text)) (ss : List Statement) :
    contributionsFrom header (ss.map r.statement) = (contributionsFrom header ss).map (List.map r.contribution) := by
  induction ss generalizing header with
  | nil => rfl
  | cons s rest ih =>
      cases s with
      | pipe line targets expression =>
          simp only [List.map_cons, statement, contributionsFrom, r.number_line, ih]
          cases elements? expression with
          | none => cases contributionsFrom header rest <;> rfl
          | some elements =>
              cases elements with
              | error e => rfl
              | ok items => cases contributionsFrom header rest <;> rfl
      | row line cells =>
          cases header with
          | none =>
              simp only [List.map_cons, statement, contributionsFrom, r.number_line, ih]
              cases contributionsFrom (some cells) rest <;> rfl
          | some columns =>
              simp only [List.map_cons, statement, contributionsFrom, ih]
              cases rowValues columns cells with
              | error e => rfl
              | ok values => cases contributionsFrom (some columns) rest <;> rfl

/-- **A block of relabelled lines brings what the block brings**, relabelled. -/
theorem contributions_of_body {lines other : List Text} {block moved : BlockSpan}
    (h : moved.body other = (block.body lines).map r.line) :
    contributions other moved = (contributions lines block).map (List.map r.contribution) := by
  rw [contributions, h, r.statements_line, r.contributionsFrom_statement, contributions, statements]

theorem data?_contribution (c : Contribution) :
    (r.contribution c).data? = c.data?.map fun x => (r.line x.1, x.2) := by
  cases c with
  | header | unreadable => rfl
  | data line values => simp [contribution, Contribution.data?]

theorem flatMap_data?_contribution (cs : List Contribution) :
    (cs.map r.contribution).flatMap Contribution.data? =
      (cs.flatMap Contribution.data?).map fun x => (r.line x.1, x.2) := by
  rw [List.flatMap_map, List.map_flatMap]
  exact List.flatMap_congr fun c _ => r.data?_contribution c

end Relabelling

end SpecAtlas.Source
