import SpecAtlas.Proofs.Source.TextPipe
import SpecAtlas.Proofs.Source.Translation

/-!
# One statement in the place of another

A where-block is read from its first line to its last, and between two lines only two things are remembered: a pipe
that is still open, and the header of the table.

1. Behind lines that leave no pipe open, a block goes on as if it began there (`statementsFrom_append`).
2. Behind statements only their header counts (`contributionsFrom_append`).
3. So a statement may take up more lines than before: what stands above it stays, and what stands below it moves
   down (`Rewrapping`, `contributionsFrom_rewrap`).
-/

namespace SpecAtlas.Source

open Text

/-! ## Lines in two parts -/

theorem numberedFrom_append (number : Nat) (front back : List Text) :
    numberedFrom number (front ++ back) = numberedFrom number front ++ numberedFrom (number + front.length) back := by
  rw [numberedFrom, numberedFrom, numberedFrom, List.zipIdx_append, List.map_append, Nat.add_comm]

theorem numberedFrom_add (number n : Nat) (lines : List Text) :
    numberedFrom (number + n) lines = (numberedFrom number lines).map (shifting n).line := by
  induction lines generalizing number with
  | nil => rfl
  | cons line rest ih =>
      have hnext : number + n + 1 = number + 1 + n := by omega
      rw [numberedFrom_cons, numberedFrom_cons, hnext, ih]
      rfl

theorem lt_of_mem_numberedFrom {number : Nat} {lines : List Text} {line : NumberedLine}
    (h : line ∈ numberedFrom number lines) : line.number < number + lines.length := by
  obtain ⟨⟨text, k⟩, hmem, rfl⟩ := List.mem_map.1 h
  exact Nat.add_comm .. ▸ List.snd_lt_of_mem_zipIdx hmem

/-- The pipe that is open behind lines. -/
def pipeBehind : Option OpenPipe → List NumberedLine → Option OpenPipe
  | p, [] => p
  | some p, line :: rest => pipeBehind (if (p.add line).isOpen then some (p.add line) else none) rest
  | none, line :: rest =>
    match readLine line with
    | .pipe p => pipeBehind (if p.isOpen then some p else none) rest
    | _ => pipeBehind none rest

/-- **Where no pipe is open, a block goes on as if it began there.** -/
theorem statementsFrom_append {p : Option OpenPipe} {front : List NumberedLine} (h : pipeBehind p front = none)
    (back : List NumberedLine) : statementsFrom p (front ++ back) = statementsFrom p front ++ statements back := by
  induction front generalizing p with
  | nil =>
      obtain rfl : p = none := h
      rfl
  | cons line rest ih =>
      -- A pipe that the line begins or goes on with is either closed here or handed on.
      have hgoes {q : OpenPipe} (hq : pipeBehind (if q.isOpen then some q else none) rest = none) :
          (if q.isOpen then statementsFrom (some q) (rest ++ back) else q.statement :: statementsFrom none (rest ++ back)) =
            (if q.isOpen then statementsFrom (some q) rest else q.statement :: statementsFrom none rest) ++
              statements back := by
        cases hopen : q.isOpen with
        | true => simpa [hopen] using ih (by simpa [hopen] using hq)
        | false => simpa [hopen] using ih (by simpa [hopen] using hq)
      cases p with
      | some p =>
          rw [pipeBehind] at h
          simp only [List.cons_append, statementsFrom]
          exact hgoes h
      | none =>
          rw [pipeBehind] at h
          simp only [List.cons_append, statementsFrom]
          cases hread : readLine line with
          | nothing => exact ih (by simpa [hread] using h)
          | row cells => simpa using ih (by simpa [hread] using h)
          | pipe q => exact hgoes (by simpa [hread] using h)

/-- The cells of a row. -/
def Statement.cells? : Statement → Option (List Text)
  | row _ cells => some cells
  | pipe _ _ _ => none

/-- The header behind statements: the one in front of them, or else their first row. -/
def headerBehind (header : Option (List Text)) (ss : List Statement) : Option (List Text) :=
  header.or (ss.findSome? Statement.cells?)

/-- **Behind statements only their header counts.** -/
theorem contributionsFrom_append (header : Option (List Text)) (front back : List Statement) :
    contributionsFrom header (front ++ back) =
      (do return (← contributionsFrom header front) ++ (← contributionsFrom (headerBehind header front) back)) := by
  induction front generalizing header with
  | nil =>
      have hheader : headerBehind header [] = header := by cases header <;> rfl
      rw [hheader, List.nil_append, contributionsFrom]
      cases contributionsFrom header back <;> rfl
  | cons s rest ih =>
      cases s with
      | pipe line targets expression =>
          have hheader : headerBehind header (.pipe line targets expression :: rest) = headerBehind header rest := rfl
          rw [List.cons_append, contributionsFrom, contributionsFrom, ih, hheader]
          cases elements? expression <;> simp only [bind_assoc, pure_bind, List.cons_append]
      | row line cells =>
          cases header with
          | none =>
              have hheader : headerBehind none (.row line cells :: rest) = headerBehind (some cells) rest := rfl
              rw [List.cons_append, contributionsFrom, contributionsFrom, ih, hheader]
              simp only [bind_assoc, pure_bind, List.cons_append]
          | some columns =>
              have hheader : headerBehind (some columns) (.row line cells :: rest) =
                  headerBehind (some columns) rest := rfl
              rw [List.cons_append, contributionsFrom, contributionsFrom, ih, hheader]
              simp only [bind_assoc, pure_bind, List.cons_append]

/-! ## More lines for a statement -/

/-- A line is given another text, and what stands below it moves down. -/
structure Rewrapping where
  place : Nat
  text : Text
  more : Nat

namespace Rewrapping

variable (w : Rewrapping)

/-- Where a line number ends up. -/
def number (n : Nat) : Nat := if n ≤ w.place then n else n + w.more

/-- Where a line ends up. -/
def line (l : NumberedLine) : NumberedLine :=
  if l.number < w.place then l else if l.number = w.place then ⟨w.place, w.text⟩ else l.shift w.more

/-- What a statement brings, if its line has moved. -/
def contribution : Contribution → Contribution
  | .header line columns => .header (w.number line) columns
  | .unreadable line expression => .unreadable (w.number line) expression
  | .data line values => .data (w.line line) values

/-- The range of a line that has moved. -/
def range (r : SourceRange) : SourceRange :=
  if r.startLine < w.place then r
  else if r.startLine = w.place then .ofLine w.place w.text else r.shift w.more

/-- An iteration whose line has moved. -/
def iteration (i : Iteration) : Iteration := { i with range := w.range i.range }

variable {w} {c : Contribution}

theorem contribution_above (h : c.number < w.place) : w.contribution c = c := by
  cases c with
  | header line columns => exact congrArg (Contribution.header · columns) (if_pos (Nat.le_of_lt h))
  | unreadable line expression => exact congrArg (Contribution.unreadable · expression) (if_pos (Nat.le_of_lt h))
  | data line values => exact congrArg (Contribution.data · values) (if_pos h)

theorem contribution_below (h : w.place < c.number) : w.contribution c = c.shift w.more := by
  cases c with
  | header line columns => exact congrArg (Contribution.header · columns) (if_neg (Nat.not_le_of_lt h))
  | unreadable line expression => exact congrArg (Contribution.unreadable · expression) (if_neg (Nat.not_le_of_lt h))
  | data line values =>
      have hline : w.line line = line.shift w.more :=
        (if_neg (Nat.lt_asymm h)).trans (if_neg (Nat.ne_of_gt h))
      exact congrArg (Contribution.data · values) hline

/-- Contributions come from the lines of their statements. -/
theorem exists_line_of_mem {header : Option (List Text)} {ss : List Statement} {cs : List Contribution}
    (h : contributionsFrom header ss = .ok cs) (hc : c ∈ cs) : ∃ s ∈ ss, c.number = s.line.number := by
  obtain ⟨s, hs, hfrom⟩ := exists_of_mem_right (forall₂_contributionsFrom h) hc
  exact ⟨s, hs, hfrom.number⟩

/-- The data of statements that have moved make up the iterations that have moved. -/
theorem number_contribution (w : Rewrapping) (method : Text) (cs : List Contribution) :
    Source.number method (cs.map w.contribution) = (Source.number method cs).map w.iteration := by
  have hdata : (cs.map w.contribution).flatMap Contribution.data? =
      (cs.flatMap Contribution.data?).map fun x => (w.line x.1, x.2) := by
    rw [List.flatMap_map, List.map_flatMap]
    refine List.flatMap_congr fun c _ => ?_
    cases c with
    | header | unreadable => rfl
    | data line values => simp [contribution, Contribution.data?]
  have hrange (l : NumberedLine) :
      SourceRange.ofLine (w.line l).number (w.line l).text = w.range (.ofLine l.number l.text) := by
    unfold line range SourceRange.ofLine
    split_ifs <;> rfl
  rw [Source.number, Source.number, hdata]
  refine List.ext_getElem? fun k => ?_
  simp only [List.getElem?_map, List.getElem?_mapIdx, Option.map_map]
  congr 1
  funext x
  simp only [Function.comp_apply, iteration, hrange]

/-- **A statement may take up more lines**: if it still feeds the same elements to the same variables, it brings what it
brought, what stands above it is left alone, and what stands below it moves down. -/
theorem contributionsFrom_rewrap (w : Rewrapping) {above below : List Statement}
    (habove : ∀ s ∈ above, s.line.number < w.place) (hbelow : ∀ s ∈ below, w.place < s.line.number)
    {one two : Text} {elements : Except Refusal (List Value)} (hone : elements? one = some elements)
    (htwo : elements? two = some elements) (header : Option (List Text)) (text : Text) (targets : Targets) :
    contributionsFrom header
        (above ++ .pipe ⟨w.place, w.text⟩ targets two :: below.map (shifting w.more).statement) =
      (contributionsFrom header (above ++ .pipe ⟨w.place, text⟩ targets one :: below)).map (List.map w.contribution) := by
  rw [contributionsFrom_append, contributionsFrom_append, contributionsFrom, contributionsFrom, hone, htwo]
  dsimp only
  rw [Relabelling.contributionsFrom_statement, contribution_shifting]
  cases hx : contributionsFrom header above with
  | error e => rfl
  | ok front =>
      cases elements with
      | error e => rfl
      | ok values =>
          cases hy : contributionsFrom (headerBehind header above) below with
          | error e => rfl
          | ok back =>
              have hfront : front.map w.contribution = front := by
                refine List.map_congr_left (fun c hc => ?_) |>.trans (List.map_id front)
                obtain ⟨s, hs, hnumber⟩ := exists_line_of_mem hx hc
                exact contribution_above (hnumber ▸ habove s hs)
              have hback : back.map w.contribution = back.map (Contribution.shift w.more) := by
                refine List.map_congr_left fun c hc => ?_
                obtain ⟨s, hs, hnumber⟩ := exists_line_of_mem hy hc
                exact contribution_below (hnumber ▸ hbelow s hs)
              have hown (sets : List (Mapping Value)) :
                  w.contribution (.data ⟨w.place, text⟩ sets) = .data ⟨w.place, w.text⟩ sets := by
                simp [contribution, line]
              show Except.ok (front ++ .data ⟨w.place, w.text⟩ (values.map targets.bind) ::
                  back.map (Contribution.shift w.more)) =
                .ok ((front ++ .data ⟨w.place, text⟩ (values.map targets.bind) :: back).map w.contribution)
              rw [List.map_append, List.map_cons, hfront, hown, hback]

end Rewrapping

end SpecAtlas.Source
