import SpecAtlas.Proofs.Source.Comment
import SpecAtlas.Proofs.Source.Layout
import SpecAtlas.Proofs.Source.WhereBlock

/-!
# Comments behind the lines of a where-block

Of a line in a where-block only its content is looked at, and its comment is no part of that. So a comment may be
written behind any line at whose end no quote is open, whatever the comment holds: the line keeps its content
(`content_comment`), and the block is read as before, with the same events (`contributions_comment`).

It makes no difference which lines begin a statement, go on with one or say nothing, since the lines with the comment
are a relabelling of those without it. Only the end column of the line moves.
-/

namespace SpecAtlas.Source

open Text

/-- A line with a comment behind it. -/
def withComment (comment line : Text) : Text := line ++ " // ".toList ++ comment

/-- A line at whose end no quote is open says the same with a comment behind it. -/
theorem content_comment {l : NumberedLine} (hclosed : openQuote none (trim l.text) = none) (comment : Text) :
    content ⟨l.number, withComment comment l.text⟩ = content l := by
  have hlast : (l.text ++ [' ']).getLast? ≠ some '/' := by simp
  have htrim : trim (l.text ++ [' ']) = trim l.text := trim_append_right l.text (by decide)
  have hstrip := stripComment_trim_comment hlast (htrim ▸ hclosed) (' ' :: comment)
  rw [htrim] at hstrip
  simpa [content, withComment] using hstrip

/-- A comment behind line `i`, if no quote is open at its end. -/
def commenting (i : Nat) (comment : Text) : Relabelling where
  line l := if l.number = i ∧ openQuote none (trim l.text) = none then ⟨l.number, withComment comment l.text⟩ else l
  number := id
  content_line l := by
    split
    · rename_i h
      exact content_comment h.2 comment
    · rfl
  number_line l := by split <;> rfl

/-- The body of a block with a comment on one of its lines. -/
theorem body_comment {lines : List Text} {i : Nat} (hclosed : ∀ line ∈ lines[i]?, openQuote none (trim line) = none)
    (block : BlockSpan) (comment : Text) :
    block.body (lines.modify i (withComment comment)) = (block.body lines).map (commenting i comment).line := by
  refine List.ext_getElem? fun k => ?_
  rw [List.getElem?_map, block.getElem?_body, block.getElem?_body, List.getElem?_modify]
  split
  · cases hline : lines[block.label + 1 + k]? with
    | none => rfl
    | some line =>
        by_cases hi : i = block.label + 1 + k
        · have hhere : openQuote none (trim line) = none := hclosed line (by rw [hi, hline]; rfl)
          simp [commenting, hi, hhere]
        · simp [commenting, hi, Ne.symm hi]
  · rfl

/-- **A comment behind a line of a block is not read.** Take lines, one of them with no quote open where the search for
its comment stops, and any comment. With that comment behind the line, every block brings the iterations and the events
that it brings without, end columns apart, or is refused alike. And stripping comments twice is stripping them once. -/
theorem contributions_comment {lines : List Text} {i : Nat}
    (hclosed : ∀ line ∈ lines[i]?, openQuote none (trim line) = none) (block : BlockSpan) (method comment : Text) :
    let read (lines : List Text) := (contributions lines block).map fun cs =>
      ((number method cs).map Iteration.withoutEnd, dataEvents method (number method cs) cs)
    read (lines.modify i (withComment comment)) = read lines ∧
      ∀ text, stripComment (stripComment text) = stripComment text := by
  refine ⟨?_, stripComment_stripComment⟩
  dsimp only
  rw [(commenting i comment).contributions_of_body (body_comment hclosed block comment)]
  cases contributions lines block with
  | error e => rfl
  | ok cs =>
      simp only [Except.map, number_relabelled (r := commenting i comment) rfl,
        dataEvents_relabelled (r := commenting i comment) rfl]

/-- A pipe over three lines, and a table whose only row ends in an open quote. -/
def quotedRow : List Text :=
  ["where:".toList, "a << [1,".toList, [], "2]".toList, "b | c".toList, "3 | it's".toList, "\x7d".toList]

/-- The name and the end column of each iteration of a block. -/
def namedEnds (lines : List Text) (block : BlockSpan) : Option (List (Text × Nat)) :=
  (contributions lines block).toOption.map fun cs =>
    (number "m".toList cs).map fun i => (i.displayName, i.range.endColumn)

/-- A comment behind the first line of the pipe moves the end columns. Behind the row it would be read, in quotes. -/
theorem contributions_quotedRow :
    let comment := "it's ] | ; // <<".toList
    let read (lines : List Text) := (contributions lines ⟨0, 6⟩).map fun cs =>
      ((number "m".toList cs).map Iteration.withoutEnd, dataEvents "m".toList (number "m".toList cs) cs)
    (∀ line ∈ quotedRow[1]?, openQuote none (trim line) = none) ∧
      read (quotedRow.modify 1 (withComment comment)) = read quotedRow ∧
      namedEnds quotedRow ⟨0, 6⟩ =
        some [("m [a: 1]".toList, 8), ("m [a: 2]".toList, 8), ("m [b: 3, c: it's]".toList, 8)] ∧
      namedEnds (quotedRow.modify 1 (withComment comment)) ⟨0, 6⟩ =
        some [("m [a: 1]".toList, 28), ("m [a: 2]".toList, 28), ("m [b: 3, c: it's]".toList, 8)] ∧
      openQuote none (trim "3 | it's".toList) = some '\'' ∧
      (namedEnds (quotedRow.modify 5 (withComment "x".toList)) ⟨0, 6⟩).map (List.map Prod.fst) =
        some ["m [a: 1]".toList, "m [a: 2]".toList, "m [b: 3, c: it's // x]".toList] := by
  intro comment read
  have hclosed : ∀ line ∈ quotedRow[1]?, openQuote none (trim line) = none := by
    intro line hline
    obtain rfl := Option.some.inj hline
    decide
  exact ⟨hclosed, (contributions_comment hclosed ⟨0, 6⟩ "m".toList comment).1, by decide +kernel, by decide +kernel,
    by decide, by decide +kernel⟩

end SpecAtlas.Source
