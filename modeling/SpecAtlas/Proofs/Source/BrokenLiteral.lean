import SpecAtlas.Proofs.Source.BlockPart
import SpecAtlas.Proofs.Source.Comment
import SpecAtlas.Proofs.Source.LineEnds

/-!
# List literals over several lines

A pipe such as `name << [1, 2]` may be written over several lines, with blank lines and comments between the
elements of its list literal.

1. A line says what stands in front of its comment (`BrokenLine.content_line`).
2. The literal is open behind every line but the last, since inside of balanced brackets more of them are open than
   closed (`bracketDelta_inside`); so exactly its own lines are read as one pipe (`statementsFrom_upTo`).
3. The lines are joined with spaces, and where a literal may be broken these make no difference to its elements
   (`Layout.elements?_joined`).

So the pipe brings what it brings on one line (`contributions_of_layout`).
-/

namespace SpecAtlas.Source

open Text

/-! ## Lines with comments -/

/-- A line of a literal: a text, and maybe a comment behind it. The comment does not stand directly behind a slash. -/
structure BrokenLine where
  indent : Indent
  text : Text
  gap : Indent
  comment : Option Text
  trimmed : trim text = text
  unquoted : text.any isQuote = false
  unmarked : ¬ "//".toList <:+: text
  apart : comment = none ∨ gap.text ≠ [] ∨ text.getLast? ≠ some '/'

namespace BrokenLine

variable (l : BrokenLine)

/-- What stands behind the text of a line. -/
def ending : Text := l.gap.text ++ l.comment.elim [] ("//".toList ++ ·)

/-- The line as it is written. -/
def line : Text := l.indent.text ++ (l.text ++ l.ending)

/-- No slash stands in front of the comment mark. -/
theorem getLast?_ne (hapart : l.gap.text ≠ [] ∨ l.text.getLast? ≠ some '/') :
    (l.indent.text ++ (l.text ++ l.gap.text)).getLast? ≠ some '/' := by
  have hnot {blank : Text} (h : allBlank blank = true) : blank.getLast? ≠ some '/' :=
    fun hlast => not_mem_of_allBlank h (by decide) (List.mem_of_getLast? hlast)
  intro hlast
  rw [List.getLast?_append, List.getLast?_append, Option.or_eq_some_iff, Option.or_eq_some_iff] at hlast
  rcases hlast with (hgap | ⟨hnone, htext⟩) | ⟨-, hindent⟩
  · exact hnot l.gap.blank hgap
  · exact hapart.elim (fun hne => hne (List.getLast?_eq_none_iff.1 hnone)) fun hne => hne htext
  · exact hnot l.indent.blank hindent

/-- A line says what stands in front of its comment. -/
theorem content_line (number : Nat) : content ⟨number, l.line⟩ = l.text := by
  have hkept : stripComment l.text = l.text := stripComment_of_unmarked l.unmarked
  have htrim : trim (l.indent.text ++ (l.text ++ l.gap.text)) = l.text := by
    rw [trim_append l.indent.blank, trim_append_right _ l.gap.blank, l.trimmed]
  cases hcomment : l.comment with
  | none => rw [content, line, ending, hcomment, Option.elim_none, List.append_nil, htrim, hkept]
  | some comment =>
      have hapart : l.gap.text ≠ [] ∨ l.text.getLast? ≠ some '/' := l.apart.resolve_left (by simp [hcomment])
      have hclosed : openQuote none (trim (l.indent.text ++ (l.text ++ l.gap.text))) = none := by
        rw [htrim, openQuote_of_unquoted l.unquoted]
      have hstrip := stripComment_trim_comment (l.getLast?_ne hapart) hclosed comment
      rw [htrim, hkept] at hstrip
      simpa [content, line, ending, hcomment] using hstrip

end BrokenLine

/-! ## Brackets -/

section

variable {text : Text}

/-- Only square brackets count, the opening ones and those that close them. -/
theorem bracketDelta_fits {opener closer : Char} (h : closerOf? opener = some closer) :
    0 ≤ bracketDelta [opener] ∧ bracketDelta [closer] = -bracketDelta [opener] := by
  unfold closerOf? at h
  split at h <;> cases h <;> decide

theorem bracketDelta_cons (c : Char) (text : Text) : bracketDelta (c :: text) = bracketDelta [c] + bracketDelta text :=
  bracketDelta_append [c] text

/-- As many square brackets are closed as are opened. -/
theorem bracketDelta_balanced (h : Balanced text) : bracketDelta text = 0 := by
  induction h with
  | nil => rfl
  | @char c _ hopener hcloser =>
      have hopen : c ≠ '[' := by
        rintro rfl
        contradiction
      have hclose : c ≠ ']' := by
        rintro rfl
        exact hcloser (by decide)
      simp [bracketDelta, hopen, hclose]
  | append _ _ ihfront ihback => rw [bracketDelta_append, ihfront, ihback, Int.add_zero]
  | brackets fits _ ih =>
      rw [bracketDelta_cons, bracketDelta_append, ih, (bracketDelta_fits fits).2]
      omega

/-- Nowhere have more square brackets been closed than opened. -/
theorem bracketDelta_prefix (h : Balanced text) {front : Text} (hp : front <+: text) : 0 ≤ bracketDelta front := by
  induction h generalizing front with
  | nil =>
      rw [List.prefix_nil.1 hp]
      decide
  | char hquote hopener hcloser =>
      rcases List.prefix_cons_iff.1 hp with rfl | ⟨rest, rfl, hrest⟩
      · decide
      · rw [List.prefix_nil.1 hrest]
        exact Int.le_of_eq (bracketDelta_balanced (.char hquote hopener hcloser)).symm
  | append hfirst _ ihfront ihback =>
      rcases prefix_append_cases hp with hshort | ⟨rest, rfl, hrest⟩
      · exact ihfront hshort
      · rw [bracketDelta_append, bracketDelta_balanced hfirst, Int.zero_add]
        exact ihback hrest
  | brackets fits hinner ih =>
      obtain ⟨hopen, hclose⟩ := bracketDelta_fits fits
      rcases List.prefix_cons_iff.1 hp with rfl | ⟨rest, rfl, hrest⟩
      · decide
      · rw [bracketDelta_cons]
        rcases prefix_append_cases hrest with hshort | ⟨last, rfl, hlast⟩
        · have hin := ih hshort
          omega
        · rw [bracketDelta_append, bracketDelta_balanced hinner]
          rcases List.prefix_cons_iff.1 hlast with rfl | ⟨none, rfl, hnone⟩
          · simpa [bracketDelta] using hopen
          · rw [List.prefix_nil.1 hnone, hclose]
            omega

/-- **Inside of square brackets one more is open than closed**, at the least. -/
theorem bracketDelta_inside (h : Balanced text) {front : Text} (hp : front <+: '[' :: (text ++ [']'])) (hne : front ≠ [])
    (hwhole : front ≠ '[' :: (text ++ [']'])) : 0 < bracketDelta front := by
  rcases List.prefix_cons_iff.1 hp with rfl | ⟨rest, rfl, hrest⟩
  · contradiction
  · have hopen : bracketDelta ['['] = 1 := rfl
    rw [bracketDelta_cons, hopen]
    rcases prefix_append_cases hrest with hshort | ⟨last, rfl, hlast⟩
    · have hin := bracketDelta_prefix h hshort
      omega
    · rcases List.prefix_cons_iff.1 hlast with rfl | ⟨none, rfl, hnone⟩
      · rw [List.append_nil, bracketDelta_balanced h]
        decide
      · rw [List.prefix_nil.1 hnone] at hwhole
        contradiction

end

/-! ## A pipe on one line -/

/-- The elements of the literal. -/
theorem elements?_brackets (inner : Text) :
    elements? ('[' :: (inner ++ [']'])) = some ((readItems inner).mapError .longNumeral) := by
  rw [elements?, trim_enclosed (by decide) (by decide), rangeRead?_bracket, bracketed?_brackets]
  rfl

/-- A pipe that feeds one variable with the elements of a list. -/
structure ListPipe where
  indent : Indent
  name : Text
  elements : List Text
  start : (name.take 1).any isIdentStart = true
  chars : name.all isWord = true
  balanced : ∀ e ∈ elements, Balanced e
  unmarked : ∀ e ∈ elements, ¬ "//".toList <:+: e
  oneLine : ∀ e ∈ elements, '\n' ∉ e

namespace ListPipe

variable (p : ListPipe)

/-- The elements with commas between them. -/
def inner : Text := join ", ".toList p.elements

/-- The list literal of a pipe. -/
def literal : Text := '[' :: (p.inner ++ [']'])

/-- The line of a pipe. -/
def line : Text := p.indent.text ++ (p.name ++ " << ".toList ++ p.literal)

theorem balanced_inner : Balanced p.inner :=
  .joined (.of_plain (by decide)) p.balanced

/-- No comment begins in the elements. -/
theorem isClear_elements {elements : List Text} (h : ∀ e ∈ elements, ¬ "//".toList <:+: e) :
    isClear "//".toList (join ", ".toList elements ++ [']']) = true := by
  induction elements with
  | nil => decide
  | cons e rest ih =>
      have he := h e List.mem_cons_self
      have hrest := ih fun x hx => h x (List.mem_cons_of_mem e hx)
      cases rest with
      | nil => simpa [join] using isClear_concat (by decide) (by decide) he
      | cons next rest =>
          have htext : join ", ".toList (e :: next :: rest) ++ [']'] =
              (e ++ [',']) ++ ([' '] ++ (join ", ".toList (next :: rest) ++ [']'])) := by
            rw [join_cons_of_ne_nil _ _ (List.cons_ne_nil _ _)]
            simp
          rw [htext]
          exact isClear_append (isClear_concat (by decide) (by decide) he) (isClear_append (by decide) hrest)

/-- The line of a pipe has no comment. -/
theorem content_line (number : Nat) : content ⟨number, p.line⟩ = p.name ++ " << ".toList ++ p.literal := by
  obtain ⟨c, rest, hname, -⟩ := exists_eq_cons_of_start p.start
  have hword : isWord c = true := List.all_eq_true.1 p.chars c (hname ▸ List.mem_cons_self)
  have hends : p.name ++ " << ".toList ++ p.literal = c :: (rest ++ " << [".toList ++ p.inner ++ [']']) := by
    simp [hname, literal]
  have htrim : trim p.line = p.name ++ " << ".toList ++ p.literal := by
    rw [line, trim_append p.indent.blank, hends, trim_enclosed (isBlank_of_isWord hword) (by decide)]
  have hmark : ¬ "//".toList <:+: p.name ++ " << ".toList ++ p.literal := by
    have hname : isClear "//".toList p.name = true := isClear_of_not_mem (not_mem_of_all p.chars (by decide))
    have hopen : isClear "//".toList ['['] = true := by decide
    have hliteral : isClear "//".toList (['['] ++ (p.inner ++ [']'])) = true :=
      isClear_append hopen (isClear_elements p.unmarked)
    exact not_infix_of_isClear (by decide) (isClear_append (isClear_append hname (by decide)) hliteral)
  rw [content, htrim, stripComment_of_unmarked hmark]

theorem readLine_line (number : Nat) :
    readLine ⟨number, p.line⟩ = .pipe (.start ⟨number, p.line⟩ (.one p.name) p.literal) := by
  have hline : '\n' ∉ p.inner ++ [']'] := by
    have hinner : '\n' ∉ p.inner := not_mem_join (by decide) p.oneLine
    simp [hinner]
  exact readLine_bracket p.start p.chars hline (p.content_line number)

/-- The statement that a pipe is. -/
theorem statements_line (number : Nat) (rest : List NumberedLine) :
    statements (⟨number, p.line⟩ :: rest) =
      .pipe ⟨number, p.line⟩ (.one p.name) p.literal :: statements rest := by
  have hliteral : Balanced p.literal := .brackets rfl p.balanced_inner
  have hclosed : (OpenPipe.start ⟨number, p.line⟩ (.one p.name) p.literal).isOpen = false := by
    have hdepth : (OpenPipe.start ⟨number, p.line⟩ (.one p.name) p.literal).depth = bracketDelta p.literal := rfl
    rw [OpenPipe.isOpen, hdepth, bracketDelta_balanced hliteral]
    rfl
  rw [statements, statementsFrom, p.readLine_line]
  dsimp only
  rw [hclosed, if_neg Bool.false_ne_true]
  simp [OpenPipe.statement, OpenPipe.start, join, statements]

end ListPipe

/-! ## A pipe on several lines -/

/-- **A pipe goes on up to the line that closes it**: if some bracket is open in front of each of these lines and none
behind them, the pipe and the lines are one statement, joined with spaces, and the lines below are read on their own. -/
theorem statementsFrom_upTo (p : OpenPipe) {lines : List NumberedLine}
    (hopen : ∀ front back, lines = front ++ back → back ≠ [] → 0 < p.depth + bracketDelta (front.map content).flatten)
    (hclosed : p.depth + bracketDelta (lines.map content).flatten ≤ 0) (below : List NumberedLine) :
    (if p.isOpen then statementsFrom (some p) (lines ++ below) else p.statement :: statementsFrom none (lines ++ below)) =
      .pipe p.line p.targets (join [' '] (p.parts.reverse ++ lines.map content)) :: statements below := by
  have hnil : bracketDelta [] = 0 := rfl
  induction lines generalizing p with
  | nil =>
      have hend : p.isOpen = false := by simpa [OpenPipe.isOpen, hnil] using hclosed
      rw [hend, if_neg Bool.false_ne_true, List.map_nil, List.append_nil]
      rfl
  | cons line rest ih =>
      have hdepth (more : List NumberedLine) : (p.add line).depth + bracketDelta (more.map content).flatten =
          p.depth + bracketDelta ((line :: more).map content).flatten := by
        rw [List.map_cons, List.flatten_cons, bracketDelta_append]
        exact Int.add_assoc p.depth (bracketDelta (content line)) _
      have hgoes : p.isOpen = true := by
        have hpos := hopen [] (line :: rest) rfl (List.cons_ne_nil _ _)
        simpa [OpenPipe.isOpen, hnil] using hpos
      have hrest := ih (p.add line)
        (fun front back hsplit hback => hdepth front ▸ hopen (line :: front) back (by rw [hsplit]; rfl) hback)
        (hdepth rest ▸ hclosed)
      rw [hgoes, if_pos rfl, List.cons_append, statementsFrom]
      exact hrest.trans (by simp [OpenPipe.add])

/-- A way to write a pipe on several lines: behind the arrows, its list literal is laid out over them. -/
structure Layout (p : ListPipe) where
  first : Text
  opening : BrokenLine
  rest : List BrokenLine
  opens : opening.text = p.name ++ " << ".toList ++ first
  oneLine : '\n' ∉ first
  laid : IsLaid p.literal (first :: rest.map BrokenLine.text)

/-- Respaced, a text in square brackets stays one with the same elements. -/
theorem Respaced.exists_inner {inner two : Text} (hinner : Balanced inner) (h : Respaced ('[' :: (inner ++ [']'])) two) :
    ∃ other, two = '[' :: (other ++ [']']) ∧ Balanced other ∧ readItems other = readItems inner := by
  generalize hone : '[' :: (inner ++ [']']) = one at h
  cases h with
  | same => exact ⟨inner, hone.symm, hinner, rfl⟩
  | @list elements hlist =>
      have hsame : inner = join [','] (elements.map (·.1.piece)) :=
        List.append_cancel_right (List.cons.inj hone).2
      refine ⟨_, rfl, Part.balanced_join fun e he => (hlist e he).balanced.2, ?_⟩
      rw [hsame, readItems_elements hlist fun e he => (hlist e he).readItems_eq]

namespace Layout

variable {p : ListPipe} (w : Layout p)

/-- What stands on the lines, behind the arrows. -/
def texts : List Text := w.first :: w.rest.map BrokenLine.text

/-- The lines as they are written. -/
def lines : List Text := w.opening.line :: w.rest.map BrokenLine.line

/-- The literal that the lines make up. -/
def joined : Text := join [' '] w.texts

theorem exists_inner :
    ∃ inner, w.joined = '[' :: (inner ++ [']']) ∧ Balanced inner ∧ readItems inner = readItems p.inner :=
  w.laid.respaced.exists_inner p.balanced_inner

/-- The literal has the elements that it has on one line. -/
theorem elements?_joined : elements? w.joined = elements? p.literal := by
  obtain ⟨inner, hjoined, -, hread⟩ := w.exists_inner
  rw [hjoined, ListPipe.literal, elements?_brackets, elements?_brackets, hread]

theorem exists_first : ∃ more, w.first = '[' :: more := by
  obtain ⟨inner, hjoined, -, -⟩ := w.exists_inner
  rw [joined, texts] at hjoined
  cases hfirst : w.first with
  | nil =>
      rw [hfirst] at hjoined
      cases hrest : w.rest.map BrokenLine.text with
      | nil => simp [hrest, join] at hjoined
      | cons next more =>
          rw [hrest, join_cons_of_ne_nil _ _ (List.cons_ne_nil _ _)] at hjoined
          simp at hjoined
  | cons c more =>
      obtain ⟨behind, hbehind⟩ := join_eq_append [' '] w.first (w.rest.map BrokenLine.text)
      rw [hbehind, hfirst] at hjoined
      exact ⟨more, by rw [(List.cons.inj hjoined).1]⟩

/-- **The literal is open behind every line but the last.** -/
theorem bracketDelta_front {front back : List Text} (h : w.texts = front ++ back) (hfront : front ≠ [])
    (hback : back ≠ []) : 0 < bracketDelta front.flatten := by
  obtain ⟨inner, hjoined, hinner, -⟩ := w.exists_inner
  have hparts : w.joined = join [' '] front ++ ([' '] ++ join [' '] back) := by
    rw [joined, h, join_append _ hfront hback, List.append_assoc]
  have hsome : join [' '] front ≠ [] := by
    obtain ⟨more, hmore⟩ := w.exists_first
    obtain ⟨text, others, rfl⟩ := List.exists_cons_of_ne_nil hfront
    obtain ⟨behind, hbehind⟩ := join_eq_append [' '] text others
    have htext : w.first = text := (List.cons.inj h).1
    rw [hbehind, ← htext, hmore]
    exact List.cons_ne_nil _ _
  have hshort : join [' '] front ≠ w.joined := by
    rw [hparts]
    simp
  have hsep : bracketDelta [' '] = 0 := by decide
  rw [← bracketDelta_join hsep]
  exact bracketDelta_inside hinner (hjoined ▸ hparts ▸ List.prefix_append _ _) hsome (hjoined ▸ hshort)

/-- Behind the last line it is closed. -/
theorem bracketDelta_texts : bracketDelta w.texts.flatten = 0 := by
  obtain ⟨inner, hjoined, hinner, -⟩ := w.exists_inner
  have hsep : bracketDelta [' '] = 0 := by decide
  rw [← bracketDelta_join hsep, ← joined, hjoined]
  exact bracketDelta_balanced (.brackets rfl hinner)

theorem content_rest (number : Nat) :
    (numberedFrom number (w.rest.map BrokenLine.line)).map content = w.rest.map BrokenLine.text := by
  induction w.rest generalizing number with
  | nil => rfl
  | cons l rest ih =>
      rw [List.map_cons, numberedFrom_cons, List.map_cons, l.content_line, ih, List.map_cons]

/-- **The lines are one statement**, and the lines below are read on their own. -/
theorem statements_lines (number : Nat) (below : List NumberedLine) :
    statements (numberedFrom number w.lines ++ below) =
      .pipe ⟨number, w.opening.line⟩ (.one p.name) w.joined :: statements below := by
  obtain ⟨more, hfirst⟩ := w.exists_first
  have hcontent : content ⟨number, w.opening.line⟩ = p.name ++ " << ".toList ++ '[' :: more := by
    rw [w.opening.content_line, w.opens, hfirst]
  have hline : '\n' ∉ more := fun hm => w.oneLine (hfirst ▸ List.mem_cons_of_mem _ hm)
  have hread : readLine ⟨number, w.opening.line⟩ = .pipe (.start ⟨number, w.opening.line⟩ (.one p.name) w.first) :=
    hfirst ▸ readLine_bracket p.start p.chars hline hcontent
  have hdepth : (OpenPipe.start ⟨number, w.opening.line⟩ (.one p.name) w.first).depth = bracketDelta w.first := by
    rw [hfirst]
    rfl
  have htexts : w.texts = w.first :: (numberedFrom (number + 1) (w.rest.map BrokenLine.line)).map content := by
    rw [w.content_rest]
    rfl
  rw [lines, numberedFrom_cons, List.cons_append, statements, statementsFrom, hread]
  refine (statementsFrom_upTo _ (fun front back hsplit hback => ?_) ?_ below).trans ?_
  · have hparts : w.texts = (w.first :: front.map content) ++ back.map content := by
      rw [htexts, hsplit, List.map_append, List.cons_append]
    have hpos := w.bracketDelta_front hparts (List.cons_ne_nil _ _) (by simpa using hback)
    rwa [List.flatten_cons, bracketDelta_append, ← hdepth] at hpos
  · have hzero := w.bracketDelta_texts
    rw [htexts, List.flatten_cons, bracketDelta_append, ← hdepth] at hzero
    exact Int.le_of_eq hzero
  · rw [joined, htexts]
    rfl

end Layout

/-! ## Blocks -/

/-- **Line breaks inside a list literal do not matter.** Take a block in which a pipe stands on one line, with no pipe
left open above it, and the same block with the pipe on several lines. The second one brings what the first one brings,
errors included: the pipe feeds the same elements from the line that it begins on, the lines above it are read alike,
and so are the lines below it, further down. Hence the iterations are the same, but for the lines that they stand on. -/
theorem contributions_of_layout {p : ListPipe} (w : Layout p) {before after file broken : List Text}
    {block other : BlockSpan} (hone : (block.body file).map NumberedLine.text = before ++ p.line :: after)
    (hbroken : (other.body broken).map NumberedLine.text = before ++ (w.lines ++ after))
    (hlabel : other.label = block.label) (hclosed : pipeBehind none (numberedFrom (block.label + 1) before) = none) (method : Text) :
    let move : Rewrapping := ⟨block.label + 1 + before.length, w.opening.line, w.rest.length⟩
    contributions broken other = (contributions file block).map (List.map move.contribution) ∧
      (contributions broken other).map (number method) =
        (contributions file block).map fun cs => (number method cs).map move.iteration := by
  intro move
  have hfile : statements (block.body file) = statements (numberedFrom (block.label + 1) before) ++
      .pipe ⟨move.place, p.line⟩ (.one p.name) p.literal :: statements (numberedFrom (move.place + 1) after) := by
    rw [body_eq_numberedFrom hone, numberedFrom_append, numberedFrom_cons, statements, statementsFrom_append hclosed,
      p.statements_line]
    rfl
  have hother : statements (other.body broken) = statements (numberedFrom (block.label + 1) before) ++
      .pipe ⟨move.place, move.text⟩ (.one p.name) w.joined ::
        (statements (numberedFrom (move.place + 1) after)).map (shifting move.more).statement := by
    have hbelow : move.place + w.lines.length = move.place + 1 + move.more := by
      simp only [Layout.lines, List.length_cons, List.length_map, move]
      omega
    rw [body_eq_numberedFrom hbroken, hlabel, numberedFrom_append, numberedFrom_append, statements,
      statementsFrom_append hclosed, w.statements_lines, hbelow, ← Relabelling.statements_line, ← numberedFrom_add]
    rfl
  have habove : ∀ s ∈ statements (numberedFrom (block.label + 1) before), s.line.number < move.place := fun s hs =>
    lt_of_mem_numberedFrom ((statementsFrom_sublist none _).subset (List.mem_map_of_mem hs))
  have hbelow : ∀ s ∈ statements (numberedFrom (move.place + 1) after), move.place < s.line.number := fun s hs =>
    le_of_mem_numberedFrom ((statementsFrom_sublist none _).subset (List.mem_map_of_mem hs))
  have hmoved : contributions broken other = (contributions file block).map (List.map move.contribution) := by
    rw [contributions, contributions, hfile, hother]
    exact move.contributionsFrom_rewrap habove hbelow (elements?_brackets p.inner)
      (w.elements?_joined.trans (elements?_brackets p.inner)) none p.line (.one p.name)
  refine ⟨hmoved, ?_⟩
  rw [hmoved]
  cases contributions file block with
  | error e => rfl
  | ok cs => exact congrArg Except.ok (move.number_contribution method cs)

/-! ## Samples -/

/-- A number, a call and a list. -/
def callPipe : ListPipe where
  indent := .spaces 2
  name := "v".toList
  elements := ["1".toList, "f(a, b)".toList, "[2, 3]".toList]
  start := by decide
  chars := by decide
  balanced := by
    have hnumber : Balanced "1".toList := .of_plain (by decide)
    have hcall : Balanced ("f".toList ++ '(' :: ("a, b".toList ++ [')'])) :=
      .append (.of_plain (by decide)) (.brackets rfl (.of_plain (by decide)))
    have hlist : Balanced ('[' :: ("2, 3".toList ++ [']'])) := .brackets rfl (.of_plain (by decide))
    simp only [List.forall_mem_cons]
    exact ⟨hnumber, hcall, hlist, by simp⟩
  unmarked := by decide
  oneLine := by decide

/-- A line with a comment. -/
def commentLine (n : Nat) (text comment : Text)
    (h : trim text = text ∧ text.any isQuote = false ∧ ¬ "//".toList <:+: text) : BrokenLine :=
  ⟨.spaces n, text, .spaces 1, some comment, h.1, h.2.1, h.2.2, .inr (.inl (by decide))⟩

/-- A line without a comment. -/
def plainLine (n : Nat) (text : Text) (h : trim text = text ∧ text.any isQuote = false ∧ ¬ "//".toList <:+: text) :
    BrokenLine :=
  ⟨.spaces n, text, .spaces 0, none, h.1, h.2.1, h.2.2, .inl rfl⟩

/-- What stands on the lines of a literal that ends lines at its brackets and commas, in a call and in a list. -/
theorem isLaid_callPipe :
    IsLaid callPipe.literal ["[".toList, [], "1,".toList, "f(a,".toList, "b), [2,".toList, [], "3]".toList, "]".toList] := by
  have hnumber : IsLaid "1".toList ["1".toList] := isLaid_of_join (by simp) rfl (.of_plain (by decide))
  have hcall : IsLaid "f(a, b)".toList ["f(a,".toList, "b)".toList] :=
    isLaid_of_join (by simp) rfl (callPipe.balanced _ (List.mem_cons_of_mem _ List.mem_cons_self))
  have htwo : IsLaid "2".toList ["2".toList] := isLaid_of_join (by simp) rfl (.of_plain (by decide))
  have hthree : List.Forall₂ (fun text x => IsLaid text x.2) ["3".toList] [(Gap.lines 1, ["3".toList])] :=
    .cons (isLaid_of_join (by simp) rfl (.of_plain (by decide))) .nil
  have hlist : IsLaid "[2, 3]".toList ["[2,".toList, [], "3]".toList] :=
    isLaid_list htwo hthree (.blank (.spaces 0)) (.blank (.spaces 0))
  have hrest : List.Forall₂ (fun text x => IsLaid text x.2) ["f(a, b)".toList, "[2, 3]".toList]
      [(Gap.lines 0, ["f(a,".toList, "b)".toList]), (.blank (.spaces 1), ["[2,".toList, [], "3]".toList])] :=
    .cons hcall (.cons hlist .nil)
  exact isLaid_list hnumber hrest (.lines 1) (.lines 0)

/-- The call and the list in it go on over the lines, too. -/
def callLayout : Layout callPipe where
  first := "[".toList
  opening := commentLine 2 "v << [".toList " it's a list ]".toList (by decide)
  rest := [plainLine 0 [] (by decide), commentLine 4 "1,".toList " one [".toList (by decide),
    plainLine 4 "f(a,".toList (by decide), plainLine 6 "b), [2,".toList (by decide),
    commentLine 0 [] " // ".toList (by decide), plainLine 5 "3]".toList (by decide), plainLine 2 "]".toList (by decide)]
  opens := by decide
  oneLine := by decide
  laid := isLaid_callPipe

example : callLayout.lines =
    ["  v << [ // it's a list ]".toList, [], "    1, // one [".toList, "    f(a,".toList, "      b), [2,".toList,
      " // // ".toList, "     3]".toList, "  ]".toList] := by
  decide

/-- The index, the line and the display name of each iteration of a block. -/
def shown (file : List Text) (block : BlockSpan) : Option (List (Nat × Nat × Text)) :=
  (contributions file block).toOption.map fun cs =>
    (number "m".toList cs).map fun i => (i.index, i.range.startLine, i.displayName)

/-- Between another pipe and a table, the pipe on eight lines has the iterations that it has on one. -/
theorem contributions_of_callLayout :
    let file := ["where:".toList, "y << [7]".toList, "  v << [1, f(a, b), [2, 3]]".toList, "a | b".toList,
      "8 | 9".toList, "\x7d".toList]
    let broken := ["where:".toList, "y << [7]".toList, "  v << [ // it's a list ]".toList, [], "    1, // one [".toList,
      "    f(a,".toList, "      b), [2,".toList, " // // ".toList, "     3]".toList, "  ]".toList, "a | b".toList,
      "8 | 9".toList, "\x7d".toList]
    let move : Rewrapping := ⟨2, "  v << [ // it's a list ]".toList, 7⟩
    ((BlockSpan.mk 0 5).body file).map NumberedLine.text =
        ["y << [7]".toList] ++ callPipe.line :: ["a | b".toList, "8 | 9".toList] ∧
      ((BlockSpan.mk 0 12).body broken).map NumberedLine.text =
        ["y << [7]".toList] ++ (callLayout.lines ++ ["a | b".toList, "8 | 9".toList]) ∧
      pipeBehind none (numberedFrom 1 ["y << [7]".toList]) = none ∧
      contributions broken ⟨0, 12⟩ = (contributions file ⟨0, 5⟩).map (List.map move.contribution) ∧
      shown file ⟨0, 5⟩ = some [(0, 1, "m [y: 7]".toList), (1, 2, "m [v: 1]".toList), (2, 2, "m [v: f(a, b)]".toList),
        (3, 2, "m [v: [2, 3]]".toList), (4, 4, "m [a: 8, b: 9]".toList)] ∧
      shown broken ⟨0, 12⟩ = some [(0, 1, "m [y: 7]".toList), (1, 2, "m [v: 1]".toList), (2, 2, "m [v: f(a, b)]".toList),
        (3, 2, "m [v: [2, 3]]".toList), (4, 11, "m [a: 8, b: 9]".toList)] := by
  intro file broken move
  have hone : ((BlockSpan.mk 0 5).body file).map NumberedLine.text =
      ["y << [7]".toList] ++ callPipe.line :: ["a | b".toList, "8 | 9".toList] := by decide
  have hbroken : ((BlockSpan.mk 0 12).body broken).map NumberedLine.text =
      ["y << [7]".toList] ++ (callLayout.lines ++ ["a | b".toList, "8 | 9".toList]) := by decide
  have hclosed : pipeBehind none (numberedFrom 1 ["y << [7]".toList]) = none := by decide
  exact ⟨hone, hbroken, hclosed, (contributions_of_layout callLayout hone hbroken rfl hclosed "m".toList).1,
    by decide +kernel, by decide +kernel⟩

/-- Two layouts that do change a value: two line ends inside a call stand for two spaces, and a slash in front of a
comment belongs to the comment mark. -/
theorem shown_of_changed :
    let callLine := ["where:".toList, "v << [f(a, b)]".toList, "\x7d".toList]
    let brokenCall := ["where:".toList, "v << [f(a,".toList, [], "b)]".toList, "\x7d".toList]
    let slashLine := ["where:".toList, "v << [a/]".toList, "\x7d".toList]
    let brokenSlash := ["where:".toList, "v << [a///c".toList, "]".toList, "\x7d".toList]
    (shown callLine ⟨0, 2⟩ = some [(0, 1, "m [v: f(a, b)]".toList)] ∧
      shown brokenCall ⟨0, 4⟩ = some [(0, 1, "m [v: f(a,  b)]".toList)] ∧
      shown brokenCall ⟨0, 4⟩ ≠ shown callLine ⟨0, 2⟩) ∧
    shown slashLine ⟨0, 2⟩ = some [(0, 1, "m [v: a/]".toList)] ∧
      shown brokenSlash ⟨0, 3⟩ = some [(0, 1, "m [v: a]".toList)] ∧
      shown brokenSlash ⟨0, 3⟩ ≠ shown slashLine ⟨0, 2⟩ := by
  intro callLine brokenCall slashLine brokenSlash
  have hcall : shown callLine ⟨0, 2⟩ = some [(0, 1, "m [v: f(a, b)]".toList)] := by decide +kernel
  have hbrokenCall : shown brokenCall ⟨0, 4⟩ = some [(0, 1, "m [v: f(a,  b)]".toList)] := by decide +kernel
  have hslash : shown slashLine ⟨0, 2⟩ = some [(0, 1, "m [v: a/]".toList)] := by decide +kernel
  have hbrokenSlash : shown brokenSlash ⟨0, 3⟩ = some [(0, 1, "m [v: a]".toList)] := by decide +kernel
  refine ⟨⟨hcall, hbrokenCall, ?_⟩, hslash, hbrokenSlash, ?_⟩
  · rw [hcall, hbrokenCall]
    decide
  · rw [hslash, hbrokenSlash]
    decide

end SpecAtlas.Source
