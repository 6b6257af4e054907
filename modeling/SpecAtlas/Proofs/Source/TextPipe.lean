import SpecAtlas.Proofs.Source.Comment
import SpecAtlas.Proofs.Source.DataTable
import SpecAtlas.Proofs.Source.Element

/-!
# Pipes of texts

A where-block of pipes such as `name << ['a', 'b']`, each on its line, has one iteration for every text of
every pipe. The texts may hold commas, brackets, arrows and comment marks, since the literal is taken apart
outside quotes.

1. The comment marks in the texts begin no comment (`content_line`), so the line is read as a pipe of its
   literal (`readLine_line`), and the literal writes the list of the texts (`writtenAs_literal`).
2. But whether a pipe goes on over the next line is decided by counting its square brackets, those in quotes
   too. A pipe whose texts have more opening than closing ones takes in the line below
   (`statements_closed`, `sublist_of_open`).

So pipes are read one by one exactly if the texts of none but the last have more opening brackets than
closing ones (`iterations_of_textPipes_iff`).
-/

namespace SpecAtlas.Source

open Text

/-! ## Brackets -/

theorem bracketDelta_append (front back : Text) : bracketDelta (front ++ back) = bracketDelta front + bracketDelta back := by
  simp only [bracketDelta, List.count_append]
  omega

theorem bracketDelta_join {sep : Text} (hsep : bracketDelta sep = 0) (parts : List Text) :
    bracketDelta (join sep parts) = bracketDelta parts.flatten := by
  induction parts with
  | nil => rfl
  | cons part rest ih =>
      cases rest with
      | nil => simp [join]
      | cons next rest =>
          rw [join_cons_of_ne_nil _ _ (List.cons_ne_nil _ _), bracketDelta_append, bracketDelta_append, hsep, ih,
            Int.add_zero, ← bracketDelta_append]
          rfl

/-! ## Lines of pipes -/

section

variable {name rest : Text}

theorem exists_eq_cons_of_start (hstart : (name.take 1).any isIdentStart = true) :
    ∃ c behind, name = c :: behind ∧ isIdentStart c = true := by
  cases name with
  | nil => simp at hstart
  | cons c behind => exact ⟨c, behind, rfl, by simpa using hstart⟩

/-- Behind a name and arrows stands the expression of a pipe. -/
theorem onePipe?_bracket (hstart : (name.take 1).any isIdentStart = true) (hchars : name.all isWord = true)
    (hline : '\n' ∉ rest) : onePipe? (name ++ " << ".toList ++ '[' :: rest) = some (.one name, '[' :: rest) := by
  obtain ⟨c, more, hname, hc⟩ := exists_eq_cons_of_start hstart
  have hall := List.all_eq_true.1 hchars
  have hbehind : name ++ " << ".toList ++ '[' :: rest = name ++ ' ' :: ("<< ".toList ++ '[' :: rest) := by simp
  have hspace : isWord ' ' = false := by decide
  have hexpression : expression? (' ' :: ("<< ".toList ++ '[' :: rest)) = some ('[' :: rest) := by
    have harrow : after? "<<".toList (trimLeft (' ' :: ("<< ".toList ++ '[' :: rest))) = some (' ' :: '[' :: rest) := rfl
    have hliteral : trimLeft (' ' :: '[' :: rest) = '[' :: rest := rfl
    have hempty : ('[' :: rest).isEmpty = false := rfl
    have hline : ('[' :: rest).elem '\n' = false := by simpa using hline
    simp only [expression?, harrow, Option.bind_eq_bind, Option.bind_some, hliteral, hempty, hline, Bool.or_self,
      Bool.false_eq_true, if_false]
  have hfirst : ((name ++ ' ' :: ("<< ".toList ++ '[' :: rest)).take 1).any isIdentStart = true := by
    simp [hname, hc]
  rw [hbehind, onePipe?, if_pos hfirst, List.takeWhile_append_of_pos hall, List.dropWhile_append_of_pos hall,
    List.takeWhile_cons_of_neg (by simp [hspace]), List.dropWhile_cons_of_neg (by simp [hspace]), hexpression,
    List.append_nil]
  rfl

/-- A line with a name, arrows and a list literal, or the front of one, begins a pipe. -/
theorem readLine_bracket {line : NumberedLine} (hstart : (name.take 1).any isIdentStart = true)
    (hchars : name.all isWord = true) (hline : '\n' ∉ rest)
    (hcontent : content line = name ++ " << ".toList ++ '[' :: rest) :
    readLine line = .pipe (.start line (.one name) ('[' :: rest)) := by
  obtain ⟨c, more, hname, hc⟩ := exists_eq_cons_of_start hstart
  have hne {x : Char} (hx : isIdentStart x = false) : c ≠ x := by
    rintro rfl
    rw [hc] at hx
    contradiction
  have hslash : c ≠ '/' := hne (by decide)
  have hstar : c ≠ '*' := hne (by decide)
  have hcomment : isComment (name ++ " << ".toList ++ '[' :: rest) = false := by
    simp [hname, isComment, startsWith, after?, hslash.symm, hstar.symm]
  have hempty : (name ++ " << ".toList ++ '[' :: rest).isEmpty = false := by simp [hname]
  have hseveral : severalPipe? (name ++ " << ".toList ++ '[' :: rest) = none := by
    unfold severalPipe?
    split
    · rename_i other he
      rw [hname] at he
      exact absurd (List.cons.inj he).1 (hne (by decide))
    · rfl
  rw [readLine, hcontent]
  simp only [hempty, hcomment, Bool.or_self, Bool.false_eq_true, if_false, hseveral, onePipe?_bracket hstart hchars hline,
    Option.none_or]

end

/-! ## Pipes -/

/-- A text in single quotes. -/
def quoted (t : Text) : Text := '\'' :: (t ++ ['\''])

/-- Quotes are no brackets. -/
theorem bracketDelta_quoted (texts : List Text) : bracketDelta (texts.map quoted).flatten = bracketDelta texts.flatten := by
  have hquoted (t : Text) : bracketDelta (quoted t) = bracketDelta t := by simp [quoted, bracketDelta]
  induction texts with
  | nil => rfl
  | cons t rest ih =>
      rw [List.map_cons, List.flatten_cons, List.flatten_cons, bracketDelta_append, bracketDelta_append, hquoted, ih]

/-- A pipe that feeds one variable with texts. -/
structure TextPipe where
  indent : Indent
  name : Text
  texts : List Text
  start : (name.take 1).any isIdentStart = true
  chars : name.all isWord = true
  nonempty : texts ≠ []
  unquoted : ∀ t ∈ texts, '\'' ∉ t
  oneLine : ∀ t ∈ texts, '\n' ∉ t

namespace TextPipe

/-- The list of the texts of a pipe. -/
def literal (p : TextPipe) : Text := '[' :: (join ", ".toList (p.texts.map quoted) ++ [']'])

/-- The line of a pipe. -/
def line (p : TextPipe) : Text := p.indent.text ++ (p.name ++ " << ".toList ++ p.literal)

/-- How many more opening than closing square brackets the texts of a pipe have, taken together. -/
def excess (p : TextPipe) : Int := bracketDelta p.texts.flatten

/-- What a pipe gives its variable, text by text, if it stands on line `number`. -/
def rows (p : TextPipe) (number : Nat) : List (NumberedLine × Mapping Value) :=
  p.texts.map fun t => (⟨number, p.line⟩, [(p.name, .text t)])

variable (p : TextPipe)

theorem bracketDelta_literal : bracketDelta p.literal = p.excess := by
  have hopen : bracketDelta ['['] = 1 := rfl
  have hclose : bracketDelta [']'] = -1 := rfl
  rw [literal, ← List.singleton_append, bracketDelta_append, bracketDelta_append, hopen, hclose,
    bracketDelta_join (by decide), bracketDelta_quoted, excess]
  omega

theorem uncommented_literal : Uncommented p.literal := by
  have hopen : Uncommented ['['] := uncommented_of_not_mem (by decide) (by decide)
  have hclose : Uncommented [']'] := uncommented_of_not_mem (by decide) (by decide)
  have hsep : Uncommented ", ".toList := uncommented_of_not_mem (by decide) (by decide)
  refine hopen.append (Uncommented.append (uncommented_join hsep fun part hpart => ?_) hclose)
  obtain ⟨t, ht, rfl⟩ := List.mem_map.1 hpart
  exact uncommented_quoted rfl (p.unquoted t ht)

/-- The literal writes the list of the texts. -/
theorem writtenAs_literal : WrittenAs (.list (p.texts.map .text)) p.literal := by
  obtain ⟨first, rest, htexts⟩ := List.exists_cons_of_ne_nil p.nonempty
  have hblank : allBlank [' '] = true := by decide
  have hwritten : ∀ t ∈ first :: rest, WrittenAs (.text t) (quoted t) := fun t ht =>
    .text rfl (p.unquoted t (htexts ▸ ht))
  have hlist := @WrittenAs.list (⟨.text first, [], quoted first, [], rfl, rfl⟩ ::
    rest.map fun t => ⟨.text t, [' '], quoted t, [], hblank, rfl⟩) (by
      intro e he
      rcases List.mem_cons.1 he with rfl | he
      · exact hwritten first List.mem_cons_self
      · obtain ⟨t, ht, rfl⟩ := List.mem_map.1 he
        exact hwritten t (List.mem_cons_of_mem first ht))
  rw [literal, htexts, List.map_cons, List.map_cons, join_comma_space]
  simpa [Placed.piece, Function.comp_def] using hlist

theorem not_mem_literal : '\n' ∉ p.literal := by
  have hjoin : '\n' ∉ join ", ".toList (p.texts.map quoted) := by
    refine not_mem_join (by decide) fun part hpart => ?_
    obtain ⟨t, ht, rfl⟩ := List.mem_map.1 hpart
    simp [quoted, p.oneLine t ht]
  rw [literal, List.mem_cons, List.mem_append]
  rintro (he | hm | hm)
  · exact absurd he (by decide)
  · exact hjoin hm
  · exact absurd (List.mem_singleton.1 hm) (by decide)

/-! ### Its line -/

theorem trim_line : trim p.line = p.name ++ " << ".toList ++ p.literal := by
  obtain ⟨c, rest, hname, -⟩ := exists_eq_cons_of_start p.start
  have hword : isWord c = true := List.all_eq_true.1 p.chars c (hname ▸ List.mem_cons_self)
  have hends : p.name ++ " << ".toList ++ p.literal =
      c :: (rest ++ " << [".toList ++ join ", ".toList (p.texts.map quoted) ++ [']']) := by
    simp [hname, literal]
  rw [line, trim_append p.indent.blank, hends, trim_enclosed (isBlank_of_isWord hword) (by decide)]

/-- The comment marks in the texts begin no comment. -/
theorem content_line (number : Nat) : content ⟨number, p.line⟩ = p.name ++ " << ".toList ++ p.literal := by
  have hquote := any_isQuote_of_not_mem (not_mem_of_all p.chars (by decide)) (not_mem_of_all p.chars (by decide))
  have hname : Uncommented p.name := uncommented_of_not_mem (not_mem_of_all p.chars (by decide)) hquote
  have harrow : Uncommented " << ".toList := uncommented_of_not_mem (by decide) (by decide)
  rw [content, p.trim_line]
  exact ((hname.append harrow).append p.uncommented_literal).stripComment_eq

/-- A pipe behind its line, where its literal may go on. -/
def opened (number : Nat) : OpenPipe := ⟨⟨number, p.line⟩, .one p.name, [p.literal], p.excess⟩

/-- The line of a pipe is read as the pipe of its literal. -/
theorem readLine_line (number : Nat) : readLine ⟨number, p.line⟩ = .pipe (p.opened number) := by
  have hline : '\n' ∉ join ", ".toList (p.texts.map quoted) ++ [']'] :=
    fun hm => p.not_mem_literal (List.mem_cons_of_mem _ hm)
  have hdepth : (if p.literal.head? = some '[' then bracketDelta p.literal else 0) = p.excess := by
    have hhead : p.literal.head? = some '[' := rfl
    rw [if_pos hhead, p.bracketDelta_literal]
  rw [readLine_bracket p.start p.chars hline (p.content_line number), opened, ← hdepth]
  rfl

/-! ### What follows it -/

/-- The statement that a pipe is, if it is on its own. -/
def statement (number : Nat) : Statement := .pipe ⟨number, p.line⟩ (.one p.name) p.literal

/-- What a pipe brings, if it is on its own. -/
def contribution (number : Nat) : Contribution :=
  .data ⟨number, p.line⟩ ((p.texts.map Value.text).map (Targets.one p.name).bind)

theorem data?_contribution (number : Nat) : (p.contribution number).data? = p.rows number := by
  rw [contribution, Contribution.data?, List.map_map, List.map_map]
  rfl

theorem statement_opened (number : Nat) : (p.opened number).statement = p.statement number := by
  simp [opened, OpenPipe.statement, statement, join]

/-- A pipe is open if its texts have more opening than closing brackets. -/
theorem isOpen_opened (number : Nat) : (p.opened number).isOpen = decide (0 < p.excess) := rfl

/-- The last pipe of a block is a statement of its own. -/
theorem statements_last (number : Nat) : statements [⟨number, p.line⟩] = [p.statement number] := by
  rw [statements, statementsFrom, p.readLine_line]
  dsimp only
  split <;> rw [statementsFrom, statement_opened]

variable {p}

/-- A pipe whose texts have no brackets left open is a statement of its own. -/
theorem statements_closed (h : p.excess ≤ 0) (number : Nat) (rest : List NumberedLine) :
    statements (⟨number, p.line⟩ :: rest) = p.statement number :: statements rest := by
  rw [statements, statementsFrom, p.readLine_line]
  dsimp only
  rw [if_neg (by simpa [isOpen_opened] using h), statement_opened, statements]

/-- A pipe with brackets left open takes in the line below: no statement begins there. -/
theorem sublist_of_open (h : 0 < p.excess) (number : Nat) (next : NumberedLine) (rest : List NumberedLine) :
    ((statements (⟨number, p.line⟩ :: next :: rest)).map Statement.line).Sublist (⟨number, p.line⟩ :: rest) := by
  rw [statements, statementsFrom, p.readLine_line]
  dsimp only
  rw [if_pos (by simpa [isOpen_opened] using h), statementsFrom]
  split
  · exact statementsFrom_sublist (some ((p.opened number).add next)) rest
  · exact (statementsFrom_sublist none rest).cons_cons ⟨number, p.line⟩

/-- A pipe brings one data set for every text. -/
theorem contributionsFrom_statement (number : Nat) (rest : List Statement) :
    contributionsFrom none (p.statement number :: rest) =
      (contributionsFrom none rest).map (p.contribution number :: ·) := by
  rw [statement, contributionsFrom, elements?_of_writtenAs p.writtenAs_literal]
  rfl

end TextPipe

/-! ## Blocks of pipes -/

/-- What pipes on consecutive lines give their variables, if the first one stands on line `number`. -/
def pipeRows (number : Nat) : List TextPipe → List (NumberedLine × Mapping Value)
  | [] => []
  | p :: rest => p.rows number ++ pipeRows (number + 1) rest

/-- **Pipes whose brackets are closed are read one by one.** -/
theorem exists_contributions_of_closed {pipes : List TextPipe} (h : ∀ p ∈ pipes.dropLast, p.excess ≤ 0) (number : Nat) :
    ∃ cs, contributionsFrom none (statements (numberedFrom number (pipes.map TextPipe.line))) = .ok cs ∧
      cs.flatMap Contribution.data? = pipeRows number pipes := by
  induction pipes generalizing number with
  | nil => exact ⟨[], rfl, rfl⟩
  | cons p rest ih =>
      have hstatements : statements (numberedFrom number ((p :: rest).map TextPipe.line)) =
          p.statement number :: statements (numberedFrom (number + 1) (rest.map TextPipe.line)) := by
        cases rest with
        | nil => exact p.statements_last number
        | cons next rest =>
            rw [List.map_cons, numberedFrom_cons]
            exact TextPipe.statements_closed (h p List.mem_cons_self) number _
      have hrest : ∀ q ∈ rest.dropLast, q.excess ≤ 0 := by
        intro q hq
        cases rest with
        | nil => contradiction
        | cons next rest => exact h q (List.mem_cons_of_mem p hq)
      obtain ⟨cs, hcs, hdata⟩ := ih hrest (number + 1)
      rw [hstatements, TextPipe.contributionsFrom_statement, hcs]
      refine ⟨_, rfl, ?_⟩
      rw [List.flatMap_cons, hdata, p.data?_contribution, pipeRows]

theorem le_of_mem_numberedFrom {number : Nat} {lines : List Text} {line : NumberedLine}
    (h : line ∈ numberedFrom number lines) : number ≤ line.number := by
  obtain ⟨⟨text, k⟩, hmem, rfl⟩ := List.mem_map.1 h
  exact (List.mk_mem_zipIdx_iff_le_and_getElem?_sub.1 hmem).1

/-- If every pipe has data on its own line, the brackets of all pipes but the last are closed. -/
theorem closed_of_data {pipes : List TextPipe} {number : Nat} {cs : List Contribution}
    (h : contributionsFrom none (statements (numberedFrom number (pipes.map TextPipe.line))) = .ok cs)
    (hdata : (cs.flatMap Contribution.data?).map (·.1.number) = (pipeRows number pipes).map (·.1.number)) :
    ∀ p ∈ pipes.dropLast, p.excess ≤ 0 := by
  induction pipes generalizing number cs with
  | nil => simp
  | cons p rest ih =>
      cases rest with
      | nil => simp
      | cons next rest =>
          rw [List.map_cons, numberedFrom_cons] at h
          rcases Int.lt_or_le 0 p.excess with hopen | hclosed
          · -- No statement begins on the second line, but the second pipe has data there.
            obtain ⟨t, ht⟩ := List.exists_mem_of_ne_nil _ next.nonempty
            have hrow : (⟨number + 1, next.line⟩, [(next.name, .text t)]) ∈ pipeRows number (p :: next :: rest) :=
              List.mem_append_right _ (List.mem_append_left _ (List.mem_map_of_mem ht))
            have hnumber := List.mem_map_of_mem (f := fun x : NumberedLine × Mapping Value => x.1.number) hrow
            rw [← hdata] at hnumber
            obtain ⟨x, hx, he⟩ := List.mem_map.1 hnumber
            have hline := (TextPipe.sublist_of_open hopen number _ _).subset (mem_lines_of_mem_data? h hx)
            rcases List.mem_cons.1 hline with hfirst | hlater
            · rw [hfirst] at he
              simp at he
            · have hle := le_of_mem_numberedFrom hlater
              dsimp only at he
              omega
          · rw [TextPipe.statements_closed hclosed, TextPipe.contributionsFrom_statement] at h
            obtain ⟨own, hown, rfl⟩ := map_eq_ok.1 h
            rw [List.flatMap_cons, p.data?_contribution, pipeRows, List.map_append, List.map_append] at hdata
            intro q hq
            rcases List.mem_cons.1 hq with rfl | hrest
            · exact hclosed
            · exact ih hown (List.append_cancel_left hdata) q hrest

/-- The lines of the body of a block are numbered from the line below the label. -/
theorem body_eq_numberedFrom {block : BlockSpan} {lines texts : List Text}
    (h : (block.body lines).map NumberedLine.text = texts) : block.body lines = numberedFrom (block.label + 1) texts := by
  have htexts : (lines.drop (block.label + 1)).take (block.close - (block.label + 1)) = texts := by
    rw [← h, BlockSpan.body, List.map_map]
    exact (List.zipIdx_map_fst _ _).symm
  rw [BlockSpan.body, htexts]
  rfl

/-- The lines and the values of iterations that are numbered from data sets. -/
theorem places_mapIdx (method : Text) (rows : List (NumberedLine × Mapping Value)) :
    (rows.mapIdx fun index x => (⟨index, x.2, displayName method x.2, .ofLine x.1.number x.1.text, method⟩ : Iteration)).map
      (fun i => (i.range.startLine, i.values)) = rows.map fun x => (x.1.number, x.2) := by
  refine List.ext_getElem? fun k => ?_
  simp only [List.getElem?_map, List.getElem?_mapIdx, Option.map_map]
  rfl

/-- The lines of iterations that are numbered from data sets. -/
theorem startLines_mapIdx (method : Text) (rows : List (NumberedLine × Mapping Value)) :
    (rows.mapIdx fun index x => (⟨index, x.2, displayName method x.2, .ofLine x.1.number x.1.text, method⟩ : Iteration)).map
      (·.range.startLine) = rows.map (·.1.number) := by
  have hplaces := congrArg (List.map Prod.fst) (places_mapIdx method rows)
  rwa [List.map_map, List.map_map] at hplaces

theorem startLines_number (method : Text) (cs : List Contribution) :
    (number method cs).map (·.range.startLine) = (cs.flatMap Contribution.data?).map (·.1.number) :=
  startLines_mapIdx method _

/-- **Pipes of texts are read pipe by pipe exactly if their brackets allow it.** The iterations of a block whose
lines are pipes of texts are one for every text of every pipe, in order, with the text under the name of the
pipe, on the line of the pipe and numbered through, if and only if the texts of no pipe but the last have more
opening than closing square brackets. -/
theorem iterations_of_textPipes_iff {block : BlockSpan} {lines : List Text} {pipes : List TextPipe}
    (h : (block.body lines).map NumberedLine.text = pipes.map TextPipe.line) (method : Text) :
    (∃ cs, contributions lines block = .ok cs ∧
      number method cs = (pipeRows (block.label + 1) pipes).mapIdx fun index x =>
        ⟨index, x.2, displayName method x.2, .ofLine x.1.number x.1.text, method⟩) ↔
      ∀ p ∈ pipes.dropLast, p.excess ≤ 0 := by
  have hcontributions : contributions lines block =
      contributionsFrom none (statements (numberedFrom (block.label + 1) (pipes.map TextPipe.line))) := by
    rw [contributions, body_eq_numberedFrom h]
  rw [hcontributions]
  constructor
  · rintro ⟨cs, hcs, hnumber⟩
    have hlines := congrArg (List.map fun i : Iteration => i.range.startLine) hnumber
    rw [startLines_number, startLines_mapIdx] at hlines
    exact closed_of_data hcs hlines
  · intro hclosed
    obtain ⟨cs, hcs, hdata⟩ := exists_contributions_of_closed hclosed (block.label + 1)
    refine ⟨cs, hcs, ?_⟩
    rw [number, hdata]

/-! ## Samples -/

/-- A pipe with an ordinary text. -/
def plainPipe : TextPipe where
  indent := .spaces 2
  name := "z".toList
  texts := ["a".toList]
  start := by decide
  chars := by decide
  nonempty := by decide
  unquoted := by decide
  oneLine := by decide

/-- A pipe whose texts are full of marks. Its brackets are closed. -/
def markedPipe : TextPipe where
  indent := .spaces 2
  name := "x".toList
  texts := ["a, b".toList, "// c".toList, "<< [".toList, "]".toList]
  start := by decide
  chars := by decide
  nonempty := by decide
  unquoted := by decide
  oneLine := by decide

/-- A pipe with a bracket that stays open. -/
def bracketPipe : TextPipe where
  indent := .spaces 2
  name := "y".toList
  texts := ["[".toList]
  start := by decide
  chars := by decide
  nonempty := by decide
  unquoted := by decide
  oneLine := by decide

/-- At the end of a block an open bracket does no harm. -/
theorem iterations_of_markedPipe :
    let lines := ["where:".toList, "  x << ['a, b', '// c', '<< [', ']']".toList, "  y << ['[']".toList, "\x7d".toList]
    ((BlockSpan.mk 0 3).body lines).map NumberedLine.text = [markedPipe, bracketPipe].map TextPipe.line ∧
      (∀ p ∈ [markedPipe, bracketPipe].dropLast, p.excess ≤ 0) ∧
      ∃ cs, contributions lines ⟨0, 3⟩ = .ok cs ∧
        (number "m".toList cs).map (fun i => (i.index, i.range.startLine, i.values)) =
          [(0, 1, [("x".toList, .text "a, b".toList)]), (1, 1, [("x".toList, .text "// c".toList)]),
            (2, 1, [("x".toList, .text "<< [".toList)]), (3, 1, [("x".toList, .text "]".toList)]),
            (4, 2, [("y".toList, .text "[".toList)])] := by
  intro lines
  have hbody : ((BlockSpan.mk 0 3).body lines).map NumberedLine.text = [markedPipe, bracketPipe].map TextPipe.line := rfl
  have hclosed : ∀ p ∈ [markedPipe, bracketPipe].dropLast, p.excess ≤ 0 := by decide
  obtain ⟨cs, hcs, hnumber⟩ := (iterations_of_textPipes_iff hbody "m".toList).2 hclosed
  refine ⟨hbody, hclosed, cs, hcs, ?_⟩
  rw [hnumber]
  rfl

/-- A bracket that stays open in front of another pipe: the two lines are read as one pipe with one text. -/
theorem iterations_of_bracketPipe :
    let lines := ["where:".toList, "  y << ['[']".toList, "  z << ['a']".toList, "\x7d".toList]
    ((BlockSpan.mk 0 3).body lines).map NumberedLine.text = [bracketPipe, plainPipe].map TextPipe.line ∧
      (∃ cs, contributions lines ⟨0, 3⟩ = .ok cs ∧
        (number "m".toList cs).map (fun i => (i.index, i.range.startLine, i.values)) =
          [(0, 1, [("y".toList, .text "['] z << ['a".toList)])]) ∧
      ¬ ∃ cs, contributions lines ⟨0, 3⟩ = .ok cs ∧
        (number "m".toList cs).map (fun i => (i.index, i.range.startLine, i.values)) =
          [(0, 1, [("y".toList, .text "[".toList)]), (1, 2, [("z".toList, .text "a".toList)])] := by
  intro lines
  have hstatements : statements ((BlockSpan.mk 0 3).body lines) =
      [.pipe ⟨1, "  y << ['[']".toList⟩ (.one "y".toList) "['['] z << ['a']".toList] := by decide
  have htrim : trim "['['] z << ['a']".toList = '[' :: ("'['] z << ['a'".toList ++ [']']) := by decide
  have hitems : items "'['] z << ['a'".toList = ["'['] z << ['a'".toList] := by decide
  have htoken : trim "'['] z << ['a'".toList = '\'' :: "['] z << ['a'".toList := by decide
  have hread : readElement "'['] z << ['a'".toList = .ok (.text "['] z << ['a".toList) :=
    (readElement_cons htoken (by decide) (by decide)).trans (coerce_quoted rfl "['] z << ['a".toList)
  have helements : elements? "['['] z << ['a']".toList = some (.ok [.text "['] z << ['a".toList]) := by
    rw [elements?, htrim, rangeRead?_bracket, bracketed?_brackets]
    dsimp only
    rw [Option.map_some, hitems, List.mapM_cons, hread]
    rfl
  have hcs : contributions lines ⟨0, 3⟩ =
      .ok [.data ⟨1, "  y << ['[']".toList⟩ [[("y".toList, .text "['] z << ['a".toList)]]] := by
    rw [contributions, hstatements, contributionsFrom, helements]
    rfl
  refine ⟨rfl, ⟨_, hcs, rfl⟩, ?_⟩
  rintro ⟨cs, hother, hnumber⟩
  obtain rfl := Except.ok.inj (hcs.symm.trans hother)
  exact absurd (congrArg List.length hnumber) (by decide)

end SpecAtlas.Source
