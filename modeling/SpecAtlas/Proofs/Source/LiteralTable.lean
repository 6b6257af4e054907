import SpecAtlas.Proofs.Source.LiteralRow

/-!
# Tables of literals

A where-block that is a table has a header of different names and rows below it, each with as many whole numbers
and quoted texts as there are names.

1. A row with an arrow in a text says nothing (`LiteralRow.statements_line`). Any other row brings the values of the
   cells that it is divided into.
2. An undivided row brings the values of its own cells (`LiteralRow.rowValues_text`), and a row that brings them is
   undivided (`LiteralRow.readAs_of_rowValues`).

So every row is one iteration with the values of its cells if the rows are undivided, and only then, but for what
may happen in a column without data (`iterations_of_literalTable`).
-/

namespace SpecAtlas.Source

open Text

/-! ## Values -/

namespace LiteralRow

variable {names : List Text} {r : LiteralRow}

/-- The values of the cells of a row under the names of a header. -/
def values (names : List Text) (r : LiteralRow) : Mapping Value :=
  ((names.zip r.cells).filter (·.1 ≠ placeholderColumn)).map fun x => (x.1, x.2.value)

/-- The texts of the cells in the columns that carry data. -/
theorem namedCells_text (names : List Text) (r : LiteralRow) :
    namedCells names (r.cells.map LiteralCell.text) =
      ((names.zip r.cells).filter (·.1 ≠ placeholderColumn)).map fun x => (x.1, x.2.text) := by
  rw [namedCells, List.zip_map_right, List.filter_map]
  rfl

theorem fst_values (hfits : r.cells.length = names.length) :
    (r.values names).map Prod.fst = names.filter (· ≠ placeholderColumn) := by
  have hlength : (r.cells.map LiteralCell.text).length = names.length := by rwa [List.length_map]
  rw [← fst_namedCells hlength, namedCells_text, values, List.map_map, List.map_map]
  rfl

/-- The texts of the cells are read as the values of the row. -/
theorem rowValues_text (hdistinct : names.Nodup) (hfits : r.cells.length = names.length) :
    rowValues names (r.cells.map LiteralCell.text) = .ok (r.values names) := by
  have hread : (namedCells names (r.cells.map LiteralCell.text)).mapM
      (fun x => (do return (x.1, ← coerce x.2) : Except LongNumeral (Text × Value))) = .ok (r.values names) := by
    rw [namedCells_text, List.mapM_map]
    refine mapM_eq_ok fun x _ => ?_
    show (do return (x.1, ← coerce x.2.text) : Except LongNumeral (Text × Value)) = _
    rw [x.2.coerce_text]
    rfl
  have hlist : Mapping.ofList (r.values names) = r.values names :=
    Mapping.ofList_of_nodup (fst_values hfits ▸ hdistinct.filter _)
  show (do return Mapping.ofList (← (namedCells names (r.cells.map LiteralCell.text)).mapM _) :
    Except LongNumeral (Mapping Value)) = _
  rw [hread]
  exact congrArg Except.ok hlist

/-- A row under different names has values. -/
theorem values_ne_nil (hdistinct : names.Nodup) (hfits : r.cells.length = names.length) : r.values names ≠ [] := by
  obtain ⟨next, more, hrest⟩ := List.exists_cons_of_ne_nil r.several
  intro hnil
  have hnone : names.filter (· ≠ placeholderColumn) = [] := by rw [← fst_values hfits, hnil, List.map_nil]
  have hall : ∀ name ∈ names, name = placeholderColumn := by simpa [List.filter_eq_nil_iff] using hnone
  rcases names with _ | ⟨a, _ | ⟨b, names⟩⟩
  · simp [cells] at hfits
  · simp [cells, hrest] at hfits
  · have hsame : a = b := (hall a (by simp)).trans (hall b (by simp)).symm
    exact (List.nodup_cons.1 hdistinct).1 (hsame ▸ List.mem_cons_self)

end LiteralRow

theorem fst_zip_sublist (names parts : List Text) : ((names.zip parts).map Prod.fst).Sublist names := by
  induction names generalizing parts with
  | nil => simp
  | cons name names ih =>
      cases parts with
      | nil => simp
      | cons part parts => exact (ih parts).cons_cons name

/-- Parts that bring the values of cells, name by name, are read as these cells. -/
theorem readAs_of_holds {names : List Text} {cells : List LiteralCell} {parts : List Text}
    (hfits : cells.length = names.length)
    (h : List.Forall₂ Holds (names.zip parts) ((names.zip cells).map fun x => (x.1, x.2.value))) : ReadAs cells parts := by
  induction names generalizing cells parts with
  | nil =>
      obtain rfl := List.length_eq_zero_iff.1 hfits
      exact .nil parts
  | cons name names ih =>
      obtain ⟨cell, cells, rfl⟩ := List.exists_cons_of_length_pos (hfits ▸ Nat.succ_pos names.length : 0 < cells.length)
      cases parts with
      | nil => cases h
      | cons part parts =>
          cases h with
          | cons hfirst hrest => exact .cons hfirst.2 (ih (Nat.succ.inj hfits) hrest)

/-- A row that brings the values of its cells is read as its cells. -/
theorem LiteralRow.readAs_of_rowValues {names : List Text} {r : LiteralRow} (hdistinct : names.Nodup)
    (hnamed : placeholderColumn ∉ names) (hfits : r.cells.length = names.length) {parts : List Text}
    (h : rowValues names parts = .ok (r.values names)) : ReadAs r.cells parts := by
  have hkeep {α : Type} (items : List α) : (names.zip items).filter (·.1 ≠ placeholderColumn) = names.zip items := by
    refine List.filter_eq_self.2 fun x hx => ?_
    have hne : x.1 ≠ placeholderColumn := fun he => hnamed (he ▸ (List.of_mem_zip hx).1)
    simpa using hne
  obtain ⟨entries, hentries, hlist⟩ := bind_eq_ok.1 h
  rw [hkeep] at hentries
  have hholds := holds_of_mapM hentries
  have hkeys : (entries.map Prod.fst).Nodup := by
    rw [map_eq_of_forall₂ (hholds.imp fun _ _ hx => hx.1)]
    exact (fst_zip_sublist names parts).nodup hdistinct
  have hvalues : entries = r.values names := (Mapping.ofList_of_nodup hkeys).symm.trans (Except.ok.inj hlist)
  rw [hvalues, LiteralRow.values, hkeep] at hholds
  exact readAs_of_holds hfits hholds

/-! ## Statements -/

/-- A row with an arrow in it says nothing, and any other row is a statement. -/
theorem LiteralRow.statements_line (r : LiteralRow) (number : Nat) (rest : List NumberedLine) :
    statements (⟨number, r.line⟩ :: rest) =
      if hasMark "<<".toList r.text then statements rest
      else .row ⟨number, r.line⟩ (Source.cells r.text) :: statements rest := by
  rw [statements, statementsFrom, r.readLine_line]
  cases hasMark "<<".toList r.text <;> rfl

/-! ## Tables -/

/-- A table with a header of different names and rows of literals. -/
structure LiteralTable where
  header : RowLine
  rows : List LiteralRow
  distinct : header.row.cells.Nodup
  fits : ∀ r ∈ rows, r.cells.length = header.row.cells.length

/-- What rows on consecutive lines say under a header, if the first one stands on line `number`. -/
def rowSets (names : List Text) (number : Nat) : List LiteralRow → List (NumberedLine × Mapping Value)
  | [] => []
  | r :: rest => (⟨number, r.line⟩, r.values names) :: rowSets names (number + 1) rest

namespace LiteralTable

variable (t : LiteralTable)

/-- The names of the variables. -/
def names : List Text := t.header.row.cells

/-- The lines of a table. -/
def lines : List Text := t.header.text :: t.rows.map LiteralRow.line

/-- A where-block whose body is the table has one iteration for every row, in order and numbered through, on the line
of the row and with the values of its cells under the names of the header. -/
def IsRead (file : List Text) (block : BlockSpan) (method : Text) : Prop :=
  ∃ cs, contributions file block = .ok cs ∧
    number method cs = (rowSets t.names (block.label + 2) t.rows).mapIdx fun index x =>
      ⟨index, x.2, displayName method x.2, .ofLine x.1.number x.1.text, method⟩

end LiteralTable

section

variable {names : List Text} {rows : List LiteralRow} {number : Nat}

/-- **Undivided rows bring the values of their cells.** -/
theorem exists_contributions_of_undivided (hdistinct : names.Nodup) (hfits : ∀ r ∈ rows, r.cells.length = names.length)
    (h : ∀ r ∈ rows, r.Undivided) (number : Nat) :
    ∃ cs, contributionsFrom (some names) (statements (numberedFrom number (rows.map LiteralRow.line))) = .ok cs ∧
      cs.flatMap Contribution.data? = rowSets names number rows := by
  induction rows generalizing number with
  | nil => exact ⟨[], rfl, rfl⟩
  | cons r rest ih =>
      have hr := h r List.mem_cons_self
      have hlength := hfits r List.mem_cons_self
      have harrow : hasMark "<<".toList r.text = false := hasMark_eq_false_iff.2 hr.noArrow
      have hsome := List.isEmpty_eq_false_iff.2 (LiteralRow.values_ne_nil hdistinct hlength)
      obtain ⟨cs, hcs, hdata⟩ := ih (fun s hs => hfits s (List.mem_cons_of_mem r hs))
        (fun s hs => h s (List.mem_cons_of_mem r hs)) (number + 1)
      rw [List.map_cons, numberedFrom_cons, r.statements_line, harrow, if_neg Bool.false_ne_true, hr.cells_eq, contributionsFrom,
        LiteralRow.rowValues_text hdistinct hlength, mapError_ok, ok_bind, hsome, if_neg Bool.false_ne_true, hcs]
      refine ⟨_, rfl, ?_⟩
      rw [List.flatMap_cons, hdata, rowSets]
      rfl

/-- What lines bring stands on these lines. -/
theorem le_of_data {lines : List Text} {cs : List Contribution}
    (h : contributionsFrom (some names) (statements (numberedFrom number lines)) = .ok cs) :
    ∀ x ∈ cs.flatMap Contribution.data?, number ≤ x.1.number := fun _ hx =>
  le_of_mem_numberedFrom ((statementsFrom_sublist none _).subset (mem_lines_of_mem_data? h hx))

/-- If something stands on the line of the first row, it is the values of this row, and the rows below bring the rest. -/
theorem exists_rowValues_of_data {r : LiteralRow} {rest : List LiteralRow} {cs : List Contribution}
    (h : contributionsFrom (some names) (statements (numberedFrom number ((r :: rest).map LiteralRow.line))) = .ok cs)
    (hown : ∃ x ∈ cs.flatMap Contribution.data?, x.1.number = number) :
    ¬ "<<".toList <:+: r.text ∧ ∃ values own, rowValues names (Source.cells r.text) = .ok values ∧
      contributionsFrom (some names) (statements (numberedFrom (number + 1) (rest.map LiteralRow.line))) = .ok own ∧
      cs.flatMap Contribution.data? = (⟨number, r.line⟩, values) :: own.flatMap Contribution.data? := by
  -- The lines below bring nothing on the line of the row.
  have hbelow {own : List Contribution}
      (hrest : contributionsFrom (some names)
        (statements (numberedFrom (number + 1) (rest.map LiteralRow.line))) = .ok own)
      (hsame : cs.flatMap Contribution.data? = own.flatMap Contribution.data?) : False := by
    obtain ⟨x, hx, he⟩ := hown
    have hle := le_of_data hrest x (hsame ▸ hx)
    omega
  rw [List.map_cons, numberedFrom_cons, r.statements_line] at h
  cases harrow : hasMark "<<".toList r.text with
  | true =>
      rw [harrow, if_pos rfl] at h
      exact (hbelow h rfl).elim
  | false =>
      rw [harrow, if_neg Bool.false_ne_true, contributionsFrom] at h
      obtain ⟨values, hvalues, h⟩ := bind_eq_ok.1 h
      obtain ⟨own, hrest, h⟩ := bind_eq_ok.1 h
      cases h
      cases hempty : values.isEmpty with
      | true =>
          rw [hempty] at hbelow
          exact (hbelow hrest rfl).elim
      | false =>
          rw [if_neg Bool.false_ne_true, List.flatMap_cons]
          exact ⟨hasMark_eq_false_iff.1 harrow, values, own, mapError_eq_ok.1 hvalues, hrest, rfl⟩

/-- **If every row brings the values of its cells on its own line, the rows are undivided.** -/
theorem undivided_of_data (hdistinct : names.Nodup) (hnamed : placeholderColumn ∉ names)
    (hfits : ∀ r ∈ rows, r.cells.length = names.length) {cs : List Contribution}
    (h : contributionsFrom (some names) (statements (numberedFrom number (rows.map LiteralRow.line))) = .ok cs)
    (hdata : (cs.flatMap Contribution.data?).map (fun x => (x.1.number, x.2)) =
      (rowSets names number rows).map fun x => (x.1.number, x.2)) :
    ∀ r ∈ rows, r.Undivided := by
  induction rows generalizing number cs with
  | nil => simp
  | cons r rest ih =>
      have hown : ∃ x ∈ cs.flatMap Contribution.data?, x.1.number = number := by
        have hmem : (number, r.values names) ∈ (cs.flatMap Contribution.data?).map fun x => (x.1.number, x.2) := by
          rw [hdata]
          exact List.mem_cons_self
        obtain ⟨x, hx, he⟩ := List.mem_map.1 hmem
        exact ⟨x, hx, congrArg Prod.fst he⟩
      obtain ⟨harrow, values, own, hvalues, hrest, hparts⟩ := exists_rowValues_of_data h hown
      rw [hparts, rowSets, List.map_cons, List.map_cons] at hdata
      obtain ⟨hfirst, hothers⟩ := List.cons.inj hdata
      have hread : rowValues names (Source.cells r.text) = .ok (r.values names) :=
        hvalues.trans (congrArg (fun x : Nat × Mapping Value => Except.ok x.2) hfirst)
      have hcells := LiteralRow.readAs_of_rowValues hdistinct hnamed (hfits r List.mem_cons_self) hread
      have hr := LiteralRow.undivided_of_readAs harrow hcells
      exact List.forall_mem_cons.2 ⟨hr, ih (fun s hs => hfits s (List.mem_cons_of_mem r hs)) hrest hothers⟩

end

/-- The statements of a table are its header and the statements of its rows. -/
theorem LiteralTable.statements_lines (t : LiteralTable) (number : Nat) :
    statements (numberedFrom number t.lines) =
      .row ⟨number, t.header.text⟩ t.names :: statements (numberedFrom (number + 1) (t.rows.map LiteralRow.line)) := by
  have hread : readLine ⟨number, t.header.text⟩ = .row t.names := readLine_row (trim_rowLine t.header)
  rw [lines, numberedFrom_cons, statements, statementsFrom, hread]
  rfl

/-- **A table of literals is read as it is written if its rows are undivided, and only then.** If no text holds a bar
or an arrow, and semicolons in the texts of a row are rarer than its bars, then every row is one iteration, in order
and numbered through, on the line of the row and with the values of its cells under the names of the header; a column
named by the placeholder carries no data. If there is no such column, any other table is read otherwise. -/
theorem iterations_of_literalTable (t : LiteralTable) {file : List Text} {block : BlockSpan}
    (h : (block.body file).map NumberedLine.text = t.lines) (method : Text) :
    ((∀ r ∈ t.rows, r.Undivided) → t.IsRead file block method) ∧
      (placeholderColumn ∉ t.names → t.IsRead file block method → ∀ r ∈ t.rows, r.Undivided) := by
  have hcontributions : contributions file block =
      (contributionsFrom (some t.names) (statements (numberedFrom (block.label + 2) (t.rows.map LiteralRow.line)))).map
        (.header (block.label + 1) t.names :: ·) := by
    rw [contributions, body_eq_numberedFrom h, t.statements_lines, contributionsFrom]
    rfl
  have hdistinct : t.names.Nodup := t.distinct
  constructor
  · intro hundivided
    obtain ⟨cs, hcs, hdata⟩ := exists_contributions_of_undivided hdistinct t.fits hundivided (block.label + 2)
    refine ⟨_, by rw [hcontributions, hcs]; rfl, ?_⟩
    rw [number, List.flatMap_cons, hdata]
    rfl
  · rintro hnamed ⟨cs, hcs, hnumber⟩
    rw [hcontributions] at hcs
    obtain ⟨own, hown, rfl⟩ := map_eq_ok.1 hcs
    have hplaces := congrArg (List.map fun i : Iteration => (i.range.startLine, i.values)) hnumber
    rw [number, places_mapIdx, places_mapIdx] at hplaces
    exact undivided_of_data hdistinct hnamed t.fits hown hplaces

/-! ## Samples -/

/-- A name is a cell. -/
def Cell.ofName (name : Text) (h : (name.take 1).any isIdentStart = true ∧ name.all isWord = true) : Cell where
  text := name
  nonempty := fun he => by simp [he] at h
  trimmed := by
    have hblank : ∀ c ∈ name, isBlank c = false := fun c hc => isBlank_of_isWord (List.all_eq_true.1 h.2 c hc)
    exact trim_of_ends (fun c hc => hblank c (List.mem_of_head? hc)) fun c hc => hblank c (List.mem_of_getLast? hc)
  plain c hc hm := by
    have hword := List.all_eq_true.1 h.2 c hm
    simp only [reserved, List.mem_cons, List.not_mem_nil, or_false] at hc
    rcases hc with rfl | rfl | rfl | rfl | rfl | rfl <;> exact absurd hword (by decide)

/-- A header of two names. -/
def sizeHeader : RowLine :=
  ⟨.spaces 2, '|', isSeparating_pipe, .ofName "name".toList (by decide),
    [(false, .ofName "size".toList (by decide))], by simp⟩

/-- A whole number without a sign. -/
def LiteralCell.ofDigits (digits : Text)
    (h : digits.all isDigit = true ∧ digits.length ≤ Numeral.limit ∧ digits ≠ []) : LiteralCell :=
  .whole false digits h.2.2 h.1 h.2.1

/-- A text full of marks that do not divide its row. -/
def markedRow : LiteralRow :=
  ⟨.spaces 2, .quoted ⟨'\'', rfl⟩ "a, [b]; // c".toList (by decide), [.ofDigits "1".toList (by decide)], by simp⟩

/-- A text with a bar. -/
def barRow : LiteralRow :=
  ⟨.spaces 2, .quoted ⟨'\'', rfl⟩ "x|y".toList (by decide), [.ofDigits "2".toList (by decide)], by simp⟩

/-- A text with an arrow. -/
def arrowRow : LiteralRow :=
  ⟨.spaces 2, .quoted ⟨'\'', rfl⟩ "a << b".toList (by decide), [.ofDigits "3".toList (by decide)], by simp⟩

example : [sizeHeader.text, markedRow.line, barRow.line, arrowRow.line] =
    ["  name | size".toList, "  'a, [b]; // c' | 1".toList, "  'x|y' | 2".toList, "  'a << b' | 3".toList] := by
  decide

/-- A table of one row. -/
def markedTable : LiteralTable where
  header := sizeHeader
  rows := [markedRow]
  distinct := by decide
  fits := by
    intro r hr
    rw [List.mem_singleton.1 hr]
    rfl

/-- Marks that do not divide a row do no harm. -/
theorem iterations_of_markedTable :
    let file := ["where:".toList, "  name | size".toList, "  'a, [b]; // c' | 1".toList, "\x7d".toList]
    ((BlockSpan.mk 0 3).body file).map NumberedLine.text = markedTable.lines ∧ (∀ r ∈ markedTable.rows, r.Undivided) ∧
      ∃ cs, contributions file ⟨0, 3⟩ = .ok cs ∧
        (number "m".toList cs).map (fun i => (i.index, i.range.startLine, i.values)) =
          [(0, 2, [("name".toList, .text "a, [b]; // c".toList), ("size".toList, .int 1)])] := by
  intro file
  have hbody : ((BlockSpan.mk 0 3).body file).map NumberedLine.text = markedTable.lines := by decide
  have hundivided : ∀ r ∈ markedTable.rows, r.Undivided := by
    intro r hr
    rw [List.mem_singleton.1 hr]
    have hdoubled : Text.occurrences ";;".toList markedRow.text = 0 := occurrences_of_cut? (by decide) (by decide)
    exact ⟨by decide, by decide, by rw [hdoubled]; decide, by decide⟩
  obtain ⟨cs, hcs, hnumber⟩ := (iterations_of_literalTable markedTable hbody "m".toList).1 hundivided
  refine ⟨hbody, hundivided, cs, hcs, ?_⟩
  rw [hnumber]
  rfl

/-- A table of two rows that are not read as they are written. -/
def dividedTable : LiteralTable where
  header := sizeHeader
  rows := [barRow, arrowRow]
  distinct := by decide
  fits := by
    intro r hr
    rcases List.mem_cons.1 hr with rfl | hr
    · rfl
    · rw [List.mem_singleton.1 hr]
      rfl

/-- A bar in a text cuts the text, and a row with an arrow in a text is lost. -/
theorem iterations_of_dividedTable :
    let file := ["where:".toList, "  name | size".toList, "  'x|y' | 2".toList, "  'a << b' | 3".toList, "\x7d".toList]
    ((BlockSpan.mk 0 4).body file).map NumberedLine.text = dividedTable.lines ∧
      (∃ cs, contributions file ⟨0, 4⟩ = .ok cs ∧
        (number "m".toList cs).map (fun i => (i.index, i.range.startLine, i.values)) =
          [(0, 2, [("name".toList, .text "'x".toList), ("size".toList, .text "y'".toList)])]) ∧
      ¬ ∃ cs, contributions file ⟨0, 4⟩ = .ok cs ∧
        (number "m".toList cs).map (fun i => (i.index, i.range.startLine, i.values)) =
          [(0, 2, [("name".toList, .text "x|y".toList), ("size".toList, .int 2)]),
            (1, 3, [("name".toList, .text "a << b".toList), ("size".toList, .int 3)])] := by
  intro file
  have hbody : ((BlockSpan.mk 0 4).body file).map NumberedLine.text = dividedTable.lines := by decide
  have hcells : cells barRow.text = ["'x".toList, "y'".toList, "2".toList] := by
    have hbars : Text.occurrences "||".toList barRow.text = 0 := occurrences_of_cut? (by decide) (by decide)
    have hdoubled : Text.occurrences ";;".toList barRow.text = 0 := occurrences_of_cut? (by decide) (by decide)
    obtain ⟨s, hs, hchar⟩ := (separator?_bar_iff hbars (by decide)).2 ⟨by rw [hdoubled]; decide, by decide⟩
    rw [cells, hs]
    dsimp only
    rw [filled_split, hchar]
    decide
  have hbar : hasMark "<<".toList barRow.text = false := by decide
  have harrow : hasMark "<<".toList arrowRow.text = true := by decide
  have hrows : statements (numberedFrom 2 (dividedTable.rows.map LiteralRow.line)) =
      [.row ⟨2, barRow.line⟩ ["'x".toList, "y'".toList, "2".toList]] := by
    show statements (⟨2, barRow.line⟩ :: ⟨3, arrowRow.line⟩ :: []) = _
    rw [barRow.statements_line, hbar, arrowRow.statements_line, harrow, hcells]
    rfl
  have hvalues : rowValues dividedTable.names ["'x".toList, "y'".toList, "2".toList] =
      .ok [("name".toList, .text "'x".toList), ("size".toList, .text "y'".toList)] := by
    rfl
  have hcs : contributions file ⟨0, 4⟩ = .ok [.header 1 dividedTable.names,
      .data ⟨2, barRow.line⟩ [[("name".toList, .text "'x".toList), ("size".toList, .text "y'".toList)]]] := by
    rw [contributions, body_eq_numberedFrom hbody, dividedTable.statements_lines, hrows, contributionsFrom,
      contributionsFrom, hvalues]
    rfl
  refine ⟨hbody, ⟨_, hcs, rfl⟩, ?_⟩
  rintro ⟨cs, hother, hnumber⟩
  obtain rfl := Except.ok.inj (hcs.symm.trans hother)
  exact absurd (congrArg List.length hnumber) (by decide)

end SpecAtlas.Source
