import SpecAtlas.Proofs.Mapping
import SpecAtlas.Proofs.Source.Iteration
import SpecAtlas.Proofs.Source.Outline
import SpecAtlas.Proofs.Source.WhereBlock
import SpecAtlas.Proofs.Source.WrittenRow
import SpecAtlas.Proofs.Value.LongNumeral

/-!
# Data tables are read as they are written

A data table has a header and rows below it that have as many cells, and between any two of these lines
there may be blank lines and comments. `TabledMethod` is a method whose where-block holds one table.

The block is found behind the body of the method, whatever stands there, and it ends behind the table
(`findBlock?_lines`). Its statements are the header and the rows (`statements_lines`), and every row gives
one iteration with the values of its cells under the names of the header (`iterations_of_table`).
-/

namespace SpecAtlas.Source

open Text Literal

/-! ## Tables -/

/-- A line that says nothing: it is blank, or a comment. -/
structure Filler where
  text : Text
  silent : trim text = [] ∨ startsWith "//".toList (trim text) = true

/-- A row with white space in front. -/
structure RowLine where
  indent : Indent
  row : WrittenRow

/-- The line of a row. -/
def RowLine.text (r : RowLine) : Text := r.indent.text ++ r.row.text

/-- A line of a table. -/
inductive TableLine where
  | filler (f : Filler)
  | row (r : RowLine)

/-- The text of a line of a table. -/
def TableLine.text : TableLine → Text
  | filler f => f.text
  | row r => r.text

/-- A table: its names are different ones, but for columns without data, and not all columns are. -/
structure DataTable where
  above : List Filler
  header : RowLine
  below : List TableLine
  distinct : (header.row.cells.filter (· ≠ placeholderColumn)).Nodup
  named : ∃ name ∈ header.row.cells, name ≠ placeholderColumn
  fits : ∀ r, .row r ∈ below → r.row.cells.length = header.row.cells.length

/-- The lines of a table. -/
def DataTable.lines (t : DataTable) : List TableLine := t.above.map .filler ++ .row t.header :: t.below

/-- Lines with their numbers, of which the first one is `number`. -/
def numberedFrom (number : Nat) (lines : List Text) : List NumberedLine :=
  (lines.zipIdx number).map fun (text, number) => ⟨number, text⟩

theorem numberedFrom_cons (number : Nat) (line : Text) (rest : List Text) :
    numberedFrom number (line :: rest) = ⟨number, line⟩ :: numberedFrom (number + 1) rest := rfl

/-- The rows among lines of which the first one has number `number`, each with its line. -/
def rowsFrom (number : Nat) : List TableLine → List (NumberedLine × WrittenRow)
  | [] => []
  | .filler _ :: rest => rowsFrom (number + 1) rest
  | .row r :: rest => (⟨number, r.text⟩, r.row) :: rowsFrom (number + 1) rest

/-- The rows of a table below its header, if the first line of the table has number `number`. -/
def DataTable.rows (t : DataTable) (number : Nat) : List (NumberedLine × WrittenRow) :=
  rowsFrom (number + t.above.length + 1) t.below

/-! ## The statements of a table -/

/-- The statement that a row is. -/
def rowStatement (x : NumberedLine × WrittenRow) : Statement := .row x.1 x.2.cells

theorem readLine_filler {line : NumberedLine} (h : trim line.text = [] ∨ startsWith "//".toList (trim line.text) = true) :
    readLine line = .nothing := by
  have hcontent : content line = [] := by
    rcases h with hblank | hcomment
    · rw [content, hblank]
      rfl
    · obtain ⟨rest, hrest⟩ := Option.isSome_iff_exists.1 hcomment
      rw [content, after?_eq_some.1 hrest]
      rfl
  rw [readLine, hcontent]
  rfl

theorem trim_rowLine (r : RowLine) : trim r.text = r.row.text := by
  rw [RowLine.text, trim_append r.indent.blank, r.row.trim_text]

/-- The statements of lines of a table are their rows. -/
theorem statements_tableLines (number : Nat) (lines : List TableLine) :
    statements (numberedFrom number (lines.map TableLine.text)) = (rowsFrom number lines).map rowStatement := by
  induction lines generalizing number with
  | nil => rfl
  | cons line rest ih =>
      rw [List.map_cons, numberedFrom_cons, statements, statementsFrom]
      cases line with
      | filler f =>
          have hread : readLine ⟨number, (TableLine.filler f).text⟩ = .nothing := readLine_filler f.silent
          rw [hread]
          exact ih (number + 1)
      | row r =>
          have hread : readLine ⟨number, (TableLine.row r).text⟩ = .row r.row.cells := readLine_row (trim_rowLine r)
          rw [hread, rowsFrom, List.map_cons, ← ih (number + 1)]
          rfl

theorem rowsFrom_fillers (number : Nat) (fillers : List Filler) (rest : List TableLine) :
    rowsFrom number (fillers.map .filler ++ rest) = rowsFrom (number + fillers.length) rest := by
  induction fillers generalizing number with
  | nil => rfl
  | cons f fillers ih =>
      have hlength : number + (f :: fillers).length = number + 1 + fillers.length := by
        rw [List.length_cons]
        omega
      rw [List.map_cons, List.cons_append, rowsFrom, ih, hlength]

/-- The statements of a table are its header and its rows. -/
theorem statements_table (t : DataTable) (number : Nat) :
    statements (numberedFrom number (t.lines.map TableLine.text)) =
      .row ⟨number + t.above.length, t.header.text⟩ t.header.row.cells ::
        (t.rows number).map rowStatement := by
  rw [statements_tableLines, DataTable.lines, rowsFrom_fillers, rowsFrom]
  rfl

/-- No line of a table closes the block. -/
theorem isClosing_tableLine (line : TableLine) : isClosing (trim line.text) = false := by
  have hne : trim line.text ≠ ['}'] := by
    cases line with
    | filler f =>
        show trim f.text ≠ ['}']
        intro he
        have hsilent := f.silent
        rw [he] at hsilent
        revert hsilent
        decide
    | row r =>
        intro he
        have hmem := r.row.char_mem_text
        rw [← trim_rowLine, ← TableLine.text, he, List.mem_singleton] at hmem
        have hsep := r.row.separating
        rw [hmem] at hsep
        exact absurd hsep (by simp [isSeparating])
  simpa [isClosing] using hne

/-! ## The values of a row -/

/-- The names of the columns that carry data, each with the cell of a row. -/
def namedCells (header cells : List Text) : List (Text × Text) :=
  (header.zip cells).filter (·.1 ≠ placeholderColumn)

/-- A variable has the value that a cell stands for. -/
def Holds (named : Text × Text) (entry : Text × Value) : Prop := entry.1 = named.1 ∧ coerce named.2 = .ok entry.2

theorem fst_namedCells {header cells : List Text} (h : cells.length = header.length) :
    (namedCells header cells).map Prod.fst = header.filter (· ≠ placeholderColumn) := by
  conv => rhs; rw [← List.map_fst_zip (Nat.le_of_eq h.symm), List.filter_map]
  rfl

/-- Cells that are read one by one give their variables their values. -/
theorem holds_of_mapM {named : List (Text × Text)} {entries : List (Text × Value)}
    (h : (named.mapM fun x => (do return (x.1, ← coerce x.2) : Except LongNumeral (Text × Value))) = .ok entries) :
    List.Forall₂ Holds named entries :=
  (forall₂_of_mapM h).imp fun x entry hx => by
    obtain ⟨v, hv, he⟩ := bind_eq_ok.1 hx
    cases he
    exact ⟨rfl, hv⟩

/-- A row has a value for every named column, in the order of the header. -/
theorem exists_rowValues {header cells : List Text} (hdistinct : (header.filter (· ≠ placeholderColumn)).Nodup)
    (hfits : cells.length = header.length) (hshort : ∀ cell ∈ cells, tooLong? cell = none) :
    ∃ values, rowValues header cells = .ok values ∧ List.Forall₂ Holds (namedCells header cells) values := by
  have hcoerce : ∀ x ∈ namedCells header cells,
      ∃ entry, (do return (x.1, ← coerce x.2) : Except LongNumeral (Text × Value)) = .ok entry := by
    rintro ⟨name, cell⟩ hx
    have hcell : cell ∈ cells := (List.of_mem_zip (List.mem_filter.1 hx).1).2
    obtain ⟨v, hv⟩ := (refusedFor_coerce cell).exists_ok_iff.2 (by simpa using hshort cell hcell)
    exact ⟨(name, v), by rw [hv]; rfl⟩
  obtain ⟨entries, hentries⟩ := exists_mapM_eq_ok hcoerce
  have hholds := holds_of_mapM hentries
  have hnames : entries.map Prod.fst = header.filter (· ≠ placeholderColumn) := by
    rw [← fst_namedCells hfits]
    exact map_eq_of_forall₂ (hholds.imp fun _ _ h => h.1)
  refine ⟨entries, ?_, hholds⟩
  have hlist : Mapping.ofList entries = entries := Mapping.ofList_of_nodup (hnames ▸ hdistinct)
  rw [← hlist]
  show (do return Mapping.ofList (← (namedCells header cells).mapM _) : Except LongNumeral (Mapping Value)) = _
  rw [hentries]
  rfl

/-! ## The iterations of a table -/

/-- What a row brings: one set of values. -/
def rowData (x : NumberedLine × WrittenRow) (values : Mapping Value) : Contribution := .data x.1 [values]

/-- Rows with values bring these values. -/
theorem contributionsFrom_rows {header : List Text} {rows : List (NumberedLine × WrittenRow)}
    {sets : List (Mapping Value)}
    (h : List.Forall₂ (fun x values => rowValues header x.2.cells = .ok values ∧ values ≠ []) rows sets) :
    contributionsFrom (some header) (rows.map rowStatement) = .ok (List.zipWith rowData rows sets) := by
  induction h with
  | nil => rfl
  | cons hrow _ ih =>
      obtain ⟨hvalues, hne⟩ := hrow
      rw [List.map_cons, rowStatement, contributionsFrom, hvalues, mapError_ok, ok_bind, ih,
        List.isEmpty_eq_false_iff.2 hne]
      rfl

/-- An iteration of a method is what a row says: it stands on the line of the row, and its data are the
values of the cells under the names of the header. -/
structure TellsRow (method : Text) (header : List Text) (x : NumberedLine × WrittenRow)
    (i : Iteration) : Prop where
  name : i.method = method
  range : i.range = .ofLine x.1.number x.1.text
  values : List.Forall₂ Holds (namedCells header x.2.cells) i.values
  display : i.displayName = displayName method i.values

/-- The data sets of rows stand on the lines of the rows. -/
theorem flatMap_data?_rows (rows : List (NumberedLine × WrittenRow)) (sets : List (Mapping Value)) :
    (List.zipWith rowData rows sets).flatMap Contribution.data? = (rows.map Prod.fst).zip sets := by
  induction rows generalizing sets with
  | nil => rfl
  | cons x rows ih =>
      cases sets with
      | nil => rfl
      | cons values sets =>
          rw [List.zipWith_cons_cons, List.flatMap_cons, ih]
          rfl

/-- The iterations bear the numbers from zero on. -/
theorem index_number (method : Text) (cs : List Contribution) :
    (number method cs).map Iteration.index = List.range (number method cs).length := by
  refine List.ext_getElem (by simp) fun k hk _ => ?_
  rw [List.getElem_map, List.getElem_range]
  exact (getElem?_number (List.getElem?_eq_getElem (by simpa using hk))).1

/-- Every row with values is one iteration. -/
theorem forall₂_number (method : Text) {header : List Text} (line : Nat) {rows : List (NumberedLine × WrittenRow)}
    {sets : List (Mapping Value)}
    (h : List.Forall₂ (fun x values => List.Forall₂ Holds (namedCells header x.2.cells) values) rows sets) :
    List.Forall₂ (TellsRow method header) rows
      (number method (.header line header :: List.zipWith rowData rows sets)) := by
  have hdata : (Contribution.header line header :: List.zipWith rowData rows sets).flatMap Contribution.data? =
      (rows.map Prod.fst).zip sets := flatMap_data?_rows rows sets
  rw [number, hdata, List.forall₂_iff_get]
  have hlength := h.length_eq
  refine ⟨by simp [hlength], fun k hk hk' => ?_⟩
  have hvalues := (List.forall₂_iff_get.1 h).2 k hk (hlength ▸ hk)
  constructor
  · simp
  · simp
  · simpa using hvalues
  · simp

/-! ## Methods with a table -/

/-- A method whose where-block holds a table. -/
structure TabledMethod where
  indent : Indent
  quote : Quote
  name : Text
  noOpening : '{' ∉ name
  noClosing : '}' ∉ name
  body : List Text
  nonneg : ∀ k, 0 ≤ balanceOf (body.take k)
  noLabel : ∀ line ∈ body, trim line ≠ whereLabel
  labelIndent : Indent
  table : DataTable
  closingIndent : Indent

namespace TabledMethod

variable (m : TabledMethod)

/-- The heading line. -/
def heading : Text := m.indent.text ++ methodLine (m.quote.mark :: (m.name ++ [m.quote.mark]))

/-- The lines down to the label of the where-block. -/
def front : List Text := m.heading :: (m.body ++ [m.labelIndent.text ++ whereLabel])

/-- The line that closes the where-block. -/
def closing : Text := m.closingIndent.text ++ ['}']

/-- The lines of the method. -/
def lines : List Text := m.front ++ (m.table.lines.map TableLine.text ++ [m.closing])

/-- The where-block, if the heading has number `start`. -/
def block (start : Nat) : BlockSpan :=
  ⟨start + m.body.length + 1, start + m.front.length + m.table.lines.length⟩

/-- The rows below the header, if the heading has number `start`. -/
def rows (start : Nat) : List (NumberedLine × WrittenRow) := m.table.rows (start + m.front.length)

theorem trim_heading : trim m.heading = methodLine (m.quote.mark :: (m.name ++ [m.quote.mark])) := by
  rw [heading, trim_append m.indent.blank, (isEnclosed_methodLine _).trim_eq]

theorem braceDelta_heading : braceDelta m.heading = 1 := by
  have hmark : m.quote.mark ≠ '{' ∧ m.quote.mark ≠ '}' := by
    have hquote := m.quote.isQuote
    constructor <;> intro he <;> rw [he] at hquote <;> contradiction
  have htrim : trim m.heading = trim (methodLine (m.quote.mark :: (m.name ++ [m.quote.mark]))) := by
    rw [m.trim_heading, (isEnclosed_methodLine _).trim_eq]
  rw [braceDelta_congr htrim]
  exact braceDelta_methodLine (by simp [hmark.1.symm, m.noOpening]) (by simp [hmark.2.symm, m.noClosing])

/-- The search for the label passes over the body. -/
theorem seekBlock_body {index : Nat} {balance : Int} {opened : Bool} {body : List Text}
    (hbody : ∀ line ∈ body, trim line ≠ whereLabel) (habove : ∀ k, 0 < balance + balanceOf (body.take k))
    {label : Text} (hlabel : trim label = whereLabel) (rest : List Text) :
    seekBlock index balance opened (body ++ label :: rest) =
      some ⟨index + body.length, closingLine (index + body.length + 1) rest⟩ := by
  induction body generalizing index balance opened with
  | nil => exact if_pos hlabel
  | cons line body ih =>
      have hline : 0 < balance + braceDelta line := by simpa using habove 1
      have hrest : ∀ k, 0 < balance + braceDelta line + balanceOf (body.take k) := by
        intro k
        have hk := habove (k + 1)
        rw [List.take_succ_cons, balanceOf_cons] at hk
        omega
      have hgoes : ¬ ((opened || decide (0 < braceDelta line)) && decide (balance + braceDelta line ≤ 0)) = true := by
        simp only [Bool.and_eq_true, decide_eq_true_eq, not_and, Int.not_le]
        exact fun _ => hline
      have hlength : index + (line :: body).length = index + 1 + body.length := by
        rw [List.length_cons]
        omega
      simp only [List.cons_append, seekBlock, if_neg (hbody line List.mem_cons_self), if_neg hgoes]
      rw [ih (fun l hl => hbody l (List.mem_cons_of_mem _ hl)) hrest, hlength]

/-- The where-block of the method is found, wherever the method stands. -/
theorem findBlock?_lines (before after : List Text) :
    findBlock? (before ++ (m.lines ++ after)) before.length = some (m.block before.length) := by
  have hheading : trim m.heading ≠ whereLabel := by
    rw [m.trim_heading]
    exact fun he => absurd (List.cons.inj he).1 (by decide)
  have hlabel : trim (m.labelIndent.text ++ whereLabel) = whereLabel := by
    rw [trim_append m.labelIndent.blank]
    rfl
  have habove : ∀ k, 0 < (1 : Int) + balanceOf (m.body.take k) := by
    intro k
    have hk := m.nonneg k
    omega
  have htable : ∀ line ∈ m.table.lines.map TableLine.text, isClosing (trim line) = false := by
    intro line hline
    obtain ⟨l, -, rfl⟩ := List.mem_map.1 hline
    exact isClosing_tableLine l
  have hclosing : isClosing (trim m.closing) = true := by
    have htrim : trim m.closing = trim ['}'] := trim_append m.closingIndent.blank _
    rw [htrim]
    decide
  have hlines : m.lines ++ after = m.heading :: (m.body ++ (m.labelIndent.text ++ whereLabel) ::
      (m.table.lines.map TableLine.text ++ m.closing :: after)) := by
    simp [lines, front]
  rw [findBlock?, List.drop_left, hlines, seekBlock, if_neg hheading, m.braceDelta_heading]
  refine (seekBlock_body m.noLabel habove hlabel _).trans ?_
  rw [closingLine_append htable hclosing, block, front]
  simp only [List.length_cons, List.length_append, List.length_map, List.length_nil, Option.some.injEq,
    BlockSpan.mk.injEq]
  omega

/-- The body of the where-block is the table. -/
theorem body_lines (before after : List Text) :
    (m.block before.length).body (before ++ (m.lines ++ after)) =
      numberedFrom (before.length + m.front.length) (m.table.lines.map TableLine.text) := by
  have hlines : before ++ (m.lines ++ after) =
      before ++ m.front ++ (m.table.lines.map TableLine.text ++ m.closing :: after) := by
    simp [lines]
  have hfirst : (m.block before.length).label + 1 = (before ++ m.front).length := by
    simp only [block, front, List.length_append, List.length_cons, List.length_nil]
    omega
  have hclose : (m.block before.length).close - (before ++ m.front).length =
      (m.table.lines.map TableLine.text).length := by
    simp only [block, List.length_append, List.length_map]
    omega
  rw [BlockSpan.body, hfirst, hclose, hlines, List.drop_left, List.take_left, List.length_append]
  rfl

/-- The statements of the where-block are the header of the table and its rows. -/
theorem statements_lines (before after : List Text) :
    statements ((m.block before.length).body (before ++ (m.lines ++ after))) =
      .row ⟨before.length + m.front.length + m.table.above.length, m.table.header.text⟩
          m.table.header.row.cells ::
        (m.rows before.length).map rowStatement := by
  rw [m.body_lines, statements_table]
  rfl

/-- The rows stand on lines of the file. -/
theorem getElem?_rows (before after : List Text) {x : NumberedLine × WrittenRow} (h : x ∈ m.rows before.length) :
    (before ++ (m.lines ++ after))[x.1.number]? = some x.1.text := by
  have hsublist := statementsFrom_sublist none ((m.block before.length).body (before ++ (m.lines ++ after)))
  rw [← statements, m.statements_lines] at hsublist
  have hline : x.1 ∈ (m.block before.length).body (before ++ (m.lines ++ after)) :=
    hsublist.subset (List.mem_cons_of_mem _ (List.mem_map_of_mem (List.mem_map_of_mem h)))
  exact (BlockSpan.mem_body hline).2.2

end TabledMethod

theorem mem_of_mem_rowsFrom {number : Nat} {lines : List TableLine} {x : NumberedLine × WrittenRow}
    (h : x ∈ rowsFrom number lines) : ∃ r, .row r ∈ lines ∧ r.row = x.2 := by
  induction lines generalizing number with
  | nil => contradiction
  | cons line rest ih =>
      cases line with
      | filler f =>
          obtain ⟨r, hr, hx⟩ := ih h
          exact ⟨r, List.mem_cons_of_mem _ hr, hx⟩
      | row r =>
          cases List.mem_cons.1 h with
          | inl he => exact ⟨r, List.mem_cons_self, by rw [he]⟩
          | inr hm =>
              obtain ⟨r', hr', hx⟩ := ih hm
              exact ⟨r', List.mem_cons_of_mem _ hr', hx⟩

/-- **A data table is read as it is written**: the where-block of the method is found, its statements are
read, and there is one iteration for every row below the header, in order and numbered from zero. It
stands on the line of its row, and it has, in the order of the header, every variable with the value of
the cell in its column. -/
theorem iterations_of_table (m : TabledMethod) (before after : List Text)
    (hshort : ∀ x ∈ m.rows before.length, ∀ cell ∈ x.2.cells, tooLong? cell = none) :
    ∃ block cs,
      findBlock? (before ++ (m.lines ++ after)) before.length = some block ∧
      contributions (before ++ (m.lines ++ after)) block = .ok cs ∧
      List.Forall₂ (TellsRow m.name m.table.header.row.cells) (m.rows before.length) (number m.name cs) ∧
      (number m.name cs).map Iteration.index = List.range (number m.name cs).length ∧
      ∀ x ∈ m.rows before.length, (before ++ (m.lines ++ after))[x.1.number]? = some x.1.text := by
  have hvalues : ∀ x ∈ m.rows before.length, ∃ values,
      (rowValues m.table.header.row.cells x.2.cells = .ok values ∧ values ≠ []) ∧
        List.Forall₂ Holds (namedCells m.table.header.row.cells x.2.cells) values := by
    intro x hx
    obtain ⟨r, hr, hrow⟩ := mem_of_mem_rowsFrom hx
    have hfits : x.2.cells.length = m.table.header.row.cells.length := hrow ▸ m.table.fits r hr
    obtain ⟨values, hrow, hholds⟩ := exists_rowValues m.table.distinct hfits (hshort x hx)
    refine ⟨values, ⟨hrow, ?_⟩, hholds⟩
    rintro rfl
    have hnames := fst_namedCells hfits
    rw [List.forall₂_nil_right_iff.1 hholds, List.map_nil] at hnames
    obtain ⟨name, hname, hne⟩ := m.table.named
    have hmem : name ∈ ([] : List Text) := hnames ▸ List.mem_filter.2 ⟨hname, by simpa using hne⟩
    contradiction
  obtain ⟨sets, hsets⟩ := exists_forall₂ hvalues
  refine ⟨m.block before.length, _, m.findBlock?_lines before after, ?_,
    forall₂_number m.name (before.length + m.front.length + m.table.above.length) (hsets.imp fun _ _ h => h.2),
    index_number m.name _, fun x hx => m.getElem?_rows before after hx⟩
  rw [contributions, m.statements_lines, contributionsFrom, contributionsFrom_rows (hsets.imp fun _ _ h => h.1)]
  rfl

/-- A method with a table in which the separators change from line to line. -/
def maxMethod : TabledMethod where
  indent := .spaces 2
  quote := .double
  name := "max".toList
  noOpening := by decide
  noClosing := by decide
  body := ["    expect:".toList, "    run \x7b max(a, b) == c \x7d".toList]
  nonneg k := by
    rcases k with _ | _ | _ | k <;> simp [balanceOf] <;> decide
  noLabel := by decide
  labelIndent := .spaces 4
  closingIndent := .spaces 2
  table :=
    { above := [⟨"    // the greater one".toList, by decide⟩]
      header := ⟨.spaces 4, '|', isSeparating_pipe, .ofChar 'a' (by decide),
        [(false, .ofChar 'b' (by decide)), (false, .ofChar '_' (by decide)), (true, .ofChar 'c' (by decide))], by simp⟩
      below :=
        [.row ⟨.spaces 4, '|', isSeparating_pipe, .ofChar '1' (by decide),
          [(true, .ofChar '9' (by decide)), (false, .ofChar '-' (by decide)), (true, .ofChar '9' (by decide))],
            by simp⟩,
        .filler ⟨[], by decide⟩,
        .row ⟨.spaces 4, ';', isSeparating_semicolon, .ofChar '4' (by decide),
          [(false, .ofChar '3' (by decide)), (false, .ofChar '-' (by decide)), (true, .ofChar '4' (by decide))],
            by simp⟩]
      distinct := by decide
      named := ⟨['a'], List.mem_cons_self, by decide⟩
      fits := by
        intro r hr
        simp only [List.mem_cons, TableLine.row.injEq, reduceCtorEq, List.not_mem_nil, or_false, false_or] at hr
        rcases hr with rfl | rfl <;> rfl }

example : maxMethod.lines =
    ["  def \"max\"() \x7b".toList, "    expect:".toList, "    run \x7b max(a, b) == c \x7d".toList,
      "    where:".toList, "    // the greater one".toList, "    a | b | _ || c".toList,
      "    1 || 9 | - || 9".toList, [], "    4 ; 3 ; - ;; 4".toList, "  \x7d".toList] := by
  rfl

/-- The table of the sample method has two iterations, on its lines 6 and 8. -/
theorem iterations_of_maxMethod :
    (∀ x ∈ maxMethod.rows 0, ∀ cell ∈ x.2.cells, tooLong? cell = none) ∧
    (maxMethod.rows 0).map (·.1.number) = [6, 8] ∧
    ∃ block cs,
      findBlock? (maxMethod.lines ++ [['\x7d']]) 0 = some block ∧
      contributions (maxMethod.lines ++ [['\x7d']]) block = .ok cs ∧
      List.Forall₂ (TellsRow "max".toList maxMethod.table.header.row.cells) (maxMethod.rows 0)
        (number "max".toList cs) ∧
      (number "max".toList cs).map Iteration.index = List.range (number "max".toList cs).length ∧
      ∀ x ∈ maxMethod.rows 0, (maxMethod.lines ++ [['\x7d']])[x.1.number]? = some x.1.text := by
  have hshort : ∀ x ∈ maxMethod.rows 0, ∀ cell ∈ x.2.cells, tooLong? cell = none := by decide
  exact ⟨hshort, rfl, iterations_of_table maxMethod [] [['\x7d']] hshort⟩

end SpecAtlas.Source
