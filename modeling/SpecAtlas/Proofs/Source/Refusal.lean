import SpecAtlas.Proofs.Source.Element
import SpecAtlas.Proofs.Source.Finding

/-!
# What a file is refused for

Reading a file can fail in two ways only: a scalar that is read as data is a whole number with too many
digits, or a range has more numbers than a list can hold. `fileData` lists what can be refused, in the order
in which it is read:

1. of an element of a list, its items in turn, the arguments of a record, or itself;
2. of the right-hand side of a pipe, the elements of a list, or the two bounds of a range and then the range;
3. of a row below the header, the cells of the columns that carry data;
4. of a file, what the where-blocks of its features hold, and nothing if no data are wanted.

For every reader there is one lemma that it is refused for its data, up to the whole file
(`refusedFor_readSpecifications`).
-/

namespace SpecAtlas.Source

open Text Literal

/-! ## Data -/

/-- The number of elements of a range whose bounds can be read. -/
def Range.size? (r : Range) : Option Nat :=
  match Numeral.readInt r.low, Numeral.readInt r.high with
  | .ok low, .ok high => some (Range.size r.isOpen low high)
  | _, _ => none

/-- What is read as data and can be refused. -/
inductive Datum where
  | scalar (token : Text)
  /-- A range, once its bounds have been read. -/
  | range (r : Range)

/-- The refusal of a datum: a whole number has more digits, or a range more elements, than can be had. -/
def Datum.refusal? : Datum → Option Refusal
  | scalar token => (tooLong? token).map .longNumeral
  | range r => (r.size?.filter (Range.limit < ·)).map .longRange

/-- Scalars as data. -/
def scalarData (scalars : List Text) : List Datum := scalars.map .scalar

/-- A reader of scalars is a reader of data. -/
theorem refusedFor_scalarData {α : Type} {scalars : List Text} {x : Except LongNumeral α}
    (hx : RefusedFor tooLong? scalars x) :
    RefusedFor Datum.refusal? (scalarData scalars) (x.mapError .longNumeral) := hx.mapError fun _ => rfl

/-! ## Elements -/

/-- The scalars of a record that two arguments make. -/
def recordScalars (arguments : List Text) : List Text :=
  let named := arguments.filterMap namedArgument?
  (if named.length = arguments.length then named else recordFields.zip arguments).map Prod.snd

/-- The scalars of an element. -/
def elementScalars (token : Text) : List Text :=
  match constructorArguments? (trim token) with
  | some arguments =>
    let arguments := (items arguments).map trim
    if arguments.length = 2 then recordScalars arguments else []
  | none =>
    match h : bracketed? (trim token) with
    | some inner => (items inner).attach.flatMap fun ⟨item, hi⟩ =>
        have : item.length < token.length :=
          Nat.lt_of_le_of_lt (length_le_of_mem_items hi)
            (Nat.lt_of_lt_of_le (length_lt_of_bracketed? h) (length_trim_le token))
        elementScalars item
    | none => [trim token]
termination_by token.length

/-- The data of a range. -/
def Range.data (r : Range) : List Datum := [.scalar r.low, .scalar r.high, .range r]

/-- The data of the right-hand side of a pipe. -/
def expressionData (expression : Text) : List Datum :=
  match Range.read? (trim expression) with
  | some range => range.data
  | none =>
    match bracketed? (trim expression) with
    | some inner => scalarData ((items inner).flatMap elementScalars)
    | none => []

theorem refusedFor_record (arguments : List Text) :
    RefusedFor tooLong? (recordScalars arguments) (record arguments) := by
  unfold record recordScalars
  dsimp only
  generalize (if (arguments.filterMap namedArgument?).length = arguments.length
    then arguments.filterMap namedArgument? else recordFields.zip arguments) = fields
  have hfields : RefusedFor tooLong? (fields.flatMap fun f => [f.2])
      (fields.mapM fun f => do return (f.1, ← coerce f.2)) :=
    RefusedFor.mapM fun f _ => (refusedFor_coerce f.2).map fun v => (f.1, v)
  rw [List.map_eq_flatMap]
  exact hfields.map _

/-- An element is refused for its scalars. -/
theorem refusedFor_readElement (token : Text) : RefusedFor tooLong? (elementScalars token) (readElement token) := by
  fun_induction elementScalars token with
  | case1 token arguments hc pieces hlength =>
      rw [readElement, hc]
      simp only [pieces] at hlength
      simp only [hlength, if_true]
      exact refusedFor_record pieces
  | case2 token arguments hc pieces hlength =>
      rw [readElement, hc]
      simp only [pieces] at hlength
      simp only [hlength, if_false]
      exact .ok _
  | case3 token hc inner hb ih =>
      rw [readElement_list hc hb, List.flatMap_subtype fun _ _ => rfl, List.unattach_attach]
      exact (RefusedFor.mapM ih).map _
  | case4 token hc hb =>
      rw [readElement_scalar hc hb]
      exact refusedFor_coerce (trim token)

/-! ## Pipes and rows -/

/-- The bounds of a range are whole numbers. -/
theorem isWhole_of_rangeRead? {text : Text} {range : Range} (h : Range.read? text = some range) :
    isWhole range.low = true ∧ isWhole range.high = true := by
  unfold Range.read? at h
  obtain ⟨⟨low, rest⟩, hlow, h⟩ := Option.bind_eq_some_iff.1 h
  obtain ⟨rest, -, h⟩ := Option.bind_eq_some_iff.1 h
  obtain ⟨⟨high, rest'⟩, hhigh, h⟩ := Option.bind_eq_some_iff.1 h
  dsimp only at h
  split at h
  · cases h
    exact ⟨isWhole_of_takeSigned? hlow, isWhole_of_takeSigned? hhigh⟩
  · cases h
    exact ⟨isWhole_of_takeSigned? hlow, isWhole_of_takeSigned? hhigh⟩
  · contradiction

/-- A range is refused for its bounds and then for its size. -/
theorem refusedFor_values {text : Text} {range : Range} (h : Range.read? text = some range) :
    RefusedFor Datum.refusal? range.data range.values := by
  obtain ⟨hlow, hhigh⟩ := isWhole_of_rangeRead? h
  have hbound {token : Text} (hw : isWhole token = true) :
      RefusedFor Datum.refusal? [.scalar token] ((Numeral.readInt token).mapError .longNumeral) :=
    refusedFor_scalarData (refusedFor_readInt hw)
  refine (hbound hlow).bind fun low hl => (hbound hhigh).bind fun high hh => ?_
  have hsize : range.size? = some (Range.size range.isOpen low high) := by
    rw [Range.size?, mapError_eq_ok.1 hl, mapError_eq_ok.1 hh]
  intro e
  dsimp only
  by_cases hlong : Range.limit < Range.size range.isOpen low high
  · simp [Datum.refusal?, hsize, hlong]
  · simp [Datum.refusal?, hsize, hlong, pure, Except.pure]

/-- The right-hand side of a pipe is refused for its data. -/
theorem refusedFor_elements {expression : Text} {elements : Except Refusal (List Value)}
    (h : elements? expression = some elements) :
    RefusedFor Datum.refusal? (expressionData expression) elements := by
  unfold elements? at h
  unfold expressionData
  cases hrange : Range.read? (trim expression) with
  | some range =>
      rw [hrange] at h
      obtain rfl := Option.some.inj h
      exact refusedFor_values hrange
  | none =>
      rw [hrange] at h
      obtain ⟨inner, hinner, rfl⟩ := Option.map_eq_some_iff.1 h
      rw [hinner]
      exact refusedFor_scalarData (RefusedFor.mapM fun item _ => refusedFor_readElement item)

/-- An expression that is not read as a list has no data. -/
theorem expressionData_of_none {expression : Text} (h : elements? expression = none) :
    expressionData expression = [] := by
  unfold elements? at h
  unfold expressionData
  cases hrange : Range.read? (trim expression) with
  | some range =>
      rw [hrange] at h
      contradiction
  | none =>
      rw [hrange] at h
      rw [Option.map_eq_none_iff.1 h]

/-- The scalars of a row: the cells of the columns that carry data. -/
def rowScalars (header cells : List Text) : List Text :=
  ((header.zip cells).filter (·.1 ≠ placeholderColumn)).map Prod.snd

/-- A row is refused for its scalars. -/
theorem refusedFor_rowValues (header cells : List Text) :
    RefusedFor tooLong? (rowScalars header cells) (rowValues header cells) := by
  have hnamed : RefusedFor tooLong? (((header.zip cells).filter (·.1 ≠ placeholderColumn)).flatMap fun x => [x.2])
      (((header.zip cells).filter (·.1 ≠ placeholderColumn)).mapM
        fun x => do return (x.1, ← coerce x.2)) :=
    RefusedFor.mapM fun x _ => (refusedFor_coerce x.2).map fun v => (x.1, v)
  rw [rowScalars, List.map_eq_flatMap]
  exact hnamed.map Mapping.ofList

/-! ## Where-blocks -/

/-- The data of the statements of a where-block, under the header that has been read. -/
def blockData : Option (List Text) → List Statement → List Datum
  | _, [] => []
  | header, .pipe _ _ expression :: rest => expressionData expression ++ blockData header rest
  | none, .row _ cells :: rest => blockData (some cells) rest
  | some columns, .row _ cells :: rest => scalarData (rowScalars columns cells) ++ blockData (some columns) rest

/-- The statements of a where-block are refused for their data. -/
theorem refusedFor_contributionsFrom (header : Option (List Text)) (statements : List Statement) :
    RefusedFor Datum.refusal? (blockData header statements) (contributionsFrom header statements) := by
  fun_induction blockData header statements with
  | case1 header =>
      rw [contributionsFrom.eq_def]
      exact .ok []
  | case2 header line targets expression rest ih =>
      rw [contributionsFrom]
      cases helements : elements? expression with
      | none =>
          rw [expressionData_of_none helements]
          exact ih.map (.unreadable line.number expression :: ·)
      | some elements =>
          refine (refusedFor_elements helements).bind fun items _ => ?_
          exact ih.map (.data line (items.map targets.bind) :: ·)
  | case3 line cells rest ih =>
      rw [contributionsFrom]
      exact ih.map (.header line.number cells :: ·)
  | case4 columns line cells rest ih =>
      rw [contributionsFrom]
      refine (refusedFor_scalarData (refusedFor_rowValues columns cells)).bind fun values _ => ?_
      exact ih.map (.data line (if values.isEmpty then [] else [values]) :: ·)

/-! ## Files -/

/-- The data that are read for a heading: those of the where-block of a feature. -/
def Located.data (withData : Bool) (lines : List Text) (located : Located) : List Datum :=
  match located.heading with
  | .specification _ => []
  | .method h =>
    if (rejection? h (lines.drop (located.line + 1))).isSome then []
    else
      match wantedBlock? withData lines located.line with
      | some block => blockData none (statements (block.body lines))
      | none => []

/-- The data of a file. -/
def fileData (withData : Bool) (content : Text) : List Datum :=
  (headings (fileLines content)).flatMap (·.data withData (fileLines content))

/-- A heading is refused for the data of its where-block. -/
theorem refusedFor_finding (withData : Bool) (lines : List Text) (located : Located) :
    RefusedFor Datum.refusal? (located.data withData lines) (located.finding withData lines) := by
  obtain ⟨line, heading⟩ := located
  cases heading with
  | specification h => exact .ok _
  | method h =>
      simp only [Located.data, Located.finding, judge]
      cases rejection? h (lines.drop (line + 1)) with
      | some reason => exact .ok _
      | none =>
          simp only [wantedBlock?, Option.isSome_none, Bool.false_eq_true, if_false]
          cases (if withData then findBlock? lines line else none) with
          | none => exact .ok _
          | some block => exact (refusedFor_contributionsFrom none (statements (block.body lines))).map _

/-- **A file is refused for its data**, and for nothing else. -/
theorem refusedFor_readSpecifications (withData : Bool) (content : Text) :
    RefusedFor Datum.refusal? (fileData withData content) (readSpecifications withData content) :=
  (RefusedFor.mapM fun located _ => refusedFor_finding withData (fileLines content) located).map _

/-- No data are read if none are wanted. -/
theorem fileData_false (content : Text) : fileData false content = [] := by
  refine List.flatMap_eq_nil_iff.2 fun located _ => ?_
  obtain ⟨line, heading⟩ := located
  cases heading <;> simp [Located.data, wantedBlock?]

end SpecAtlas.Source
