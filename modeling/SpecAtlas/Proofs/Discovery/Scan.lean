import SpecAtlas.Discovery.Scan
import SpecAtlas.Proofs.File.Tree
import SpecAtlas.Proofs.Source.Acceptance
import SpecAtlas.Proofs.Source.DataTable
import SpecAtlas.Proofs.Source.Refusal

/-!
# When a scan has no result

A file that cannot be opened costs no other file: it is reported, and the scan goes on. A file with a
number or a range that is too long among its data is refused, and with it the whole scan, since the refusal
of one file is not caught; so is a path that no file can have. `scanFiles_refused_iff` gives the exact
condition for one file and for a scan; `refused_longNumberFile` is the smallest kind of file that is refused.
-/

namespace SpecAtlas.Discovery

open File Source Text Literal

/-- The data of the file at a path, seen from the directory `cwd`; a file that is not read has none. -/
def pathData (root : Node) (cwd : FilePath) (withData : Bool) (path : FilePath) : List Datum :=
  match root.readLossy cwd path with
  | .error _ => []
  | .ok content => fileData withData content

/-- What a scan can be refused for. -/
inductive Culprit where
  | path (p : FilePath)
  | datum (d : Datum)

/-- The fault of a path or a datum. -/
def Culprit.fault? : Culprit → Option Fault
  | path p => if p.hasNull then some .nullCharacter else none
  | datum d => d.refusal?.map refusalFault

theorem Culprit.fault?_path {p : FilePath} : fault? (.path p) = none ↔ p.hasNull = false := by simp [fault?]

theorem Culprit.fault?_datum {d : Datum} : fault? (.datum d) = none ↔ d.refusal? = none := Option.map_eq_none_iff

/-- What the scan of a path can be refused for: the path, and then the data of its file. -/
def culprits (root : Node) (cwd : FilePath) (withData : Bool) (path : FilePath) : List Culprit :=
  .path path :: (pathData root cwd withData path).map .datum

/-- The scan of one file is refused for its path and its data. -/
theorem refusedFor_scanFile (root : Node) (cwd : FilePath) (withData : Bool) (path : FilePath) :
    RefusedFor Culprit.fault? (culprits root cwd withData path) (scanFile root cwd withData path) := by
  have hnull := @Node.readLossy_eq_nullCharacter root cwd path
  unfold culprits pathData scanFile
  cases hread : root.readLossy cwd path with
  | error unread =>
      cases unread with
      | obstacle o => simp_all [RefusedFor, Culprit.fault?]
      | nullCharacter => simp [RefusedFor, Culprit.fault?, hnull.1 hread]
  | ok content =>
      have hfine : Culprit.fault? (.path path) = none :=
        Culprit.fault?_path.2 (Bool.eq_false_iff.2 fun h => by simp [hnull.2 h] at hread)
      have hdata : RefusedFor Culprit.fault? ((fileData withData content).map .datum)
          ((readSpecifications withData content).mapError refusalFault) :=
        (refusedFor_readSpecifications withData content).mapError fun _ => rfl
      intro fault
      rw [List.findSome?_cons_of_isNone (by simp [hfine])]
      exact hdata.map (fun r => Scanned.read ⟨path, r.1⟩ r.2) fault

/-- A scan is refused for the paths and the data of its files, in order. -/
theorem refusedFor_scanFiles (root : Node) (cwd : FilePath) (withData : Bool) (paths : List FilePath) :
    RefusedFor Culprit.fault? (paths.flatMap (culprits root cwd withData)) (scanFiles root cwd withData paths) :=
  RefusedFor.mapM fun path _ => refusedFor_scanFile root cwd withData path

/-! ## A file that is refused -/

/-- The data of an accepted method with a table are the cells of its rows, but for the columns without data. -/
theorem data_tabled (m : TabledMethod) (before after : List Text) {heading : MethodHeading}
    (haccept : rejection? heading ((before ++ (m.lines ++ after)).drop (before.length + 1)) = none) :
    Located.data true (before ++ (m.lines ++ after)) ⟨before.length, .method heading⟩ =
      (m.rows before.length).flatMap fun x => scalarData (rowScalars m.table.header.row.cells x.2.cells) := by
  have hrows (rows : List (NumberedLine × WrittenRow)) (header : List Text) :
      blockData (some header) (rows.map rowStatement) =
        rows.flatMap fun x => scalarData (rowScalars header x.2.cells) := by
    induction rows with
    | nil => rfl
    | cons x rows ih => rw [List.map_cons, rowStatement, blockData, ih, List.flatMap_cons]
  have hblock : wantedBlock? true (before ++ (m.lines ++ after)) before.length = some (m.block before.length) :=
    m.findBlock?_lines before after
  simp only [Located.data, haccept, Option.isSome_none, Bool.false_eq_true, if_false, hblock,
    m.statements_lines, blockData, hrows]

/-- A number of 4301 digits. -/
def longNumber : Text := List.replicate 4301 '1'

theorem eq_of_mem_longNumber {c : Char} (h : c ∈ longNumber) : c = '1' := (List.mem_replicate.1 h).2

theorem longNumber_ne_nil : longNumber ≠ [] := List.length_pos_iff.1 (by rw [longNumber, List.length_replicate]; decide)

theorem isWhole_longNumber : isWhole longNumber = true := by
  refine isWhole_iff.2 ⟨longNumber, longNumber_ne_nil, List.all_eq_true.2 fun c hc => ?_, .inl rfl⟩
  rw [eq_of_mem_longNumber hc]
  decide

/-- The number is too long to be read. -/
theorem tooLong?_longNumber : tooLong? longNumber = some ⟨4301⟩ := by
  have hcount : longNumber.countP Text.isDigit = 4301 := by
    rw [longNumber, List.countP_replicate]
    rfl
  rw [tooLong?, trim_of_isWhole isWhole_longNumber, isWhole_longNumber, hcount]
  rfl

/-- A cell with the number. -/
def longNumberCell : Cell where
  text := longNumber
  nonempty := longNumber_ne_nil
  trimmed := trim_of_isWhole isWhole_longNumber
  plain c hc hm := by
    rw [eq_of_mem_longNumber hm] at hc
    contradiction

/-- A method with a table of one row, in which the number stands. -/
def longNumberMethod : TabledMethod where
  indent := .spaces 2
  quote := .double
  name := "m".toList
  noOpening := by decide
  noClosing := by decide
  body := []
  nonneg := by simp
  noLabel := by simp
  labelIndent := .spaces 4
  closingIndent := .spaces 2
  table :=
    { above := []
      header := ⟨.spaces 4, '|', isSeparating_pipe, .ofChar 'x' (by decide), [(false, .ofChar 'y' (by decide))], by simp⟩
      below := [.row ⟨.spaces 4, '|', isSeparating_pipe, longNumberCell, [(false, .ofChar '2' (by decide))], by simp⟩]
      distinct := by decide
      named := ⟨['x'], List.mem_cons_self, by decide⟩
      fits := by
        intro r hr
        rw [List.mem_singleton, TableLine.row.injEq] at hr
        rw [hr]
        rfl }

/-- The heading of a class with this method. -/
def longNumberClass : Text := "class A extends Specification \x7b".toList

/-- The lines of a class with this method. -/
def longNumberLines : List Text := [longNumberClass] ++ (longNumberMethod.lines ++ [['\x7d']])

theorem longNumberLines_eq :
    longNumberLines = [longNumberClass, "  def \"m\"() \x7b".toList, "    where:".toList, "    x | y".toList,
      "    ".toList ++ (longNumber ++ " | 2".toList), "  \x7d".toList, ['\x7d']] := by
  rfl

theorem fileLines_longNumber : fileLines (join ['\n'] longNumberLines) = longNumberLines := by
  have hdigits : '\n' ∉ longNumber := fun hm => absurd (eq_of_mem_longNumber hm) (by decide)
  have hlong : '\n' ∉ "    ".toList ++ (longNumber ++ " | 2".toList) := by simp [hdigits]
  have hlast : ("    ".toList ++ (longNumber ++ " | 2".toList)).getLast? = some '2' := by
    rw [← List.append_assoc, List.getLast?_append_of_ne_nil _ (by decide)]
    rfl
  have hkeep : dropReturns ("    ".toList ++ (longNumber ++ " | 2".toList)) =
      "    ".toList ++ (longNumber ++ " | 2".toList) :=
    dropRight_of_getLast fun c hc => Option.some.inj (hlast.symm.trans hc) ▸ rfl
  have honeLine : ∀ line ∈ longNumberLines, '\n' ∉ line := by
    rw [longNumberLines_eq]
    simp only [List.forall_mem_cons, hlong]
    decide
  have hne : longNumberLines ≠ [] := List.cons_ne_nil _ _
  rw [fileLines_join hne honeLine, longNumberLines_eq]
  simp only [List.map_cons, List.map_nil, hkeep]
  rfl

/-- The number is among the data of the file. -/
theorem longNumber_mem_fileData : .scalar longNumber ∈ fileData true (join ['\n'] longNumberLines) := by
  have hheading : (⟨1, .method ⟨"m".toList, true, true⟩⟩ : Located) ∈ headings longNumberLines := by
    refine mem_headings.2 ⟨"  def \"m\"() \x7b".toList, rfl, ?_⟩
    have hadvance : ((({} : Position).run [longNumberClass]).advance "  def \"m\"() \x7b".toList).2 =
        some (.method ⟨"m".toList, true, true⟩) := by
      decide
    exact hadvance
  have haccept : rejection? ⟨"m".toList, true, true⟩ (longNumberLines.drop 2) = none :=
    rejection?_quoted (by decide) rfl rfl _
  have hdata : Located.data true longNumberLines ⟨1, .method ⟨"m".toList, true, true⟩⟩ =
      (longNumberMethod.rows 1).flatMap fun x => scalarData (rowScalars ["x".toList, "y".toList] x.2.cells) :=
    data_tabled longNumberMethod [longNumberClass] [['\x7d']] haccept
  have hrow : longNumber ∈ rowScalars ["x".toList, "y".toList] [longNumber, "2".toList] := by
    simp [rowScalars, placeholderColumn]
  rw [fileData, fileLines_longNumber]
  refine List.mem_flatMap.2 ⟨_, hheading, ?_⟩
  rw [hdata]
  exact List.mem_flatMap.2 ⟨_, List.mem_cons_self, List.mem_map_of_mem hrow⟩

/-! ## The condition -/

/-- **What ends a scan**: without data every file has specifications. With data a file has specifications
exactly if among its data no scalar is too long a number and no range has too many elements, and otherwise it
is refused for the first that is; a scan of files has a result exactly if this holds of all files that can be
opened and no path holds a null character, and otherwise it is refused for the first fault of the first such
path. -/
theorem scanFiles_refused_iff (content : Text) (root : Node) (cwd : FilePath) (withData : Bool)
    (paths : List FilePath) :
    (∃ specs events, readSpecifications false content = .ok (specs, events)) ∧
    ((∃ r, readSpecifications withData content = .ok r) ↔ ∀ datum ∈ fileData withData content, datum.refusal? = none) ∧
    (∀ e, readSpecifications withData content = .error e ↔
      (fileData withData content).findSome? Datum.refusal? = some e) ∧
    ((∃ scan, scanFiles root cwd withData paths = .ok scan) ↔
      ∀ path ∈ paths, path.hasNull = false ∧ ∀ datum ∈ pathData root cwd withData path, datum.refusal? = none) ∧
    ∀ fault, scanFiles root cwd withData paths = .error fault ↔
      (paths.flatMap (culprits root cwd withData)).findSome? Culprit.fault? = some fault := by
  have hread := refusedFor_readSpecifications withData content
  have hscan := refusedFor_scanFiles root cwd withData paths
  refine ⟨?_, hread.exists_ok_iff, hread, ?_, hscan⟩
  · have hplain := (refusedFor_readSpecifications false content).exists_ok_iff
    rw [fileData_false] at hplain
    obtain ⟨⟨specs, events⟩, h⟩ := hplain.2 (by simp)
    exact ⟨specs, events, h⟩
  · rw [hscan.exists_ok_iff]
    simp only [List.mem_flatMap, culprits, List.mem_cons, List.mem_map]
    constructor
    · intro h path hp
      exact ⟨Culprit.fault?_path.1 (h _ ⟨path, hp, .inl rfl⟩),
        fun datum hd => Culprit.fault?_datum.1 (h _ ⟨path, hp, .inr ⟨datum, hd, rfl⟩⟩)⟩
    · rintro h culprit ⟨path, hp, rfl | ⟨datum, hd, rfl⟩⟩
      · exact Culprit.fault?_path.2 (h path hp).1
      · exact Culprit.fault?_datum.2 ((h path hp).2 datum hd)

/-- A well-formed file can be refused. -/
theorem refused_longNumberFile :
    ¬ ∃ specs events, readSpecifications true (join ['\n'] longNumberLines) = .ok (specs, events) := by
  rintro ⟨specs, events, hok⟩
  have hread := (refusedFor_readSpecifications true (join ['\n'] longNumberLines)).exists_ok_iff
  have hnone := hread.1 ⟨_, hok⟩ (.scalar longNumber) longNumber_mem_fileData
  rw [Datum.refusal?, tooLong?_longNumber] at hnone
  exact Option.some_ne_none _ hnone

end SpecAtlas.Discovery
