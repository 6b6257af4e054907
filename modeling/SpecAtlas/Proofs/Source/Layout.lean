import SpecAtlas.Proofs.Source.Finding
import SpecAtlas.Proofs.Source.Relabelling

/-!
# White space around lines

Every rule about a line looks at the trimmed line or counts its braces. So white space around the lines of a
file has no influence on what is found: `withoutEnds` takes the end columns out of ranges, iterations, features
and specifications, and what is left is the same for any two files whose lines agree when they are trimmed
(`readSpecifications_layout`).

Carriage returns at the end of a line do not belong to it, so for line ends of either kind even the end columns
are the same.
-/

namespace SpecAtlas.Source

open Text

/-! ## Without end columns -/

/-- A range without its end column. -/
def SourceRange.withoutEnd (r : SourceRange) : SourceRange := { r with endColumn := 0 }

/-- An iteration without the end column of its line. -/
def Iteration.withoutEnd (i : Iteration) : Iteration := { i with range := i.range.withoutEnd }

/-- The data of a feature without end columns. -/
def FeatureData.withoutEnds (d : FeatureData) : FeatureData :=
  ⟨d.range.withoutEnd, d.iterations.map Iteration.withoutEnd⟩

/-- A feature without end columns. -/
def Feature.withoutEnds (f : Feature) : Feature :=
  { f with range := f.range.withoutEnd, data := f.data.map FeatureData.withoutEnds }

/-- A specification without end columns. -/
def Specification.withoutEnds (s : Specification) : Specification :=
  { s with range := s.range.withoutEnd, features := s.features.map Feature.withoutEnds }

/-- What a statement brings, without the text of its line. -/
def Contribution.withoutText : Contribution → Contribution
  | data line values => data ⟨line.number, []⟩ values
  | c => c

/-- What a heading turns out to be, without end columns. -/
def Finding.withoutEnds : Finding → Finding
  | specification s => specification s.withoutEnds
  | rejected line reason => rejected line reason
  | feature f contributions => feature f.withoutEnds (contributions.map Contribution.withoutText)

/-- The specifications and the events of a file, without end columns. -/
def withoutEnds (r : List Specification × List Event) : List Specification × List Event :=
  (r.1.map Specification.withoutEnds, r.2)

/-- The texts of the lines have no part in the events. -/
theorem filterMap_event?_withoutText (cs : List Contribution) :
    (cs.map Contribution.withoutText).filterMap Contribution.event? = cs.filterMap Contribution.event? := by
  rw [List.filterMap_map]
  refine List.filterMap_congr fun c _ => ?_
  cases c <;> rfl

/-- End columns have no part in the events. -/
theorem Finding.events_withoutEnds (finding : Finding) : finding.withoutEnds.events = finding.events := by
  cases finding with
  | specification | rejected => rfl
  | feature f cs =>
      obtain ⟨name, line, range, data⟩ := f
      cases data with
      | none => rfl
      | some d =>
          simp only [withoutEnds, Feature.withoutEnds, FeatureData.withoutEnds, events, dataEvents, Option.map_some,
            filterMap_event?_withoutText, List.length_map]

theorem assemble_withoutEnds (fs : List Finding) :
    assemble (fs.map Finding.withoutEnds) =
      ((assemble fs).1.map Feature.withoutEnds, (assemble fs).2.map Specification.withoutEnds) := by
  induction fs with
  | nil => rfl
  | cons finding rest ih =>
      cases finding with
      | rejected line reason => exact ih
      | feature f cs => simp only [List.map_cons, Finding.withoutEnds, assemble, ih]
      | specification s =>
          simp only [List.map_cons, Finding.withoutEnds, assemble, ih]
          rfl

/-! ## Lines that keep their numbers -/

section

variable {r : Relabelling} (hnumber : r.number = id)

include hnumber

/-- Other texts of lines change no more than the end columns of the iterations. -/
theorem number_relabelled (method : Text) (cs : List Contribution) :
    (number method (cs.map r.contribution)).map Iteration.withoutEnd = (number method cs).map Iteration.withoutEnd := by
  have hline (l : NumberedLine) : (r.line l).number = l.number := by rw [r.number_line, hnumber, id]
  rw [number, number, r.flatMap_data?_contribution]
  refine List.ext_getElem? fun k => ?_
  simp only [List.getElem?_map, List.getElem?_mapIdx, Option.map_map]
  congr 1
  funext x
  simp [Iteration.withoutEnd, SourceRange.withoutEnd, SourceRange.ofLine, hline]

theorem withoutText_relabelled (cs : List Contribution) :
    (cs.map r.contribution).map Contribution.withoutText = cs.map Contribution.withoutText := by
  rw [List.map_map]
  refine List.map_congr_left fun c _ => ?_
  cases c <;> simp [Relabelling.contribution, Contribution.withoutText, r.number_line, hnumber]

/-- The events of the data are the same. -/
theorem dataEvents_relabelled (method : Text) (cs : List Contribution) :
    dataEvents method (number method (cs.map r.contribution)) (cs.map r.contribution) =
      dataEvents method (number method cs) cs := by
  have hevents : (cs.map r.contribution).filterMap Contribution.event? = cs.filterMap Contribution.event? := by
    rw [← filterMap_event?_withoutText, withoutText_relabelled hnumber, filterMap_event?_withoutText]
  have hlength := congrArg List.length (number_relabelled hnumber method cs)
  rw [List.length_map, List.length_map] at hlength
  rw [dataEvents, dataEvents, hevents, hlength]

end

/-! ## Lines with other white space around them -/

section

variable {f : Text → Text} (hf : ∀ line, trim (f line) = trim line)

include hf

theorem closingLine_map (index : Nat) (lines : List Text) :
    closingLine index (lines.map f) = closingLine index lines := by
  induction lines generalizing index with
  | nil => rfl
  | cons line rest ih => rw [List.map_cons, closingLine, closingLine, hf, ih]

theorem seekBlock_map (index : Nat) (balance : Int) (opened : Bool) (lines : List Text) :
    seekBlock index balance opened (lines.map f) = seekBlock index balance opened lines := by
  induction lines generalizing index balance opened with
  | nil => rfl
  | cons line rest ih =>
      simp only [List.map_cons, seekBlock, hf, braceDelta_congr (hf line), closingLine_map hf, ih]

theorem findBlock?_map (lines : List Text) (start : Nat) :
    findBlock? (lines.map f) start = findBlock? lines start := by
  rw [findBlock?, ← List.map_drop, seekBlock_map hf, findBlock?]

/-- Other white space around a line keeps its content. -/
def respacing : Relabelling where
  line l := ⟨l.number, f l.text⟩
  number := id
  content_line l := congrArg stripComment (hf l.text)
  number_line _ := rfl

theorem contributions_map (lines : List Text) (block : BlockSpan) :
    contributions (lines.map f) block =
      (contributions lines block).map (List.map (respacing hf).contribution) := by
  refine (respacing hf).contributions_of_body ?_
  simp only [BlockSpan.body, ← List.map_drop, ← List.map_take, List.zipIdx_map, List.map_map]
  rfl

/-- A method heading turns out to be the same, end columns apart. -/
theorem judge_map (withData : Bool) (lines : List Text) (line : Nat) (heading : MethodHeading) :
    (judge withData (lines.map f) line heading).map Finding.withoutEnds =
      (judge withData lines line heading).map Finding.withoutEnds := by
  simp only [judge, ← List.map_drop, rejection?_map heading hf, findBlock?_map hf]
  cases rejection? heading (lines.drop (line + 1)) with
  | some reason => rfl
  | none =>
      cases if withData then findBlock? lines line else none with
      | none => rfl
      | some block =>
          simp only [contributions_map hf]
          cases contributions lines block with
          | error e => rfl
          | ok cs =>
              simp only [Except.map, ok_bind, pure, Except.pure, Finding.withoutEnds, Feature.withoutEnds,
                FeatureData.withoutEnds, Option.map_some, number_relabelled (r := respacing hf) rfl,
                withoutText_relabelled (r := respacing hf) rfl, BlockSpan.range, List.length_map]
              rfl

theorem finding_map (withData : Bool) (lines : List Text) (located : Located) :
    (located.finding withData (lines.map f)).map Finding.withoutEnds =
      (located.finding withData lines).map Finding.withoutEnds := by
  obtain ⟨line, heading⟩ := located
  cases heading with
  | specification h => rfl
  | method h => exact judge_map hf withData lines line h

/-- The findings of lines with other white space around them are the same, end columns apart. -/
theorem findingsOf_map (withData : Bool) (lines : List Text) :
    (findingsOf withData (lines.map f)).map (List.map Finding.withoutEnds) =
      (findingsOf withData lines).map (List.map Finding.withoutEnds) := by
  have hheadings : headings (lines.map f) = headings lines := headingsFrom_map_congr {} 0 hf lines
  rw [findingsOf, findingsOf, map_mapM, map_mapM, hheadings]
  exact congrArg (List.mapM · (headings lines)) (funext (finding_map hf withData lines))

end

/-! ## Files -/

/-- The specifications and the events of lines depend on the findings only. -/
theorem readSpecifications_withoutEnds (withData : Bool) (content : Text) :
    (readSpecifications withData content).map withoutEnds =
      ((findingsOf withData (fileLines content)).map (List.map Finding.withoutEnds)).map fun fs =>
        ((assemble fs).2, fs.flatMap Finding.events) := by
  change ((findingsOf withData (fileLines content)) >>= _).map withoutEnds = _
  cases findingsOf withData (fileLines content) with
  | error e => rfl
  | ok fs =>
      simp only [ok_bind, pure, Except.pure, Except.map, withoutEnds, assemble_withoutEnds, List.flatMap_map,
        Finding.events_withoutEnds]

/-- Every line feed gets a carriage return in front of it. -/
def withReturns (content : Text) : Text := content.flatMap fun c => if c = '\n' then ['\r', '\n'] else [c]

/-- Carriage returns in front of line feeds do not belong to the lines. -/
theorem fileLines_withReturns (content : Text) : fileLines (withReturns content) = fileLines content := by
  induction content with
  | nil => rfl
  | cons c content ih =>
      by_cases hc : c = '\n'
      · subst hc
        -- The line that ends here has nothing left of its carriage return.
        have hline : fileLines (withReturns ('\n' :: content)) = [] :: fileLines (withReturns content) := rfl
        rw [hline, ih]
        rfl
      · have hhead : withReturns (c :: content) = c :: withReturns content := by simp [withReturns, hc]
        obtain ⟨first, rest, hpieces⟩ := List.exists_cons_of_ne_nil (pieces_ne_nil '\n' content)
        obtain ⟨first', rest', hpieces'⟩ := List.exists_cons_of_ne_nil (pieces_ne_nil '\n' (withReturns content))
        simp only [fileLines, lines, hpieces, hpieces', List.map_cons, List.cons.injEq] at ih
        simp only [fileLines, lines, hhead, pieces, if_neg hc, hpieces, hpieces', List.map_cons, dropReturns,
          dropRight_cons]
        rw [dropReturns] at ih
        rw [ih.1, ih.2]
        rfl

/-- **Layout has no influence**: files whose lines agree when they are trimmed have the same specifications and the
same events, end columns apart, or are refused alike; and with carriage returns in front of its line feeds a file
has just the specifications and the events that it has without them. -/
theorem readSpecifications_layout (withData : Bool) (content : Text) :
    (∀ other, (lines other).map trim = (lines content).map trim →
      (readSpecifications withData other).map withoutEnds = (readSpecifications withData content).map withoutEnds) ∧
    readSpecifications withData (withReturns content) = readSpecifications withData content := by
  constructor
  · intro other hlines
    have htrimmed (text : Text) : (fileLines text).map trim = (lines text).map trim := by
      rw [fileLines, List.map_map]
      exact List.map_congr_left fun line _ => trim_dropReturns line
    have hboth : (fileLines other).map trim = (fileLines content).map trim := by rw [htrimmed, htrimmed, hlines]
    -- Both files have the findings of their trimmed lines.
    have hfindings := findingsOf_map trim_trim withData (fileLines other)
    rw [hboth, findingsOf_map trim_trim withData (fileLines content)] at hfindings
    rw [readSpecifications_withoutEnds, readSpecifications_withoutEnds, hfindings]
  · rw [readSpecifications, readSpecifications, findings, findings, fileLines_withReturns]

/-- A class with a feature that takes its data from a list over two lines. -/
def tightLines : List Text :=
  ["class A extends Specification \x7b".toList, "def \"max of #a\"() \x7b".toList, "where:".toList, "a << [1,".toList,
    "2]".toList, "\x7d".toList, "\x7d".toList]

/-- The same class with white space around its lines. -/
def looseLines : List Text :=
  ["class A extends Specification \x7b  ".toList, "  def \"max of #a\"() \x7b".toList, "\twhere:\t".toList,
    "    a << [1,".toList, "          2] ".toList, "  \x7d".toList, " \x7d\r".toList]

theorem readSpecifications_looseLines :
    (lines (join ['\n'] looseLines)).map trim = (lines (join ['\n'] tightLines)).map trim ∧
    (readSpecifications true (join ['\n'] tightLines)).toOption.map (fun r => r.1.map (·.range.endColumn)) =
      some [31] ∧
    (readSpecifications true (join ['\n'] looseLines)).toOption.map (fun r => r.1.map (·.range.endColumn)) =
      some [33] ∧
    (readSpecifications true (join ['\n'] looseLines)).map withoutEnds =
      (readSpecifications true (join ['\n'] tightLines)).map withoutEnds := by
  have hlines : (lines (join ['\n'] looseLines)).map trim = (lines (join ['\n'] tightLines)).map trim := by decide
  exact ⟨hlines, by decide +kernel, by decide +kernel, (readSpecifications_layout true _).1 _ hlines⟩

end SpecAtlas.Source
