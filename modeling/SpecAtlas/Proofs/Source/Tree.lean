import SpecAtlas.Document
import SpecAtlas.Proofs.Source.Finding
import SpecAtlas.Proofs.Source.Iteration
import SpecAtlas.Proofs.Source.WhereBlock

/-!
# The tree of a file

Whatever a file holds, if it can be read at all, its tree fits the lines of the file:

1. there is one specification for each specification heading, in order;
2. the features of a specification stand below its heading and above the next one, in order, on method
   headings that the scan met inside a class and outside of nested regions;
3. no feature has the name of a hook;
4. where a feature has data, its where-block lies below its heading and inside the file, and its
   iterations are numbered from zero and come from lines of the block, in order.

`WellFormedTree` collects these facts; `wellFormed_readSpecifications` proves them for every file.
-/

namespace SpecAtlas

/-- The entry of a document. -/
def Value.entry? (document : Value) (key : String) : Option Value :=
  match document with
  | .map entries => Mapping.get? entries key.toList
  | _ => none

namespace Source

open Text

/-! ## Well-formed trees -/

/-- The numbers of the lines that are specification headings, in order. -/
def classLines (lines : List Text) : List Nat :=
  (lines.zipIdx.filter fun x => declaresClass x.1).map Prod.snd

/-- The data of a feature fit the lines of its file. -/
structure FeatureData.WellFormed (lines : List Text) (f : Feature) (d : FeatureData) : Prop where
  label_below : f.line < d.range.startLine
  label_le_end : d.range.startLine ≤ d.range.endLine
  /-- The last line of the block is a line of the file, and the range reaches up to its end. -/
  last : ∃ text, lines[d.range.endLine]? = some text ∧ d.range.endColumn = text.length
  iterations : ∀ (k : Nat) (i : Iteration), d.iterations[k]? = some i →
    i.index = k ∧ i.method = f.name ∧
      ∃ l text, lines[l]? = some text ∧ i.range = .ofLine l text ∧
        d.range.startLine < l ∧ l ≤ d.range.endLine
  ordered : d.iterations.Pairwise fun a b => a.range.startLine ≤ b.range.startLine

/-- The document of a feature says three times, and alike, whether the feature has data. -/
structure Feature.DocumentAgrees (f : Feature) : Prop where
  flag : f.document.entry? "isDataDriven" = some (.bool f.data.isSome)
  iterations : (f.document.entry? "dataIterations").isSome = f.data.isSome
  range : (f.document.entry? "whereBlockRange").isSome = f.data.isSome

/-- A feature fits the lines of its file. -/
structure Feature.WellFormed (lines : List Text) (f : Feature) : Prop where
  heading : ∃ line heading, lines[f.line]? = some line ∧ MethodHeading.read? (trim line) = some heading ∧
    f.name = heading.name ∧ f.range = .ofLine f.line line
  position : (({} : Position).run (lines.take f.line)).inClass = true ∧
    (({} : Position).run (lines.take f.line)).inNested = false
  notHook : f.name ∉ lifecycleHooks
  data : ∀ d, f.data = some d → d.WellFormed lines f
  document : f.DocumentAgrees

/-- The specifications of a file fit its lines. -/
structure WellFormedTree (lines : List Text) (specs : List Specification) : Prop where
  classes : specs.map Specification.line = classLines lines
  headings : ∀ s ∈ specs, ∃ line, lines[s.line]? = some line ∧
    ClassHeading.read? (trim line) = some ⟨s.name, s.isAbstract⟩ ∧ s.range = .ofLine s.line line
  increasing : ∀ s ∈ specs, (s.features.map Feature.line).Pairwise (· < ·)
  below : ∀ s ∈ specs, ∀ f ∈ s.features, s.line < f.line
  above : specs.Pairwise fun s t => ∀ f ∈ s.features, f.line < t.line
  features : ∀ s ∈ specs, ∀ f ∈ s.features, f.WellFormed lines

/-! ## Specification headings -/

/-- The headings of classes are reported for the lines that declare one, whatever the position. -/
theorem classLines_headingsFrom (p : Position) (index : Nat) (lines : List Text) :
    (headingsFrom p index lines).filterMap Located.classLine? =
      ((lines.zipIdx index).filter fun x => declaresClass x.1).map Prod.snd := by
  induction lines generalizing p index with
  | nil => rfl
  | cons line rest ih =>
      rw [headingsFrom_cons, List.filterMap_append, ih, List.zipIdx_cons]
      cases hd : declaresClass line with
      | true =>
          obtain ⟨h, hh⟩ := Option.isSome_iff_exists.1 hd
          rw [Position.advance_of_class p hh, List.filter_cons_of_pos (by simpa using hd)]
          rfl
      | false =>
          rw [List.filter_cons_of_neg (by simp [hd])]
          cases hheading : (p.advance line).2 with
          | none => rfl
          | some heading =>
              cases heading with
              | method h => rfl
              | specification h =>
                  rw [declaresClass, Position.snd_advance_eq_specification.1 hheading] at hd
                  contradiction

/-! ## Features -/

theorem documentAgrees (f : Feature) : f.DocumentAgrees := by
  obtain ⟨name, line, range, data⟩ := f
  cases data with
  | none => exact ⟨rfl, rfl, rfl⟩
  | some d => exact ⟨rfl, rfl, rfl⟩

/-- A line that begins a where-block is no method heading. -/
theorem read?_whereLabel : MethodHeading.read? whereLabel = none := by decide

/-- The data that a heading gets fit the file. -/
theorem wellFormed_data {lines : List Text} {line : Nat} {heading : MethodHeading} {text : Text}
    (htext : lines[line]? = some text) (hheading : MethodHeading.read? (trim text) = some heading)
    {block : BlockSpan} (hblock : findBlock? lines line = some block) {cs : List Contribution}
    (hcs : contributions lines block = .ok cs) (range : SourceRange) :
    FeatureData.WellFormed lines ⟨heading.name, line, range, some ⟨block.range lines, number heading.name cs⟩⟩
      ⟨block.range lines, number heading.name cs⟩ := by
  obtain ⟨hstart, ⟨label, hlabel, hwhere⟩, hlt, hle⟩ := findBlock?_bounds hblock
  obtain ⟨hlabelLt, -⟩ := List.getElem?_eq_some_iff.1 hlabel
  have hne : line ≠ block.label := by
    intro he
    rw [he, hlabel, Option.some.injEq] at htext
    rw [← htext, hwhere, read?_whereLabel] at hheading
    contradiction
  refine ⟨?_, ?_, ?_, fun k i hk => ?_, ?_⟩
  · show line < block.label
    omega
  · show block.label ≤ min block.close (lines.length - 1)
    omega
  · have hlast : min block.close (lines.length - 1) < lines.length := by omega
    have hget := List.getElem?_eq_getElem hlast
    exact ⟨lines[min block.close (lines.length - 1)], hget, congrArg List.length (getD_of_getElem? hget)⟩
  · obtain ⟨hindex, hmethod, -, own, hmem, hrange⟩ := getElem?_number hk
    obtain ⟨hlow, hhigh, hown⟩ := BlockSpan.mem_body (mem_body_of_mem_data? hcs hmem)
    obtain ⟨hlength, -⟩ := List.getElem?_eq_some_iff.1 hown
    refine ⟨hindex, hmethod, own.number, own.text, hown, hrange, hlow, ?_⟩
    show own.number ≤ min block.close (lines.length - 1)
    omega
  · have hbody := List.pairwise_map.2 (block.pairwise_body lines)
    exact pairwise_number heading.name (hbody.sublist (numbers_of_contributions hcs))

/-- A method heading becomes a feature that fits the file. -/
theorem wellFormed_of_judgement {withData : Bool} {lines : List Text} {located : Located}
    (hmem : located ∈ headings lines) {heading : MethodHeading} (hh : located.heading = .method heading)
    {f : Feature} {cs : List Contribution}
    (hj : Judgement withData lines located.line heading (.feature f cs)) : f.WellFormed lines := by
  obtain ⟨text, htext, hadvance⟩ := mem_headings.1 hmem
  rw [hh] at hadvance
  obtain ⟨-, hin, hnested, hread⟩ := Position.snd_advance_eq_method.1 hadvance
  have hposition := And.intro hin (Position.inNested_of_nestedAt hnested)
  have hrange : lines.getD located.line [] = text := getD_of_getElem? htext
  cases hj with
  | plain hr hblock =>
      exact ⟨⟨text, heading, htext, hread, rfl, by rw [hrange]⟩, hposition,
        not_mem_hooks_of_rejection?_eq_none hr, fun d hd => by contradiction, documentAgrees _⟩
  | withData hr hblock hcs =>
      refine ⟨⟨text, heading, htext, hread, rfl, by rw [hrange]⟩, hposition,
        not_mem_hooks_of_rejection?_eq_none hr, fun d hd => ?_, documentAgrees _⟩
      cases hd
      unfold wantedBlock? at hblock
      split at hblock
      · exact wellFormed_data htext hread hblock hcs _
      · contradiction

/-! ## The whole tree -/

/-- **Every tree fits its file**: whatever the lines of a file hold, if it can be read, the
specifications that are found fit its lines. -/
theorem wellFormed_readSpecifications {withData : Bool} {content : Text} {specs : List Specification}
    {events : List Event} (h : readSpecifications withData content = .ok (specs, events)) :
    WellFormedTree (fileLines content) specs := by
  obtain ⟨fs, hfs, rfl, -⟩ := readSpecifications_eq_ok.1 h
  have hall := forall₂_of_findings hfs
  obtain ⟨-, hmem⟩ := mem_assemble fs
  -- All heading lines of the tree, in the order in which the tree lists them.
  have hsorted : ((assemble fs).2.flatMap Specification.headingLines).Pairwise (· < ·) := by
    have hlines : fs.map Finding.line = (headings (fileLines content)).map Located.line :=
      map_eq_of_forall₂ (hall.imp fun _ _ hf => line_of_finding hf)
    have hheadings : ((headings (fileLines content)).map Located.line).Pairwise (· < ·) :=
      List.pairwise_map.2 (pairwise_headingsFrom {} 0 (fileLines content))
    rw [← hlines] at hheadings
    exact hheadings.sublist ((List.sublist_append_right _ _).trans (assemble_sublist fs))
  rw [List.pairwise_flatMap] at hsorted
  obtain ⟨hwithin, hacross⟩ := hsorted
  refine ⟨?_, fun s hs => ?_, fun s hs => ?_, fun s hs f hf => ?_, ?_, fun s hs f hf => ?_⟩
  · rw [classLines_assemble, classLines_findings hfs, headings, classLines_headingsFrom, classLines]
  · obtain ⟨⟨found, hfound, he⟩, -⟩ := hmem s hs
    obtain ⟨located, hlocated, hfinding⟩ := exists_of_mem_right hall hfound
    obtain ⟨heading, hheading, rfl⟩ := eq_of_finding_specification hfinding
    obtain ⟨text, htext, hadvance⟩ := mem_headings.1 hlocated
    rw [hheading] at hadvance
    rw [he]
    refine ⟨text, htext, Position.snd_advance_eq_specification.1 hadvance, ?_⟩
    show SourceRange.ofLine _ ((fileLines content).getD located.line []) = _
    rw [getD_of_getElem? htext]
  · exact (List.pairwise_cons.1 (hwithin s hs)).2
  · exact (List.pairwise_cons.1 (hwithin s hs)).1 _ (List.mem_map_of_mem hf)
  · refine hacross.imp fun {s t} hst f hf => hst _ ?_ _ List.mem_cons_self
    exact List.mem_cons_of_mem _ (List.mem_map_of_mem hf)
  · obtain ⟨-, hown⟩ := hmem s hs
    obtain ⟨cs, hcs⟩ := hown f hf
    obtain ⟨located, hlocated, hfinding⟩ := exists_of_mem_right hall hcs
    obtain ⟨heading, hheading, hj⟩ := judgement_of_finding_feature hfinding
    exact wellFormed_of_judgement hlocated hheading hj

/-- A class with one feature that has a table of data. -/
def tableFile : Text :=
  ("class A extends Specification \x7b\n  def \"max of #a\"() \x7b\n    expect:\n    f(a) == b\n" ++
    "    where:\n    a | b\n    1 | 2\n    3 | 4\n  \x7d\n\x7d").toList

/-- The first and the last line of the where-block of a feature, and then the index and the line of each iteration. -/
def Feature.places (f : Feature) : List (Nat × Nat) :=
  match f.data with
  | none => []
  | some d => (d.range.startLine, d.range.endLine) :: d.iterations.map fun i => (i.index, i.range.startLine)

theorem wellFormed_tableFile :
    ∃ specs events, readSpecifications true tableFile = .ok (specs, events) ∧
      specs.map Specification.headingLines = [[0, 1]] ∧
      specs.map (fun s => s.features.flatMap Feature.places) = [[(4, 8), (0, 6), (1, 7)]] ∧
      WellFormedTree (fileLines tableFile) specs := by
  have hseen : (readSpecifications true tableFile).toOption.map (fun r => (r.1.map Specification.headingLines,
      r.1.map fun s => s.features.flatMap Feature.places)) = some ([[0, 1]], [[(4, 8), (0, 6), (1, 7)]]) := by
    decide +kernel
  obtain ⟨⟨specs, events⟩, h, hseen⟩ := exists_of_map_toOption hseen
  obtain ⟨hlines, hplaces⟩ := Prod.mk.inj hseen
  exact ⟨specs, events, h, hlines, hplaces, wellFormed_readSpecifications h⟩

end Source

end SpecAtlas
