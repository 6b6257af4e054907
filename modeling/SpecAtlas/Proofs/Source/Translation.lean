import SpecAtlas.Proofs.Source.Finding
import SpecAtlas.Proofs.Source.Relabelling
import SpecAtlas.Proofs.Source.WhereBlock

/-!
# Moving lines down

What the readers of a file find does not depend on where in the file it stands: lines put above move
all line numbers down and change nothing else. `shift n` moves down by `n` lines whatever holds line
numbers, from a range to a whole specification, and for every reader there is one lemma that `shift`
commutes with it.

The scan alone looks back, through its position. It looks no further back than the last
specification heading, so where one begins the second part of a file, or where none stands in the
first, the second part is read as if it were a file of its own (`readSpecifications_below`).
-/

namespace SpecAtlas.Source

open Text

/-! ## What is moved -/

/-- A range that stands `n` lines further down. -/
def SourceRange.shift (n : Nat) (r : SourceRange) : SourceRange :=
  { r with startLine := r.startLine + n, endLine := r.endLine + n }

/-- A where-block that stands `n` lines further down. -/
def BlockSpan.shift (n : Nat) (block : BlockSpan) : BlockSpan := ⟨block.label + n, block.close + n⟩

/-- A line that stands `n` lines further down. -/
def NumberedLine.shift (n : Nat) (line : NumberedLine) : NumberedLine := { line with number := line.number + n }

/-- What a statement brings that begins `n` lines further down. -/
def Contribution.shift (n : Nat) : Contribution → Contribution
  | header line columns => header (line + n) columns
  | unreadable line expression => unreadable (line + n) expression
  | data line values => data (line.shift n) values

/-- Moving down as a change of lines. -/
def shifting (n : Nat) : Relabelling := ⟨NumberedLine.shift n, (· + n), fun _ => rfl, fun _ => rfl⟩

theorem contribution_shifting (n : Nat) : (shifting n).contribution = Contribution.shift n := by
  funext c
  cases c <;> rfl

/-- An iteration that stands `n` lines further down. -/
def Iteration.shift (n : Nat) (i : Iteration) : Iteration := { i with range := i.range.shift n }

/-- The data of a feature that stands `n` lines further down. -/
def FeatureData.shift (n : Nat) (d : FeatureData) : FeatureData :=
  ⟨d.range.shift n, d.iterations.map (Iteration.shift n)⟩

/-- A feature that stands `n` lines further down. -/
def Feature.shift (n : Nat) (f : Feature) : Feature :=
  { f with line := f.line + n, range := f.range.shift n, data := f.data.map (FeatureData.shift n) }

/-- A specification that stands `n` lines further down. -/
def Specification.shift (n : Nat) (s : Specification) : Specification :=
  { s with line := s.line + n, range := s.range.shift n, features := s.features.map (Feature.shift n) }

/-- A heading that stands `n` lines further down. -/
def Located.shift (n : Nat) (located : Located) : Located := { located with line := located.line + n }

/-- What a heading turns out to be that stands `n` lines further down. -/
def Finding.shift (n : Nat) : Finding → Finding
  | specification s => specification (s.shift n)
  | rejected line reason => rejected (line + n) reason
  | feature f contributions => feature (f.shift n) (contributions.map (Contribution.shift n))

/-! ## Headings -/

theorem headingsFrom_shift (p : Position) (index n : Nat) (lines : List Text) :
    headingsFrom p (index + n) lines = (headingsFrom p index lines).map (Located.shift n) := by
  induction lines generalizing p index with
  | nil => rfl
  | cons line rest ih =>
      have hnext : index + n + 1 = index + 1 + n := by omega
      rw [headingsFrom_cons, headingsFrom_cons, List.map_append, hnext, ih]
      cases (p.advance line).2 with
      | none => rfl
      | some heading => rfl

/-- A specification heading makes the scan forget where it came from. -/
theorem headingsFrom_of_class {line : Text} (h : declaresClass line = true) (p q : Position) (index : Nat)
    (rest : List Text) : headingsFrom p index (line :: rest) = headingsFrom q index (line :: rest) := by
  obtain ⟨heading, hh⟩ := Option.isSome_iff_exists.1 h
  rw [headingsFrom_cons, headingsFrom_cons, Position.advance_of_class p hh, Position.advance_of_class q hh]

/-- The second part of a file does not depend on the first: it begins with a specification heading, or
the first part has none. -/
def StartsAfresh (above below : List Text) : Prop :=
  (∃ line ∈ below.head?, declaresClass line = true) ∨ ∀ line ∈ above, declaresClass line = false

/-- The headings of a file in two parts are those of the first part and then those of the second,
moved down. -/
theorem headings_append {above below : List Text} (h : StartsAfresh above below) :
    headings (above ++ below) = headings above ++ (headings below).map (Located.shift above.length) := by
  have hposition : headingsFrom (({} : Position).run above) (0 + above.length) below =
      headingsFrom {} (0 + above.length) below := by
    cases h with
    | inl hclass =>
        obtain ⟨line, hhead, hline⟩ := hclass
        obtain ⟨rest, rfl⟩ := List.head?_eq_some_iff.1 hhead
        exact headingsFrom_of_class hline _ _ _ rest
    | inr hnone => rw [Position.run_outside hnone rfl]
  rw [headings, headingsFrom_append, hposition, headingsFrom_shift]
  rfl

/-! ## Where-blocks -/

theorem closingLine_shift (index n : Nat) (lines : List Text) :
    closingLine (index + n) lines = closingLine index lines + n := by
  induction lines generalizing index with
  | nil => rfl
  | cons line rest ih =>
      have hnext : index + n + 1 = index + 1 + n := by omega
      rw [closingLine, closingLine, hnext, ih]
      split <;> rfl

theorem seekBlock_shift (index n : Nat) (balance : Int) (opened : Bool) (lines : List Text) :
    seekBlock (index + n) balance opened lines =
      (seekBlock index balance opened lines).map (BlockSpan.shift n) := by
  induction lines generalizing index balance opened with
  | nil => rfl
  | cons line rest ih =>
      have hnext : index + n + 1 = index + 1 + n := by omega
      simp only [seekBlock, hnext, closingLine_shift, ih]
      split
      · rfl
      · split <;> rfl

section

variable (above below : List Text)

theorem drop_append_length (k : Nat) : (above ++ below).drop (k + above.length) = below.drop k := by
  rw [Nat.add_comm, List.drop_append, List.drop_of_length_le (by omega)]
  simp

theorem getD_append_length (k : Nat) : (above ++ below).getD (k + above.length) [] = below.getD k [] := by
  simp [List.getD_eq_getElem?_getD, List.getElem?_append_right]

theorem findBlock?_append (start : Nat) :
    findBlock? (above ++ below) (start + above.length) =
      (findBlock? below start).map (BlockSpan.shift above.length) := by
  rw [findBlock?, drop_append_length, seekBlock_shift, findBlock?]

theorem body_append (block : BlockSpan) :
    (block.shift above.length).body (above ++ below) =
      (block.body below).map (NumberedLine.shift above.length) := by
  have hfirst : block.label + above.length + 1 = block.label + 1 + above.length := by omega
  have hsize : block.close + above.length - (block.label + 1 + above.length) =
      block.close - (block.label + 1) := by omega
  simp only [BlockSpan.body, BlockSpan.shift, hfirst, hsize, drop_append_length, List.map_map]
  rw [List.zipIdx_eq_map_add, List.map_map]
  conv => rhs; rw [List.zipIdx_eq_map_add, List.map_map]
  refine List.map_congr_left fun x _ => ?_
  simp [NumberedLine.shift, Nat.add_comm, Nat.add_left_comm]

/-- A block that reaches to the end of the file goes on doing so. -/
theorem range_append {block : BlockSpan} (h : below ≠ []) :
    (block.shift above.length).range (above ++ below) = (block.range below).shift above.length := by
  have hpos : 0 < below.length := List.length_pos_iff.2 h
  have hlast : min (block.close + above.length) ((above ++ below).length - 1) =
      min block.close (below.length - 1) + above.length := by
    rw [List.length_append]
    omega
  simp only [BlockSpan.range, BlockSpan.shift, hlast, getD_append_length, SourceRange.shift]

end

/-! ## Iterations -/

theorem contributions_append (above below : List Text) (block : BlockSpan) :
    contributions (above ++ below) (block.shift above.length) =
      (contributions below block).map (List.map (Contribution.shift above.length)) := by
  rw [← contribution_shifting]
  exact (shifting above.length).contributions_of_body (body_append above below block)

theorem number_shift (n : Nat) (method : Text) (cs : List Contribution) :
    number method (cs.map (Contribution.shift n)) = (number method cs).map (Iteration.shift n) := by
  rw [← contribution_shifting, number, number, Relabelling.flatMap_data?_contribution]
  refine List.ext_getElem? fun k => ?_
  simp only [List.getElem?_map, List.getElem?_mapIdx, Option.map_map]
  rfl

/-! ## Findings -/

/-- A heading of the second part of a file turns out to be what it is in that part alone. -/
theorem judge_append (withData : Bool) (above below : List Text) (line : Nat) (heading : MethodHeading) :
    judge withData (above ++ below) (line + above.length) heading =
      (judge withData below line heading).map (Finding.shift above.length) := by
  have hnext : line + above.length + 1 = line + 1 + above.length := by omega
  simp only [judge, hnext, drop_append_length, getD_append_length]
  cases rejection? heading (below.drop (line + 1)) with
  | some reason => rfl
  | none =>
      have hblock : (if withData then findBlock? (above ++ below) (line + above.length) else none) =
          (if withData then findBlock? below line else none).map (BlockSpan.shift above.length) := by
        rw [findBlock?_append]
        cases withData <;> rfl
      rw [hblock]
      cases hfound : (if withData then findBlock? below line else none) with
      | none => rfl
      | some block =>
          have hbelow : below ≠ [] := by
            rintro rfl
            cases withData <;> simp [findBlock?, seekBlock] at hfound
          simp only [Option.map_some, contributions_append]
          cases contributions below block with
          | error e => rfl
          | ok cs =>
              simp only [Except.map, ok_bind, number_shift, range_append above below hbelow]
              rfl

theorem finding_append (withData : Bool) (above below : List Text) (located : Located) :
    (located.shift above.length).finding withData (above ++ below) =
      (located.finding withData below).map (Finding.shift above.length) := by
  obtain ⟨line, heading⟩ := located
  cases heading with
  | specification h =>
      simp only [Located.shift, Located.finding, getD_append_length]
      rfl
  | method h => exact judge_append withData above below line h

/-! ## Putting the findings together -/

theorem assemble_shift (n : Nat) (fs : List Finding) :
    assemble (fs.map (Finding.shift n)) =
      ((assemble fs).1.map (Feature.shift n), (assemble fs).2.map (Specification.shift n)) := by
  induction fs with
  | nil => rfl
  | cons finding rest ih =>
      cases finding with
      | rejected line reason => exact ih
      | feature f cs =>
          simp only [List.map_cons, Finding.shift, assemble, ih]
      | specification s =>
          simp only [List.map_cons, Finding.shift, assemble, ih]
          rfl

/-- The specifications that the later findings make up are the last ones; those in front of them are
the specifications of the earlier findings. -/
theorem assemble_append (first rest : List Finding) :
    ∃ front, (assemble (first ++ rest)).2 = front ++ (assemble rest).2 ∧
      front.map Specification.line = first.filterMap Finding.classLine? := by
  induction first with
  | nil => exact ⟨[], rfl, rfl⟩
  | cons finding first ih =>
      obtain ⟨front, hfront, hlines⟩ := ih
      cases finding with
      | rejected line reason => exact ⟨front, hfront, hlines⟩
      | feature f cs => exact ⟨front, hfront, hlines⟩
      | specification s =>
          refine ⟨{ s with features := (assemble (first ++ rest)).1 } :: front, ?_, ?_⟩
          · rw [List.cons_append, List.cons_append, ← hfront]
            rfl
          · exact congrArg (s.line :: ·) hlines

/-! ## Files in two parts -/

theorem declaresClass_dropReturns (line : Text) : declaresClass (dropReturns line) = declaresClass line := by
  rw [declaresClass, declaresClass, trim_dropReturns]

/-- Carriage returns at the ends of lines have no influence on where a part begins afresh. -/
theorem StartsAfresh.dropReturns {above below : List Text} (h : StartsAfresh above below) :
    StartsAfresh (above.map dropReturns) (below.map dropReturns) := by
  cases h with
  | inl hclass =>
      obtain ⟨line, hhead, hline⟩ := hclass
      obtain ⟨rest, rfl⟩ := List.head?_eq_some_iff.1 hhead
      exact .inl ⟨_, rfl, (declaresClass_dropReturns line).trans hline⟩
  | inr hnone =>
      refine .inr fun line hline => ?_
      obtain ⟨written, hwritten, rfl⟩ := List.mem_map.1 hline
      exact (declaresClass_dropReturns written).trans (hnone written hwritten)

/-- In lines that declare no class nothing is found. -/
theorem findings_outside (withData : Bool) {texts : List Text} (h : ∀ line ∈ texts, '\n' ∉ line)
    (hnone : ∀ line ∈ texts, declaresClass line = false) :
    findings withData (join ['\n'] texts) = .ok [] := by
  have houtside : ∀ line ∈ fileLines (join ['\n'] texts), declaresClass line = false := by
    cases texts with
    | nil => decide
    | cons first rest =>
        rw [fileLines_join (List.cons_ne_nil first rest) h]
        intro line hline
        obtain ⟨written, hwritten, rfl⟩ := List.mem_map.1 hline
        exact (declaresClass_dropReturns written).trans (hnone written hwritten)
  rw [findings, headings, headingsFrom_outside houtside rfl]
  rfl

/-- If a file in two parts can be read, so can its second part alone; the specifications of the file
that stand in the second part are those of the second part alone, moved down. -/
theorem findingsOf_append {withData : Bool} {above below : List Text} (h : StartsAfresh above below)
    {fs : List Finding} (hfs : findingsOf withData (above ++ below) = .ok fs) :
    ∃ own, findingsOf withData below = .ok own ∧
      (assemble fs).2.filter (fun s => above.length ≤ s.line) =
        (assemble own).2.map (Specification.shift above.length) := by
  rw [findingsOf, headings_append h, List.mapM_append] at hfs
  obtain ⟨first, hfirst, hfs⟩ := bind_eq_ok.1 hfs
  obtain ⟨rest, hrest, hfs⟩ := bind_eq_ok.1 hfs
  cases hfs
  rw [mapM_map_comm (finding_append withData above below)] at hrest
  change (findingsOf withData below).map _ = _ at hrest
  cases hown : findingsOf withData below with
  | error e =>
      rw [hown] at hrest
      contradiction
  | ok own =>
      rw [hown] at hrest
      cases hrest
      obtain ⟨front, hfront, hlines⟩ := assemble_append first (own.map (Finding.shift above.length))
      refine ⟨own, rfl, ?_⟩
      rw [hfront, assemble_shift, List.filter_append]
      -- What the first part declares stands on its own lines, which end above the second part.
      have habove : front.filter (fun s => above.length ≤ s.line) = [] := by
        refine List.filter_eq_nil_iff.2 fun s hs => ?_
        have hline : s.line ∈ first.filterMap Finding.classLine? := hlines ▸ List.mem_map_of_mem hs
        obtain ⟨finding, hfinding, hclass⟩ := List.mem_filterMap.1 hline
        obtain ⟨located, hlocated, hok⟩ := exists_of_mem_right (forall₂_of_mapM hfirst) hfinding
        obtain ⟨text, htext, -⟩ := mem_headings.1 hlocated
        obtain ⟨hlt, -⟩ := List.getElem?_eq_some_iff.1 htext
        have hsame : s.line = located.line := (line_of_classLine? hclass).symm.trans (line_of_finding hok)
        simp only [decide_eq_true_eq]
        omega
      have hbelow : ((assemble own).2.map (Specification.shift above.length)).filter
          (fun s => above.length ≤ s.line) = (assemble own).2.map (Specification.shift above.length) := by
        refine List.filter_eq_self.2 fun s hs => ?_
        obtain ⟨t, -, rfl⟩ := List.mem_map.1 hs
        simp [Specification.shift]
      rw [habove, hbelow, List.nil_append]

/-- **Resynchronisation**: where the second part of a file starts afresh, the specifications declared
in it are those of the second part as a file of its own, with every line number moved down by the
length of the first part and nothing else changed; and the second part can be read whenever the whole
file can. -/
theorem readSpecifications_below {withData : Bool} {above below : List Text}
    (hlines : ∀ line ∈ above ++ below, '\n' ∉ line) (hfresh : StartsAfresh above below)
    {specs : List Specification} {events : List Event}
    (h : readSpecifications withData (join ['\n'] (above ++ below)) = .ok (specs, events)) :
    ∃ own ownEvents, readSpecifications withData (join ['\n'] below) = .ok (own, ownEvents) ∧
      specs.filter (fun s => above.length ≤ s.line) = own.map (Specification.shift above.length) := by
  obtain ⟨fs, hfs, rfl, -⟩ := readSpecifications_eq_ok.1 h
  by_cases hbelow : below = []
  · subst hbelow
    have hnone : ∀ line ∈ above, declaresClass line = false := by simpa [StartsAfresh] using hfresh
    rw [List.append_nil] at hfs hlines
    rw [findings_outside withData hlines hnone] at hfs
    cases hfs
    have hempty : findings withData (join ['\n'] []) = .ok [] :=
      findings_outside withData (by simp) (by simp)
    exact ⟨_, _, readSpecifications_eq_ok.2 ⟨[], hempty, rfl, rfl⟩, rfl⟩
  · have hwhole : above ++ below ≠ [] := by simp [hbelow]
    change findingsOf withData (fileLines _) = _ at hfs
    rw [fileLines_join hwhole hlines, List.map_append] at hfs
    obtain ⟨own, hown, hspecs⟩ := findingsOf_append hfresh.dropReturns hfs
    rw [List.length_map] at hspecs
    have hfile : findings withData (join ['\n'] below) = .ok own := by
      change findingsOf withData (fileLines _) = _
      rwa [fileLines_join hbelow fun line hl => hlines line (List.mem_append_right _ hl)]
    exact ⟨_, _, readSpecifications_eq_ok.2 ⟨own, hfile, rfl, rfl⟩, hspecs⟩

/-- Lines that leave a class and a method open, with a brace too many in a text. -/
def unbalancedLines : List Text :=
  ["class A extends Specification \x7b".toList, "  def \"open\"() \x7b".toList, "    f(\"\x7b\")".toList]

/-- A class with a feature that has data up to the end of the file. -/
def tableLines : List Text :=
  ["class B extends Specification \x7b".toList, "  def \"max of #a\"() \x7b".toList, "    where:".toList,
    "    a | b".toList, "    1 | 2".toList]

theorem readSpecifications_unbalanced :
    ∃ specs events own ownEvents,
      readSpecifications true (join ['\n'] (unbalancedLines ++ tableLines)) = .ok (specs, events) ∧
        readSpecifications true (join ['\n'] tableLines) = .ok (own, ownEvents) ∧
        own.map Specification.headingLines = [[0, 1]] ∧
        specs.filter (fun s => 3 ≤ s.line) = own.map (Specification.shift 3) := by
  obtain ⟨r, hread, -⟩ : ∃ r, readSpecifications true (join ['\n'] (unbalancedLines ++ tableLines)) = .ok r ∧
      r.1.length = 2 := exists_of_map_toOption (by decide +kernel)
  obtain ⟨found, hown, hheadings⟩ : ∃ found, readSpecifications true (join ['\n'] tableLines) = .ok found ∧
      found.1.map Specification.headingLines = [[0, 1]] := exists_of_map_toOption (by decide +kernel)
  obtain ⟨own, ownEvents, hbelow, hspecs⟩ := readSpecifications_below (by decide) (.inl ⟨_, rfl, by decide⟩) hread
  obtain rfl : found = (own, ownEvents) := Except.ok.inj (hown.symm.trans hbelow)
  exact ⟨r.1, r.2, own, ownEvents, hread, hbelow, hheadings, hspecs⟩

end SpecAtlas.Source
