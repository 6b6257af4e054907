import SpecAtlas.Proofs.Source.Finding

/-!
# Files that are cut off

A file may be read while its end is missing. What a heading turns out to be then differs in one way
only: a method may be turned down because the lines that would have it accepted are cut off.

1. The looks ahead see the beginning of what they would see in the whole file, and what has them accept
   a method there has them accept it in the whole file (`rejection?_append`).
2. So a finding of the cut file is one of the whole file, or the rejection of a method
   (`keeps_plainFinding`).
3. Put together, the specifications of the cut file are the first ones of the whole file, each with
   features that the whole file has too (`readSpecifications_cut`).
-/

namespace SpecAtlas.Source

open Text

/-! ## Looking ahead over the cut -/

theorem labelFirst_append {lines : List Text} (h : labelFirst lines = true) (more : List Text) :
    labelFirst (lines ++ more) = true := by
  induction lines with
  | nil => contradiction
  | cons line rest ih =>
      rw [labelFirst] at h
      rw [List.cons_append, labelFirst]
      cases hlabel : isBlockLabel (trim line) with
      | true => rfl
      | false =>
          rw [hlabel] at h
          cases hclosing : isClosing (trim line) with
          | true => simp [hclosing] at h
          | false =>
              rw [hclosing] at h
              exact ih h

theorem braceFirst_append {lines : List Text} (h : braceFirst lines = true) (more : List Text) :
    braceFirst (lines ++ more) = true := by
  induction lines with
  | nil => contradiction
  | cons line rest ih =>
      simp only [braceFirst] at h
      simp only [List.cons_append, braceFirst]
      split
      · rename_i hskip
        rw [if_pos hskip] at h
        exact ih h
      · rename_i hcode
        rwa [if_neg hcode] at h

/-- A method that is accepted stays accepted when more lines follow. -/
theorem rejection?_append {heading : MethodHeading} {below : List Text} (h : rejection? heading below = none)
    (more : List Text) : rejection? heading (below ++ more) = none := by
  have hlabel (reach : Nat) (hl : labelWithin reach below = true) : labelWithin reach (below ++ more) = true := by
    rw [labelWithin, List.take_append]
    exact labelFirst_append hl _
  have hbrace (reach : Nat) (hb : braceWithin reach below = true) : braceWithin reach (below ++ more) = true := by
    rw [braceWithin, List.take_append]
    exact braceFirst_append hb _
  unfold rejection? at h ⊢
  split at h
  · contradiction
  · rename_i hhook
    split at h
    · contradiction
    · rename_i hnoLabel
      split at h
      · contradiction
      · rename_i hnoBrace
        rw [if_neg hhook, if_neg, if_neg]
        · simp only [Bool.and_eq_true, Bool.not_eq_true', not_and, Bool.not_eq_false] at hnoBrace ⊢
          exact fun hopens => hbrace _ (hnoBrace hopens)
        · simp only [Bool.and_eq_true, Bool.not_eq_true', not_and, Bool.not_eq_false] at hnoLabel ⊢
          exact fun hquoted => hlabel _ (hnoLabel hquoted)

/-! ## Findings -/

/-- What a heading turns out to be in a cut file, and what it turns out to be in the whole file: the
same, unless it is turned down in the cut file. -/
inductive Finding.Keeps : Finding → Finding → Prop
  | same (finding : Finding) : Keeps finding finding
  | accepted (line : Nat) (reason : Rejection) (f : Feature) : Keeps (.rejected line reason) (.feature f [])
  | rejected (line : Nat) (reason reason' : Rejection) : Keeps (.rejected line reason) (.rejected line reason')

theorem keeps_plainFinding {above : List Text} {located : Located} (h : located.line < above.length)
    (below : List Text) : (located.plainFinding above).Keeps (located.plainFinding (above ++ below)) := by
  have hline : (above ++ below).getD located.line [] = above.getD located.line [] := by
    rw [List.getD_eq_getElem?_getD, List.getElem?_append_left h, List.getD_eq_getElem?_getD]
  have hdrop : (above ++ below).drop (located.line + 1) = above.drop (located.line + 1) ++ below :=
    List.drop_append_of_le_length h
  obtain ⟨line, heading⟩ := located
  cases heading with
  | specification heading =>
      simp only [Located.plainFinding, hline]
      exact .same _
  | method heading =>
      cases hcut : rejection? heading (above.drop (line + 1)) with
      | none =>
          have hwhole := rejection?_append hcut below
          rw [← hdrop] at hwhole
          rw [plainFinding_of_accepted hcut, plainFinding_of_accepted hwhole, hline]
          exact .same _
      | some reason =>
          rw [plainFinding_of_rejected hcut]
          cases hwhole : rejection? heading ((above ++ below).drop (line + 1)) with
          | none =>
              rw [plainFinding_of_accepted hwhole]
              exact .accepted _ _ _
          | some reason' =>
              rw [plainFinding_of_rejected hwhole]
              exact .rejected _ _ _

/-! ## Specifications -/

/-- A specification as it is in the whole file, beside what a cut file has of it: some of its features,
in order, and everything else. -/
structure Specification.Extends (whole cut : Specification) : Prop where
  name : whole.name = cut.name
  line : whole.line = cut.line
  range : whole.range = cut.range
  isAbstract : whole.isAbstract = cut.isAbstract
  features : cut.features.Sublist whole.features

/-- Findings that keep those of a cut file make up its specifications, with their features or more of
them, and then come the specifications of the findings behind. -/
theorem assemble_keeps {cut kept : List Finding} (h : List.Forall₂ Finding.Keeps cut kept) (behind : List Finding) :
    (assemble cut).1.Sublist (assemble (kept ++ behind)).1 ∧
      ∃ first, (assemble (kept ++ behind)).2 = first ++ (assemble behind).2 ∧
        List.Forall₂ Specification.Extends first (assemble cut).2 := by
  induction h with
  | nil => exact ⟨List.nil_sublist _, [], rfl, .nil⟩
  | @cons found _ _ _ hkeeps _ ih =>
      obtain ⟨hfeatures, first, hspecs, hextends⟩ := ih
      cases hkeeps with
      | same =>
          cases found with
          | rejected line reason => exact ⟨hfeatures, first, hspecs, hextends⟩
          | feature f cs => exact ⟨hfeatures.cons_cons f, first, hspecs, hextends⟩
          | specification s =>
              exact ⟨List.nil_sublist _, _ :: first, congrArg (_ :: ·) hspecs,
                .cons ⟨rfl, rfl, rfl, rfl, hfeatures⟩ hextends⟩
      | accepted line reason f => exact ⟨hfeatures.cons f, first, hspecs, hextends⟩
      | rejected line reason reason' => exact ⟨hfeatures, first, hspecs, hextends⟩

/-! ## Files -/

/-- A text with a line feed in it has the lines in front of that and the lines behind it. -/
theorem fileLines_append (front rest : Text) :
    fileLines (front ++ '\n' :: rest) = fileLines front ++ fileLines rest := by
  rw [fileLines, Text.lines, pieces_append_cons, List.map_append]
  rfl

/-- **Truncation only loses**: where the end of a file is cut off behind some line, the specifications
that are found in what is left are those that the whole file has above the cut. Each has the same name,
place and kind there, and its features are features of that specification, in the same order. -/
theorem readSpecifications_cut (front rest : Text) :
    ∃ cut events whole wholeEvents first later,
      readSpecifications false front = .ok (cut, events) ∧
        readSpecifications false (front ++ '\n' :: rest) = .ok (whole, wholeEvents) ∧
        whole = first ++ later ∧ List.Forall₂ Specification.Extends first cut ∧
        ∀ s ∈ later, (fileLines front).length ≤ s.line := by
  obtain ⟨⟨cut, events⟩, hcut, rfl⟩ := map_eq_ok.1 (readSpecifications_false front)
  obtain ⟨⟨whole, wholeEvents⟩, hwhole, hspecs⟩ := map_eq_ok.1 (readSpecifications_false (front ++ '\n' :: rest))
  rw [fileLines_append, headings, headingsFrom_append, List.map_append] at hspecs
  have hkeeps : List.Forall₂ Finding.Keeps ((headings (fileLines front)).map (·.plainFinding (fileLines front)))
      ((headings (fileLines front)).map (·.plainFinding (fileLines front ++ fileLines rest))) := by
    rw [List.forall₂_map_left_iff, List.forall₂_map_right_iff, List.forall₂_same]
    intro located hlocated
    obtain ⟨line, hline, -⟩ := mem_headings.1 hlocated
    exact keeps_plainFinding (List.getElem?_eq_some_iff.1 hline).1 _
  obtain ⟨-, first, hfirst, hextends⟩ := assemble_keeps hkeeps _
  refine ⟨_, events, whole, wholeEvents, first, _, hcut, hwhole, hspecs.trans hfirst, hextends, fun s hs => ?_⟩
  have hclass := List.mem_map_of_mem (f := Specification.line) hs
  rw [classLines_assemble, List.filterMap_map, List.mem_filterMap] at hclass
  obtain ⟨located, hlocated, hclass⟩ := hclass
  obtain ⟨k, line, -, hline, -⟩ := mem_headingsFrom.1 hlocated
  have hsame : s.line = located.line :=
    (line_of_classLine? hclass).symm.trans (line_of_finding (finding_false _ located))
  omega

end SpecAtlas.Source
