import Mathlib.Data.List.Pairwise
import SpecAtlas.Proofs.Source.Balance
import SpecAtlas.Proofs.Source.Finding
import SpecAtlas.Proofs.Source.Heading

/-!
# Features with quoted names

A feature bears any text in quotes as its name. Its heading is found wherever the scan stands in the body
of a class and outside of nested regions, and nothing that follows can turn it down:

1. such a heading is found as a feature of its exact name (`feature_mem_findings`);
2. a feature that is found in a class belongs to the class that is declared last above it
   (`exists_specification_of_feature`);
3. the reader of headings wants no quote of either kind between the quotes. A name with a quote of the
   other kind is no name to it, and the line no heading (`recorded_unless_quote`).
-/

namespace SpecAtlas.Source

open Text

/-! ## The class that a feature belongs to -/

/-- A scan that is in a class has met its heading. -/
theorem exists_isLastClass_of_inClass {above : List Text} (h : (({} : Position).run above).inClass = true) :
    ∃ d, IsLastClass above d := by
  refine exists_isLastClass ?_
  by_contra hnone
  have hall : ∀ line ∈ above, declaresClass line = false :=
    fun line hline => Bool.eq_false_iff.2 fun hc => hnone ⟨line, hline, hc⟩
  rw [Position.run_outside hall rfl] at h
  contradiction

section

variable {withData : Bool} {content : Text} {fs : List Finding} (hfs : findings withData content = .ok fs)

include hfs

/-- Every specification heading gives a specification. -/
theorem exists_specification {k : Nat} {line : Text} (hline : (fileLines content)[k]? = some line)
    (hclass : declaresClass line = true) : ∃ s ∈ (assemble fs).2, s.line = k := by
  obtain ⟨h, hh⟩ := Option.isSome_iff_exists.1 hclass
  have hlocated : ⟨k, .specification h⟩ ∈ headings (fileLines content) :=
    mem_headings.2 ⟨line, hline, Position.snd_advance_eq_specification.2 hh⟩
  have hmem : k ∈ (assemble fs).2.map Specification.line := by
    rw [classLines_assemble, classLines_findings hfs]
    exact List.mem_filterMap.2 ⟨_, hlocated, rfl⟩
  exact List.mem_map.1 hmem

/-- A specification stands on a line that declares one. -/
theorem declaresClass_of_mem_specifications {s : Specification} (hs : s ∈ (assemble fs).2) :
    ∃ line, (fileLines content)[s.line]? = some line ∧ declaresClass line = true := by
  obtain ⟨⟨found, hfound, he⟩, -⟩ := (mem_assemble fs).2 s hs
  obtain ⟨located, hlocated, hfinding⟩ := exists_of_mem_right (forall₂_of_findings hfs) hfound
  obtain ⟨heading, hheading, hown⟩ := eq_of_finding_specification hfinding
  obtain ⟨line, hline, hadvance⟩ := mem_headings.1 hlocated
  rw [hheading, Position.snd_advance_eq_specification] at hadvance
  rw [he, hown]
  exact ⟨line, hline, by rw [declaresClass, hadvance]; rfl⟩

/-- Of two specifications one stands above the other, with all its features. -/
theorem above_or_below {s t : Specification} (hs : s ∈ (assemble fs).2) (ht : t ∈ (assemble fs).2) (hst : s ≠ t) :
    (∀ k ∈ s.headingLines, ∀ l ∈ t.headingLines, k < l) ∨ ∀ k ∈ t.headingLines, ∀ l ∈ s.headingLines, k < l := by
  have hsorted := (pairwise_headingLines hfs).sublist (List.sublist_append_right _ _)
  have hpairs : (assemble fs).2.Pairwise fun s t =>
      (∀ k ∈ s.headingLines, ∀ l ∈ t.headingLines, k < l) ∨ ∀ k ∈ t.headingLines, ∀ l ∈ s.headingLines, k < l :=
    (List.pairwise_flatMap.1 hsorted).2.imp Or.inl
  have hsymm : Std.Symm fun s t : Specification =>
      (∀ k ∈ s.headingLines, ∀ l ∈ t.headingLines, k < l) ∨ ∀ k ∈ t.headingLines, ∀ l ∈ s.headingLines, k < l :=
    ⟨fun _ _ => Or.symm⟩
  exact hpairs.forall hs ht hst

/-- A feature that is found in a class belongs to the class that is declared last above it. -/
theorem exists_specification_of_feature {above below : List Text} (hlines : fileLines content = above ++ below)
    (hin : (({} : Position).run above).inClass = true) {f : Feature} {cs : List Contribution}
    (hf : .feature f cs ∈ fs) (hline : f.line = above.length) :
    ∃ s ∈ (assemble fs).2, IsLastClass above s.line ∧ f ∈ s.features := by
  obtain ⟨d, hd⟩ := exists_isLastClass_of_inClass hin
  obtain ⟨heading, hheading, hclass⟩ := hd.declares
  have habove {k : Nat} (hk : k < above.length) : (fileLines content)[k]? = above[k]? := by
    rw [hlines, List.getElem?_append_left hk]
  have hlt : d < above.length := (List.getElem?_eq_some_iff.1 hheading).1
  obtain ⟨t, ht, rfl⟩ := exists_specification hfs ((habove hlt).trans hheading) hclass
  have hsorted := pairwise_headingLines hfs
  rw [List.pairwise_append, List.pairwise_flatMap] at hsorted
  obtain ⟨-, ⟨hwithin, -⟩, hfront⟩ := hsorted
  rcases feature_mem_assemble hf with hnone | ⟨s, hs, hmem⟩
  · have := hfront f.line (List.mem_map_of_mem hnone) t.line (List.mem_flatMap.2 ⟨t, ht, List.mem_cons_self⟩)
    omega
  · have hown : f.line ∈ s.headingLines := List.mem_cons_of_mem _ (List.mem_map_of_mem hmem)
    have hbelow : s.line < f.line := (List.pairwise_cons.1 (hwithin s hs)).1 f.line (List.mem_map_of_mem hmem)
    by_cases hst : s = t
    · exact ⟨s, hs, hst ▸ hd, hmem⟩
    · -- Another class that has the feature would begin behind the last heading, or end in front of it.
      rcases above_or_below hfs hs ht hst with hbefore | hafter
      · have := hbefore f.line hown t.line List.mem_cons_self
        omega
      · have hlater := hafter t.line List.mem_cons_self s.line List.mem_cons_self
        obtain ⟨line, hgot, hdeclares⟩ := declaresClass_of_mem_specifications hfs hs
        rw [habove (by omega)] at hgot
        rw [hd.later s.line line hlater hgot] at hdeclares
        contradiction

end

/-! ## Quoted names -/

/-- The line behind `above` is a feature with a given name, of the class that is declared last above it. -/
def IsRecorded (specs : List Specification) (above : List Text) (name : Text) : Prop :=
  ∃ s ∈ specs, IsLastClass above s.line ∧ ∃ f ∈ s.features, f.line = above.length ∧ f.name = name

/-- Where the scan is in a class and outside of nested regions, a method line is a candidate if it is a
heading at all. -/
theorem snd_advance_methodLine {p : Position} (hin : p.inClass = true) (hout : p.inNested = false)
    {line written : Text} (hline : trim line = methodLine written) (heading : MethodHeading) :
    (p.advance line).2 = some (.method heading) ↔ MethodHeading.read? (methodLine written) = some heading := by
  have hclass : declaresClass line = false := by
    rw [declaresClass_eq_false, hline, declaresClass_methodLine]
  have hnested : (p.nestedAt line).1 = none := by
    have hfloor : p.nestedFloor = none := by simpa [Position.inNested] using hout
    rw [Position.nestedAt, hfloor, hline, isTypeHeading_methodLine]
    simp
  rw [Position.snd_advance_eq_method, hline]
  simp only [hclass, hin, hnested, true_and]

section

variable {above below : List Text} {line : Text} {content : Text}
  (hlines : fileLines content = above ++ line :: below)
  (hin : (({} : Position).run above).inClass = true) (hout : (({} : Position).run above).inNested = false)

include hlines hin hout

/-- The headings of a file that are reported for a method line are those that the line is read as. -/
theorem mem_headings_methodLine {written : Text} (hline : trim line = methodLine written)
    (heading : MethodHeading) : ⟨above.length, .method heading⟩ ∈ headings (fileLines content) ↔
      MethodHeading.read? (methodLine written) = some heading := by
  have hget : (fileLines content)[above.length]? = some line := by simp [hlines]
  have htake : (fileLines content).take above.length = above := by simp [hlines]
  rw [mem_headings, ← snd_advance_methodLine hin hout hline]
  simp [hget, htake]

variable {withData : Bool} {fs : List Finding} (hfs : findings withData content = .ok fs)

include hfs

/-- A method line with a quoted name is found as a feature of that name. -/
theorem feature_mem_findings {q : Char} (hq : isQuote q = true) {name : Text} (hne : name ≠ [])
    (hname : name.any isQuote = false) (hhook : name ∉ lifecycleHooks)
    (hline : trim line = methodLine (q :: (name ++ [q]))) :
    ∃ f cs, .feature f cs ∈ fs ∧ f.line = above.length ∧ f.name = name := by
  have hlocated := (mem_headings_methodLine hlines hin hout hline _).2 (read?_methodLine_quoted hq hne hname)
  obtain ⟨finding, hfinding, hjudged⟩ := exists_of_mem_left (forall₂_of_findings hfs) hlocated
  cases judge_eq_ok hjudged with
  | rejected hr =>
      rw [rejection?_quoted hhook rfl rfl] at hr
      contradiction
  | plain => exact ⟨_, _, hfinding, rfl, rfl⟩
  | withData => exact ⟨_, _, hfinding, rfl, rfl⟩

/-- On a method line that is no heading no feature is found. -/
theorem line_ne_of_unreadable {written : Text} (hline : trim line = methodLine written)
    (hread : MethodHeading.read? (methodLine written) = none) :
    ∀ s ∈ (assemble fs).2, ∀ f ∈ s.features, f.line ≠ above.length := by
  intro s hs f hf hsame
  obtain ⟨cs, hcs⟩ := ((mem_assemble fs).2 s hs).2 f hf
  obtain ⟨located, hlocated, hfinding⟩ := exists_of_mem_right (forall₂_of_findings hfs) hcs
  obtain ⟨heading, hheading, -⟩ := judgement_of_finding_feature hfinding
  have hplace : located.line = above.length := (line_of_finding hfinding).symm.trans hsame
  have hown : located = ⟨above.length, .method heading⟩ := by rw [← hplace, ← hheading]
  rw [hown, mem_headings_methodLine hlines hin hout hline, hread] at hlocated
  contradiction

end

/-- **Features with quoted names are found under their exact names**, in the class that is declared last
above them and wherever in its body they stand, but for those that have a quote of the other kind in
their names: for their headings nothing is found. -/
theorem recorded_unless_quote {q : Char} (hq : isQuote q = true) {name : Text} (hne : name ≠ []) (hown : q ∉ name)
    (hhook : name ∉ lifecycleHooks) {content : Text} {above below : List Text} {line : Text}
    (hlines : fileLines content = above ++ line :: below) (hline : trim line = methodLine (q :: (name ++ [q])))
    (hin : (({} : Position).run above).inClass = true) (hout : (({} : Position).run above).inNested = false) :
    (∃ specs events, readSpecifications false content = .ok (specs, events)) ∧
      ∀ withData specs events, readSpecifications withData content = .ok (specs, events) →
        (name.any isQuote = false → IsRecorded specs above name) ∧
        (name.any isQuote = true → ∀ s ∈ specs, ∀ f ∈ s.features, f.line ≠ above.length) := by
  constructor
  · obtain ⟨⟨specs, events⟩, hread, -⟩ := map_eq_ok.1 (readSpecifications_false content)
    exact ⟨specs, events, hread⟩
  · intro withData specs events hread
    obtain ⟨fs, hfs, rfl, -⟩ := readSpecifications_eq_ok.1 hread
    constructor
    · intro hname
      obtain ⟨f, cs, hf, hplace, hexact⟩ := feature_mem_findings hlines hin hout hfs hq hne hname hhook hline
      obtain ⟨s, hs, hlast, hmem⟩ := exists_specification_of_feature hfs hlines hin hf hplace
      exact ⟨s, hs, hlast, f, hmem, hplace, hexact⟩
    · intro hname
      exact line_ne_of_unreadable hlines hin hout hfs hline (read?_methodLine_otherQuote hq hown hname)

/-- The lines of a class with one feature, from the heading of that on. -/
def namedLines (name : String) : List Text :=
  [methodLine ('"' :: (name.toList ++ ['"'])), "expect:".toList, "true".toList, ['\x7d'], ['\x7d']]

/-- The heading of the class. -/
def classHeading : Text := "class A extends Specification \x7b".toList

/-- A class with one feature that bears the given name in double quotes. -/
def namedFile (name : String) : Text := join ['\n'] (classHeading :: namedLines name)

/-- A name may have brackets, marks of comments and of placeholders, and white space at its ends. -/
theorem recorded_markedName :
    ∃ specs events, readSpecifications true (namedFile " a > b (c), // #d: e ") = .ok (specs, events) ∧
      IsRecorded specs [classHeading] " a > b (c), // #d: e ".toList := by
  have hlines : fileLines (namedFile " a > b (c), // #d: e ") =
      [classHeading] ++ methodLine ('"' :: (" a > b (c), // #d: e ".toList ++ ['"'])) ::
        ["expect:".toList, "true".toList, ['\x7d'], ['\x7d']] := by decide +kernel
  obtain ⟨r, hread, -⟩ : ∃ r, readSpecifications true (namedFile " a > b (c), // #d: e ") = .ok r ∧ r.1.length = 1 :=
    exists_of_map_toOption (by decide +kernel)
  have hrecorded := recorded_unless_quote isQuote_double (by decide) (by decide) (by decide) hlines
    (isEnclosed_methodLine _).trim_eq (by decide +kernel) (by decide +kernel)
  exact ⟨r.1, r.2, hread, (hrecorded.2 true r.1 r.2 hread).1 (by decide)⟩

/-- A feature with an apostrophe in its name is lost, although the scan stands in the body of its class in
front of its heading. -/
theorem lost_apostropheName :
    (fileLines (namedFile "doesn't fail") = classHeading :: namedLines "doesn't fail" ∧
      (({} : Position).run [classHeading]).inClass = true ∧ (({} : Position).run [classHeading]).bodyOpened = true ∧
      (({} : Position).run [classHeading]).inNested = false) ∧
    ∃ specs events, readSpecifications true (namedFile "doesn't fail") = .ok (specs, events) ∧
      ¬ IsRecorded specs [classHeading] "doesn't fail".toList := by
  obtain ⟨r, hread, hfeatures⟩ : ∃ r, readSpecifications true (namedFile "doesn't fail") = .ok r ∧
      (r.1.map fun s => s.features.map Feature.name) = [[]] := exists_of_map_toOption (by decide +kernel)
  refine ⟨by decide +kernel, r.1, r.2, hread, ?_⟩
  obtain ⟨s, hs, hnone⟩ := List.map_eq_singleton_iff.1 hfeatures
  rintro ⟨t, ht, -, f, hf, -⟩
  rw [hs, List.mem_singleton] at ht
  rw [ht, List.map_eq_nil_iff.1 hnone] at hf
  contradiction

end SpecAtlas.Source
