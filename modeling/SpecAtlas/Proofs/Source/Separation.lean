import SpecAtlas.Proofs.Source.BlockSearch
import SpecAtlas.Proofs.Source.Tree

/-!
# Which where-blocks keep apart

A where-block begins at a label and ends at the first line below it that is nothing but a closing
brace. Both ends are looked for by rules of their own, and neither looks at the headings of other
methods:

1. the label is looked for until the braces of the method balance out, once a line has opened more of
   them than it closes (`findBlock?_label_le`);
2. the closing line is the next one that is nothing but a closing brace, whatever stands in between
   (`endLine_lt_iff`).

So a block stays above the next feature where the feature in front is closed by such a line
(`whereBlocks_apart`). Where its last brace has a comment behind it, the block goes on into the next
feature and takes the data of that along.
-/

namespace SpecAtlas.Source

open Text

/-! ## The two ends of a block -/

/-- The method with its heading in line `start` is closed above line `stop`: by a line that is nothing
but a closing brace, and where the braces since the heading, once more of them were opened than closed
in a line, have balanced out. -/
def ClosesAbove (lines : List Text) (start stop : Nat) : Prop :=
  ∃ k, start < k ∧ k < stop ∧ ClosesAt lines k ∧
    (∃ line ∈ linesBetween lines start k, 0 < braceDelta line) ∧ balanceOf (linesBetween lines start k) ≤ 0

/-- The label of a block stands no lower than where the braces since the heading have balanced out. -/
theorem findBlock?_label_le {lines : List Text} {start : Nat} {block : BlockSpan}
    (h : findBlock? lines start = some block) {k : Nat} (hk : start ≤ k) (hclosed : ClosedWith lines start k) :
    block.label ≤ k := by
  by_contra hlt
  exact (findBlock?_eq_some_iff.1 h).stillOpen k hk (Nat.lt_of_not_le hlt) hclosed

/-- A block ends above a line of the file exactly if a closing line stands between its label and that
line. -/
theorem endLine_lt_iff {lines : List Text} {start : Nat} {block : BlockSpan}
    (h : findBlock? lines start = some block) {stop : Nat} (hstop : stop < lines.length) :
    (block.range lines).endLine < stop ↔ ∃ k, block.label < k ∧ k < stop ∧ ClosesAt lines k := by
  obtain ⟨-, -, hlt, -⟩ := findBlock?_bounds h
  show min block.close (lines.length - 1) < stop ↔ _
  rcases (findBlock?_eq_some_iff.1 h).ends with ⟨⟨-, hcloses⟩, hleast⟩ | ⟨hnone, hfile⟩
  · constructor
    · intro hend
      have hlength := lt_length_of_closesAt hcloses
      exact ⟨block.close, hlt, by omega, hcloses⟩
    · rintro ⟨k, hlabel, hk, hclosing⟩
      have hfirst := hleast ⟨hlabel, hclosing⟩
      omega
  · constructor
    · intro hend
      omega
    · rintro ⟨k, hlabel, -, hclosing⟩
      exact absurd hclosing (hnone k hlabel)

/-- A method that is closed above a line has its block above that line. -/
theorem endLine_lt_of_closesAbove {lines : List Text} {start stop : Nat} {block : BlockSpan}
    (h : findBlock? lines start = some block) (hstop : stop < lines.length)
    (hcloses : ClosesAbove lines start stop) : (block.range lines).endLine < stop := by
  obtain ⟨k, hlow, hhigh, hclosing, hopened, hbalance⟩ := hcloses
  have hle := findBlock?_label_le h (Nat.le_of_lt hlow) ⟨hopened, hbalance⟩
  obtain ⟨-, ⟨label, hlabel, hwhere⟩, -, -⟩ := findBlock?_bounds h
  have hne : block.label ≠ k := by
    rintro rfl
    obtain ⟨closing, hget, hc⟩ := hclosing
    obtain rfl : label = closing := Option.some.inj (hlabel.symm.trans hget)
    rw [hwhere] at hc
    contradiction
  exact (endLine_lt_iff h hstop).2 ⟨k, by omega, hhigh, hclosing⟩

/-! ## The features of a file -/

section

variable {withData : Bool} {content : Text} {fs : List Finding}

/-- The features of a file come in the order of their lines. -/
theorem pairwise_features (h : findings withData content = .ok fs) :
    ((assemble fs).2.flatMap Specification.features).Pairwise fun f g => f.line < g.line := by
  have hsorted := (pairwise_headingLines h).sublist (List.sublist_append_right _ _)
  rw [List.pairwise_flatMap] at hsorted ⊢
  obtain ⟨hwithin, hacross⟩ := hsorted
  constructor
  · intro s hs
    exact List.pairwise_map.1 (List.pairwise_cons.1 (hwithin s hs)).2
  · refine hacross.imp fun {s t} hst f hf g hg => hst _ ?_ _ ?_
    · exact List.mem_cons_of_mem _ (List.mem_map_of_mem hf)
    · exact List.mem_cons_of_mem _ (List.mem_map_of_mem hg)

/-- A feature fits the lines of its file, and the data that it has come from the where-block that is
found for its heading. -/
theorem block_of_mem_features (h : findings withData content = .ok fs) {f : Feature}
    (hf : f ∈ (assemble fs).2.flatMap Specification.features) :
    f.WellFormed (fileLines content) ∧ ∀ d, f.data = some d →
      ∃ block, findBlock? (fileLines content) f.line = some block ∧ d.range = block.range (fileLines content) := by
  obtain ⟨s, hs, hfs⟩ := List.mem_flatMap.1 hf
  obtain ⟨cs, hcs⟩ := ((mem_assemble fs).2 s hs).2 f hfs
  obtain ⟨located, hlocated, hfinding⟩ := exists_of_mem_right (forall₂_of_findings h) hcs
  obtain ⟨heading, hheading, hj⟩ := judgement_of_finding_feature hfinding
  refine ⟨wellFormed_of_judgement hlocated hheading hj, fun d hd => ?_⟩
  cases hj with
  | plain => contradiction
  | withData hr hblock hcs =>
      cases hd
      unfold wantedBlock? at hblock
      split at hblock
      · exact ⟨_, hblock, rfl⟩
      · contradiction

end

/-- The data of a feature keep apart from a feature further down, and from its data. -/
structure Feature.Apart (f g : Feature) : Prop where
  above : ∀ d, f.data = some d → d.range.endLine < g.line
  ranges : ∀ d e, f.data = some d → g.data = some e → d.range.endLine < e.range.startLine
  iterations : ∀ d e, f.data = some d → g.data = some e →
    ∀ i ∈ d.iterations, ∀ j ∈ e.iterations, i.range.startLine < j.range.startLine

/-- Data that end above the heading of a feature keep apart from it. -/
theorem Feature.WellFormed.apart {lines : List Text} {f g : Feature} (hf : f.WellFormed lines)
    (hg : g.WellFormed lines) (h : ∀ d, f.data = some d → d.range.endLine < g.line) : f.Apart g where
  above := h
  ranges d e hd he := Nat.lt_trans (h d hd) (hg.data e he).label_below
  iterations d e hd he i hi j hj := by
    obtain ⟨k, hk⟩ := List.getElem?_of_mem hi
    obtain ⟨l, hl⟩ := List.getElem?_of_mem hj
    obtain ⟨-, -, n, text, -, hrange, -, hn⟩ := (hf.data d hd).iterations k i hk
    obtain ⟨-, -, m, text', -, hrange', hm, -⟩ := (hg.data e he).iterations l j hl
    have hend := h d hd
    have hlabel := (hg.data e he).label_below
    rw [hrange, hrange']
    show n < m
    omega

/-- **Where-blocks keep apart where methods are closed**: of two features of a file, a where-block of
the first whose label stands above the heading of the second ends above that heading exactly if a line
that is nothing but a closing brace stands between the two. Then the blocks of both do not overlap and
no line gives an iteration to both. In particular this is so if the first feature is closed by such a
line above the second. -/
theorem whereBlocks_apart {withData : Bool} {content : Text} {specs : List Specification}
    {events : List Event} (h : readSpecifications withData content = .ok (specs, events)) :
    (specs.flatMap Specification.features).Pairwise fun f g =>
      (∀ d, f.data = some d → d.range.startLine < g.line → (d.range.endLine < g.line ↔
        ∃ k, d.range.startLine < k ∧ k < g.line ∧ ClosesAt (fileLines content) k)) ∧
      ((∀ d, f.data = some d → d.range.endLine < g.line) → f.Apart g) ∧
      (ClosesAbove (fileLines content) f.line g.line → f.Apart g) := by
  obtain ⟨fs, hfs, rfl, -⟩ := readSpecifications_eq_ok.1 h
  refine (pairwise_features hfs).imp_of_mem fun {f g} hf hg _ => ?_
  obtain ⟨hwf, hblock⟩ := block_of_mem_features hfs hf
  obtain ⟨hwg, -⟩ := block_of_mem_features hfs hg
  obtain ⟨line, -, hline, -⟩ := hwg.heading
  obtain ⟨hstop, -⟩ := List.getElem?_eq_some_iff.1 hline
  refine ⟨fun d hd _ => ?_, hwf.apart hwg, fun hcloses => hwf.apart hwg fun d hd => ?_⟩
  · obtain ⟨block, hfound, hrange⟩ := hblock d hd
    rw [hrange]
    exact endLine_lt_iff hfound hstop
  · obtain ⟨block, hfound, hrange⟩ := hblock d hd
    rw [hrange]
    exact endLine_lt_of_closesAbove hfound hstop hcloses

/-! ## Two features -/

/-- Where a feature and its data stand: its line, the first and the last line of its where-block, and the
lines of its iterations. -/
structure Place where
  line : Nat
  block : Option (Nat × Nat)
  iterations : List Nat
  deriving DecidableEq

/-- Where a feature and its data stand. -/
def Feature.place (f : Feature) : Place :=
  ⟨f.line, f.data.map fun d => (d.range.startLine, d.range.endLine),
    (f.data.map fun d => d.iterations.map (·.range.startLine)).getD []⟩

/-- Where the features of every class of a file stand, with their data. -/
def places (content : Text) : Option (List (List Place)) :=
  (readSpecifications true content).toOption.map fun r => r.1.map fun s => s.features.map Feature.place

/-- A class with two features that have data; `comment` stands behind the brace that closes the first. -/
def twoFeatures (comment : String) : Text :=
  ("class A extends Specification \x7b\n  def \"first\"() \x7b\n    where:\n    x << [1]\n  \x7d" ++ comment ++
    "\n  def \"second\"() \x7b\n    where:\n    y << [2]\n  \x7d\n\x7d").toList

/-- A file is taken apart by the places of its features. -/
theorem features_of_places {content : Text} {first second : Place}
    (h : places content = some [[first, second]]) :
    ∃ s events f g, readSpecifications true content = .ok ([s], events) ∧ s.features = [f, g] ∧
      f.place = first ∧ g.place = second := by
  obtain ⟨⟨specs, events⟩, hread, hplaces⟩ := exists_of_map_toOption h
  obtain ⟨s, hs, hfeatures⟩ := List.map_eq_singleton_iff.1 hplaces
  obtain rfl : specs = [s] := hs
  obtain ⟨f, rest, hf, hrest, hothers⟩ := List.map_eq_cons_iff.1 hfeatures
  obtain ⟨g, rfl, hg⟩ := List.map_eq_singleton_iff.1 hothers
  exact ⟨s, events, f, g, hread, hf, hrest, hg⟩

theorem closesAbove_twoFeatures : ClosesAbove (fileLines (twoFeatures "")) 1 5 :=
  ⟨4, by decide, by decide, ⟨"  \x7d".toList, by decide +kernel, by decide⟩, by decide +kernel, by decide +kernel⟩

theorem apart_twoFeatures :
    ∃ s events f g, readSpecifications true (twoFeatures "") = .ok ([s], events) ∧ s.features = [f, g] ∧
      f.place = ⟨1, some (2, 4), [3]⟩ ∧ g.place = ⟨5, some (6, 8), [7]⟩ ∧ f.Apart g := by
  have hplaces : places (twoFeatures "") = some [[⟨1, some (2, 4), [3]⟩, ⟨5, some (6, 8), [7]⟩]] := by
    decide +kernel
  obtain ⟨s, events, f, g, hread, hfeatures, hf, hg⟩ := features_of_places hplaces
  have hpair := whereBlocks_apart hread
  rw [List.flatMap_singleton, hfeatures] at hpair
  have hclosed := ((List.pairwise_cons.1 hpair).1 g (by simp)).2.2
  have hfline : f.line = 1 := congrArg Place.line hf
  have hgline : g.line = 5 := congrArg Place.line hg
  rw [hfline, hgline] at hclosed
  exact ⟨s, events, f, g, hread, hfeatures, hf, hg, hclosed closesAbove_twoFeatures⟩

/-- With a comment behind the brace that closes the first of two features, its where-block ends with the
second feature, and takes the data of that along. -/
theorem overlap_of_comment :
    ∃ s events f g d e, readSpecifications true (twoFeatures " // first") = .ok ([s], events) ∧
      s.features = [f, g] ∧ f.data = some d ∧ g.data = some e ∧ g.line ≤ d.range.endLine ∧
      ∃ i ∈ d.iterations, ∃ j ∈ e.iterations, i.range.startLine = j.range.startLine := by
  have hplaces : places (twoFeatures " // first") =
      some [[⟨1, some (2, 8), [3, 5, 6, 7]⟩, ⟨5, some (6, 8), [7]⟩]] := by decide +kernel
  obtain ⟨s, events, f, g, hread, hfeatures, hf, hg⟩ := features_of_places hplaces
  obtain ⟨d, hd, hdrange⟩ := Option.map_eq_some_iff.1 (congrArg Place.block hf)
  obtain ⟨e, he, -⟩ := Option.map_eq_some_iff.1 (congrArg Place.block hg)
  have hown := congrArg Place.iterations hf
  have hother := congrArg Place.iterations hg
  simp only [Feature.place, hd, he, Option.map_some, Option.getD_some] at hown hother
  obtain ⟨i, hi, hiline⟩ := List.mem_map.1 (show 7 ∈ d.iterations.map (·.range.startLine) by simp [hown])
  obtain ⟨j, hj, hjline⟩ := List.mem_map.1 (show 7 ∈ e.iterations.map (·.range.startLine) by simp [hother])
  have hgline : g.line = 5 := congrArg Place.line hg
  have hend : d.range.endLine = 8 := congrArg Prod.snd hdrange
  exact ⟨s, events, f, g, d, e, hread, hfeatures, hd, he, by omega, i, hi, j, hj, hiline.trans hjline.symm⟩

end SpecAtlas.Source
