import SpecAtlas.Source.Specification
import SpecAtlas.Proofs.Except
import SpecAtlas.Proofs.Source.Acceptance
import SpecAtlas.Proofs.Source.Run

/-!
# From findings to specifications

`judge_eq_ok` says all that can become of a method heading: it is turned down, it is a feature
without data, or it is one with the data of its where-block. `assemble` then only distributes the
findings: what it returns comes from the findings (`mem_assemble`) in their order
(`assemble_sublist`), and no specification is lost (`classLines_assemble`).
-/

namespace SpecAtlas.Source

open Text

/-! ## The lines of a file -/

/-- A file that is joined from lines has these lines. -/
theorem fileLines_join {texts : List Text} (hne : texts ≠ []) (h : ∀ line ∈ texts, '\n' ∉ line) :
    fileLines (join ['\n'] texts) = texts.map dropReturns := by
  rw [fileLines, lines_join hne h]

/-! ## One heading -/

/-- The number of the line that a finding is about. -/
def Finding.line : Finding → Nat
  | specification s => s.line
  | rejected line _ => line
  | feature f _ => f.line

/-- The line of a finding that is a specification. -/
def Finding.classLine? : Finding → Option Nat
  | specification s => some s.line
  | _ => none

theorem line_of_classLine? {finding : Finding} {line : Nat} (h : finding.classLine? = some line) :
    finding.line = line := by
  cases finding with
  | specification s => exact Option.some.inj h
  | rejected | feature => contradiction

/-- The line of a heading that is that of a class. -/
def Located.classLine? (located : Located) : Option Nat :=
  match located.heading with
  | .specification _ => some located.line
  | .method _ => none

/-- The where-block that is read for a heading, if data are wanted at all. -/
def wantedBlock? (withData : Bool) (lines : List Text) (line : Nat) : Option BlockSpan :=
  if withData then findBlock? lines line else none

/-- What becomes of a method heading. -/
inductive Judgement (withData : Bool) (lines : List Text) (line : Nat) (heading : MethodHeading) :
    Finding → Prop where
  | rejected {reason : Rejection} (h : rejection? heading (lines.drop (line + 1)) = some reason) :
      Judgement withData lines line heading (.rejected line reason)
  | plain (h : rejection? heading (lines.drop (line + 1)) = none)
      (hblock : wantedBlock? withData lines line = none) :
      Judgement withData lines line heading
        (.feature ⟨heading.name, line, .ofLine line (lines.getD line []), none⟩ [])
  | withData {block : BlockSpan} {cs : List Contribution}
      (h : rejection? heading (lines.drop (line + 1)) = none)
      (hblock : wantedBlock? withData lines line = some block) (hcs : contributions lines block = .ok cs) :
      Judgement withData lines line heading
        (.feature ⟨heading.name, line, .ofLine line (lines.getD line []),
          some ⟨block.range lines, number heading.name cs⟩⟩ cs)

theorem judge_eq_ok {withData : Bool} {lines : List Text} {line : Nat} {heading : MethodHeading}
    {finding : Finding} (h : judge withData lines line heading = .ok finding) :
    Judgement withData lines line heading finding := by
  unfold judge at h
  cases hr : rejection? heading (lines.drop (line + 1)) with
  | some reason =>
      rw [hr] at h
      cases h
      exact .rejected hr
  | none =>
      rw [hr] at h
      cases hb : wantedBlock? withData lines line with
      | none =>
          simp only [wantedBlock?] at hb
          simp only [hb] at h
          cases h
          exact .plain hr hb
      | some block =>
          have hb' := hb
          simp only [wantedBlock?] at hb'
          simp only [hb'] at h
          obtain ⟨cs, hcs, h⟩ := bind_eq_ok.1 h
          cases h
          exact .withData hr hb hcs

/-- A finding is about the line of its heading. -/
theorem line_of_finding {withData : Bool} {lines : List Text} {located : Located} {finding : Finding}
    (h : located.finding withData lines = .ok finding) : finding.line = located.line := by
  unfold Located.finding at h
  cases hh : located.heading with
  | specification heading =>
      rw [hh] at h
      cases h
      rfl
  | method heading =>
      rw [hh] at h
      cases judge_eq_ok h <;> rfl

/-- A finding is a specification exactly if its heading is that of a class. -/
theorem classLine?_of_finding {withData : Bool} {lines : List Text} {located : Located} {finding : Finding}
    (h : located.finding withData lines = .ok finding) :
    finding.classLine? = located.classLine? := by
  unfold Located.finding at h
  unfold Located.classLine?
  cases hh : located.heading with
  | specification heading =>
      rw [hh] at h
      cases h
      rfl
  | method heading =>
      rw [hh] at h
      cases judge_eq_ok h <;> rfl

theorem eq_of_finding_specification {withData : Bool} {lines : List Text} {located : Located}
    {s : Specification} (h : located.finding withData lines = .ok (.specification s)) :
    ∃ heading, located.heading = .specification heading ∧
      s = ⟨heading.name, located.line, .ofLine located.line (lines.getD located.line []),
        heading.isAbstract, []⟩ := by
  unfold Located.finding at h
  cases hh : located.heading with
  | specification heading =>
      rw [hh] at h
      cases h
      exact ⟨heading, rfl, rfl⟩
  | method heading =>
      rw [hh] at h
      cases judge_eq_ok h

theorem judgement_of_finding_feature {withData : Bool} {lines : List Text} {located : Located} {f : Feature}
    {cs : List Contribution} (h : located.finding withData lines = .ok (.feature f cs)) :
    ∃ heading, located.heading = .method heading ∧
      Judgement withData lines located.line heading (.feature f cs) := by
  unfold Located.finding at h
  cases hh : located.heading with
  | specification heading =>
      rw [hh] at h
      cases h
  | method heading =>
      rw [hh] at h
      exact ⟨heading, rfl, judge_eq_ok h⟩

/-! ## All headings -/

/-- What the headings of lines turn out to be. -/
def findingsOf (withData : Bool) (lines : List Text) : Except Refusal (List Finding) :=
  (headings lines).mapM (·.finding withData lines)

/-- The findings of a file belong to its headings, one to one and in order. -/
theorem forall₂_of_findings {withData : Bool} {content : Text} {fs : List Finding}
    (h : findings withData content = .ok fs) :
    List.Forall₂ (fun located finding => located.finding withData (fileLines content) = .ok finding)
      (headings (fileLines content)) fs :=
  forall₂_of_mapM h

theorem readSpecifications_eq_ok {withData : Bool} {content : Text} {specs : List Specification}
    {events : List Event} :
    readSpecifications withData content = .ok (specs, events) ↔
      ∃ fs, findings withData content = .ok fs ∧ specs = (assemble fs).2 ∧
        events = fs.flatMap Finding.events := by
  unfold readSpecifications
  rw [bind_eq_ok]
  constructor
  · rintro ⟨fs, hfs, he⟩
    cases he
    exact ⟨fs, hfs, rfl, rfl⟩
  · rintro ⟨fs, hfs, rfl, rfl⟩
    exact ⟨fs, hfs, rfl⟩

/-! ## Without data -/

/-- What a heading turns out to be if no data are wanted: nothing can be refused then. -/
def Located.plainFinding (lines : List Text) (located : Located) : Finding :=
  match located.heading with
  | .specification h =>
    .specification ⟨h.name, located.line, .ofLine located.line (lines.getD located.line []), h.isAbstract, []⟩
  | .method h =>
    match rejection? h (lines.drop (located.line + 1)) with
    | some reason => .rejected located.line reason
    | none => .feature ⟨h.name, located.line, .ofLine located.line (lines.getD located.line []), none⟩ []

theorem finding_false (lines : List Text) (located : Located) :
    located.finding false lines = .ok (located.plainFinding lines) := by
  unfold Located.finding Located.plainFinding
  cases located.heading with
  | specification h => rfl
  | method h =>
      simp only [judge]
      cases rejection? h (lines.drop (located.line + 1)) with
      | some reason => rfl
      | none => rfl

theorem plainFinding_of_rejected {lines : List Text} {line : Nat} {heading : MethodHeading} {reason : Rejection}
    (h : rejection? heading (lines.drop (line + 1)) = some reason) :
    Located.plainFinding lines ⟨line, .method heading⟩ = .rejected line reason := by
  simp only [Located.plainFinding, h]

theorem plainFinding_of_accepted {lines : List Text} {line : Nat} {heading : MethodHeading}
    (h : rejection? heading (lines.drop (line + 1)) = none) :
    Located.plainFinding lines ⟨line, .method heading⟩ =
      .feature ⟨heading.name, line, .ofLine line (lines.getD line []), none⟩ [] := by
  simp only [Located.plainFinding, h]

/-- Without data every file can be read. -/
theorem readSpecifications_false (content : Text) :
    (readSpecifications false content).map Prod.fst =
      .ok (assemble ((headings (fileLines content)).map (·.plainFinding (fileLines content)))).2 := by
  have hfindings : findings false content =
      .ok ((headings (fileLines content)).map (·.plainFinding (fileLines content))) :=
    mapM_eq_ok fun located _ => finding_false (fileLines content) located
  have hread := readSpecifications_eq_ok.2 ⟨_, hfindings, rfl, rfl⟩
  rw [hread]
  rfl

/-! ## Putting the findings together -/

/-- The lines that a specification and its features stand on. -/
def Specification.headingLines (s : Specification) : List Nat := s.line :: s.features.map Feature.line

/-- Features and specifications come in the order of the findings. -/
theorem assemble_sublist (fs : List Finding) :
    ((assemble fs).1.map Feature.line ++ (assemble fs).2.flatMap Specification.headingLines).Sublist
      (fs.map Finding.line) := by
  induction fs with
  | nil => exact List.Sublist.slnil
  | cons finding rest ih =>
      cases finding with
      | rejected line reason => exact ih.cons line
      | feature f cs => exact ih.cons_cons f.line
      | specification s => exact ih.cons_cons s.line

/-- Every feature of a file stands below its specification and above the next one, and features come in
the order of their lines. -/
theorem pairwise_headingLines {withData : Bool} {content : Text} {fs : List Finding}
    (h : findings withData content = .ok fs) :
    ((assemble fs).1.map Feature.line ++ (assemble fs).2.flatMap Specification.headingLines).Pairwise (· < ·) := by
  have hlines : fs.map Finding.line = (headings (fileLines content)).map Located.line :=
    map_eq_of_forall₂ ((forall₂_of_findings h).imp fun _ _ hf => line_of_finding hf)
  have hheadings : ((headings (fileLines content)).map Located.line).Pairwise (· < ·) :=
    List.pairwise_map.2 (pairwise_headingsFrom {} 0 (fileLines content))
  rw [← hlines] at hheadings
  exact hheadings.sublist (assemble_sublist fs)

/-- The findings of a file are specifications exactly where its headings are those of classes. -/
theorem classLines_findings {withData : Bool} {content : Text} {fs : List Finding}
    (h : findings withData content = .ok fs) :
    fs.filterMap Finding.classLine? = (headings (fileLines content)).filterMap Located.classLine? := by
  have hall := forall₂_of_findings h
  generalize headings (fileLines content) = located at hall
  clear h
  induction hall with
  | nil => rfl
  | cons hfinding _ ih =>
      rw [List.filterMap_cons, List.filterMap_cons, classLine?_of_finding hfinding, ih]

/-- No specification is lost, and none is added. -/
theorem classLines_assemble (fs : List Finding) :
    (assemble fs).2.map Specification.line = fs.filterMap Finding.classLine? := by
  induction fs with
  | nil => rfl
  | cons finding rest ih =>
      cases finding with
      | rejected line reason => exact ih
      | feature f cs => exact ih
      | specification s => exact congrArg (s.line :: ·) ih

/-- A feature that is found stands in front of all specifications or in one of them. -/
theorem feature_mem_assemble {fs : List Finding} {f : Feature} {cs : List Contribution} (h : .feature f cs ∈ fs) :
    f ∈ (assemble fs).1 ∨ ∃ s ∈ (assemble fs).2, f ∈ s.features := by
  induction fs with
  | nil => contradiction
  | cons finding rest ih =>
      cases finding with
      | rejected line reason => exact ih (by simpa using h)
      | feature g cs' =>
          rcases List.mem_cons.1 h with he | hrest
          · cases he
            exact .inl List.mem_cons_self
          · exact (ih hrest).imp_left (List.mem_cons_of_mem g)
      | specification s =>
          rcases ih (by simpa using h) with hfront | ⟨t, ht, hf⟩
          · exact .inr ⟨_, List.mem_cons_self, hfront⟩
          · exact .inr ⟨t, List.mem_cons_of_mem _ ht, hf⟩

/-- What is put together comes from the findings. -/
theorem mem_assemble (fs : List Finding) :
    (∀ f ∈ (assemble fs).1, ∃ cs, .feature f cs ∈ fs) ∧
      ∀ s ∈ (assemble fs).2, (∃ found, .specification found ∈ fs ∧ s = { found with features := s.features }) ∧
        ∀ f ∈ s.features, ∃ cs, .feature f cs ∈ fs := by
  induction fs with
  | nil => simp [assemble]
  | cons finding rest ih =>
      obtain ⟨hfeatures, hspecs⟩ := ih
      have hlater : ∀ f, (∃ cs, Finding.feature f cs ∈ rest) → ∃ cs, .feature f cs ∈ finding :: rest :=
        fun f ⟨cs, hcs⟩ => ⟨cs, List.mem_cons_of_mem _ hcs⟩
      have hspecs' : ∀ s ∈ (assemble rest).2,
          (∃ found, Finding.specification found ∈ finding :: rest ∧ s = { found with features := s.features }) ∧
            ∀ f ∈ s.features, ∃ cs, .feature f cs ∈ finding :: rest := by
        intro s hs
        obtain ⟨⟨found, hfound, he⟩, hown⟩ := hspecs s hs
        exact ⟨⟨found, List.mem_cons_of_mem _ hfound, he⟩, fun f hf => hlater f (hown f hf)⟩
      cases finding with
      | rejected line reason => exact ⟨fun f hf => hlater f (hfeatures f hf), hspecs'⟩
      | feature f cs =>
          refine ⟨fun g hg => ?_, hspecs'⟩
          cases List.mem_cons.1 hg with
          | inl he => exact ⟨cs, he ▸ List.mem_cons_self⟩
          | inr hr => exact hlater g (hfeatures g hr)
      | specification found =>
          refine ⟨fun g hg => by simp [assemble] at hg, fun s hs => ?_⟩
          cases List.mem_cons.1 hs with
          | inl he =>
              subst he
              exact ⟨⟨found, List.mem_cons_self, rfl⟩, fun f hf => hlater f (hfeatures f hf)⟩
          | inr hr => exact hspecs' s hr

end SpecAtlas.Source
