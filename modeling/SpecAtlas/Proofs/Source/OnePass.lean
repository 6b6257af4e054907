import SpecAtlas.Proofs.Source.LogEntries

/-!
# One pass over the lines

A file is read in two steps: the headings of its lines become findings, and the findings are put together to a
tree. The same can be done in one pass that keeps the specification that is still pending, to which features are
added. It begins with its heading, and it is over as soon as the position is outside of classes.

`readInOnePass` is this pass, line by line. A step and the findings behind it come to the same
(`Progress.followedBy_take`, `Progress.followedBy_moveTo`), and so do the two ways of reading
(`readSpecifications_eq_onePass`).
-/

namespace SpecAtlas.Source

/-- How far one pass over a file has come. -/
structure Progress where
  position : Position := {}
  /-- The specifications that get no more features. -/
  closed : List Specification := []
  /-- The specification that features are added to. -/
  pending : Option Specification := none
  events : List Event := []

namespace Progress

/-- The specifications so far, in order. -/
def specifications (p : Progress) : List Specification := p.closed ++ p.pending.toList

/-- Takes a finding in: a specification is pending from there on, and a feature is added to the pending one. -/
def take (p : Progress) (finding : Finding) : Progress :=
  let events := p.events ++ finding.events
  match finding with
  | .specification s => { p with closed := p.specifications, pending := some s, events }
  | .rejected .. => { p with events }
  | .feature f _ => { p with pending := p.pending.map fun s => { s with features := s.features ++ [f] }, events }

/-- Moves on to a position. Outside of classes no specification is pending. -/
def moveTo (p : Progress) (position : Position) : Progress :=
  if position.inClass then { p with position }
  else { p with position, closed := p.specifications, pending := none }

/-- One line, with its number. A method counts only while a specification is pending. -/
def step (withData : Bool) (lines : List Text) (p : Progress) (line : Text × Nat) : Except Refusal Progress := do
  let (position, heading) := p.position.advance line.1
  let p ← match heading, p.pending with
    | some (.specification h), _ =>
      pure (p.take (.specification ⟨h.name, line.2, .ofLine line.2 line.1, h.isAbstract, []⟩))
    | some (.method h), some _ => pure (p.take (← judge withData lines line.2 h))
    | _, _ => pure p
  return p.moveTo position

end Progress

/-- Reads a file in one pass over its lines. -/
def readInOnePass (withData : Bool) (content : Text) : Except Refusal (List Specification × List Event) := do
  let lines := fileLines content
  let p ← lines.zipIdx.foldlM (Progress.step withData lines) {}
  return (p.specifications, p.events)

/-- Where a line that reports nothing leads into a class, the scan was in it before. -/
theorem Position.inClass_of_advance {p : Position} {line : Text} (hnone : (p.advance line).2 = none)
    (hnext : (p.advance line).1.inClass = true) : p.inClass = true := by
  cases hclass : declaresClass line with
  | true =>
      obtain ⟨heading, hheading⟩ := Option.isSome_iff_exists.1 hclass
      rw [advance_of_class p hheading] at hnone
      contradiction
  | false =>
      cases hp : p.inClass with
      | true => rfl
      | false =>
          rw [advance_outside hclass hp] at hnext
          exact hp.symm.trans hnext

namespace Progress

variable {withData : Bool} {lines : List Text} {p : Progress} {fs : List Finding}

/-! ## What is still to come -/

/-- What a pass comes to if these findings are still to come: the features in front of the next specification go to
the pending one. -/
def followedBy (p : Progress) (fs : List Finding) : List Specification × List Event :=
  let rest := match p.pending with
    | none => (assemble fs).2
    | some s => { s with features := s.features ++ (assemble fs).1 } :: (assemble fs).2
  (p.closed ++ rest, p.events ++ fs.flatMap Finding.events)

theorem followedBy_nil (p : Progress) : p.followedBy [] = (p.specifications, p.events) := by
  unfold followedBy specifications
  cases p.pending <;> simp [assemble]

/-- A finding is taken in now or counted among those to come. -/
theorem followedBy_take {finding : Finding}
    (h : (∃ s, finding = .specification s ∧ s.features = []) ∨ finding.classLine? = none ∧ p.pending.isSome = true) :
    (p.take finding).followedBy fs = p.followedBy (finding :: fs) := by
  rcases h with ⟨s, rfl, hs⟩ | ⟨hline, hpending⟩
  · unfold followedBy take specifications
    cases p.pending <;> simp [assemble, hs]
  · obtain ⟨s, hs⟩ := Option.isSome_iff_exists.1 hpending
    unfold followedBy take
    cases finding with
    | specification s => contradiction
    | rejected line reason => simp [assemble, hs]
    | feature f cs => simp [assemble, hs]

/-- Outside of classes nothing can come to the pending specification. -/
theorem followedBy_moveTo {position : Position} (h : position.inClass = false → (assemble fs).1 = []) :
    (p.moveTo position).followedBy fs = p.followedBy fs := by
  unfold moveTo
  split
  · rfl
  · rename_i hout
    have hnone := h (Bool.eq_false_iff.2 hout)
    unfold followedBy specifications
    cases p.pending <;> simp [hnone]

/-! ## One line -/

/-- A specification is pending exactly inside of classes. -/
def IsSound (p : Progress) : Prop := p.pending.isSome = p.position.inClass

theorem isSound_moveTo {position : Position} (h : position.inClass = true → p.pending.isSome = true) :
    (p.moveTo position).IsSound := by
  unfold moveTo IsSound
  split
  · rename_i hin
    exact (h hin).trans hin.symm
  · rename_i hout
    exact (Bool.eq_false_iff.2 hout).symm

theorem isSome_take {finding : Finding} (h : finding.classLine?.isSome = true ∨ p.pending.isSome = true) :
    (p.take finding).pending.isSome = true := by
  unfold take
  cases finding with
  | specification s => rfl
  | rejected line reason => simpa [Finding.classLine?] using h
  | feature f cs => simpa [Finding.classLine?] using h

/-- **One step** moves on, and takes in what the heading of the line turns out to be, if it is one. -/
theorem step_eq (hp : p.IsSound) {line : Text} {index : Nat} (hline : lines.getD index [] = line) :
    p.step withData lines (line, index) =
      match (p.position.advance line).2 with
      | none => .ok (p.moveTo (p.position.advance line).1)
      | some heading => (Located.finding withData lines ⟨index, heading⟩).map fun finding =>
          (p.take finding).moveTo (p.position.advance line).1 := by
  unfold step Located.finding
  dsimp only
  cases hheading : (p.position.advance line).2 with
  | none => rfl
  | some heading =>
      cases heading with
      | specification h =>
          dsimp only
          rw [hline]
          rfl
      | method h =>
          have hin := (Position.snd_advance_eq_method.1 hheading).2.1
          obtain ⟨s, hs⟩ := Option.isSome_iff_exists.1 (hp.trans hin)
          rw [hs]
          cases judge withData lines index h <;> rfl

/-- What the heading of a line turns out to be can be taken in, and leaves a specification pending. -/
theorem takes_finding (hp : p.IsSound) {line : Text} {index : Nat} {heading : Heading}
    (hheading : (p.position.advance line).2 = some heading) {finding : Finding}
    (hfinding : Located.finding withData lines ⟨index, heading⟩ = .ok finding) :
    ((∃ s, finding = .specification s ∧ s.features = []) ∨ finding.classLine? = none ∧ p.pending.isSome = true) ∧
      (p.take finding).pending.isSome = true := by
  have hline := classLine?_of_finding hfinding
  cases heading with
  | specification h =>
      cases hfinding
      exact ⟨.inl ⟨_, rfl, rfl⟩, rfl⟩
  | method h =>
      have hpending := hp.trans (Position.snd_advance_eq_method.1 hheading).2.1
      exact ⟨.inr ⟨hline, hpending⟩, isSome_take (.inr hpending)⟩

/-! ## All lines -/

@[simp] theorem position_moveTo (p : Progress) (position : Position) : (p.moveTo position).position = position := by
  unfold moveTo
  split <;> rfl

/-- Outside of classes no feature is found in front of the next specification. -/
theorem fst_assemble_headingsFrom {position : Position} (hout : position.inClass = false) {rest : List Text}
    {index : Nat} (hfs : (headingsFrom position index rest).mapM (Located.finding withData lines) = .ok fs) :
    (assemble fs).1 = [] := by
  have hlines : fs.map Finding.classLine? = (headingsFrom position index rest).map Located.classLine? :=
    map_eq_of_forall₂ ((forall₂_of_mapM hfs).imp fun _ _ => classLine?_of_finding)
  exact fst_assemble (hlines ▸ head?_headingsFrom hout index rest)

/-- **A run** over the lines from a number on comes to what the findings there come to. -/
theorem run_eq (withData : Bool) (lines : List Text) {rest : List Text} {index : Nat} (hp : p.IsSound)
    (hrest : lines.drop index = rest) :
    ((rest.zipIdx index).foldlM (step withData lines) p).map (fun q => (q.specifications, q.events)) =
      ((headingsFrom p.position index rest).mapM (Located.finding withData lines)).map p.followedBy := by
  induction rest generalizing index p with
  | nil => exact congrArg Except.ok (followedBy_nil p).symm
  | cons line rest ih =>
      have hline : lines.getD index [] = line := by
        rw [List.getD_eq_getElem?_getD, ← List.head?_drop, hrest]
        rfl
      have hbelow : lines.drop (index + 1) = rest := by rw [← List.drop_drop, hrest, List.drop_one, List.tail_cons]
      -- From a sound place behind the line the run goes on like the findings behind the line.
      have hnext {q : Progress} (hq : (q.moveTo (p.position.advance line).1).IsSound) :
          ((rest.zipIdx (index + 1)).foldlM (step withData lines) (q.moveTo (p.position.advance line).1)).map
              (fun q => (q.specifications, q.events)) =
            ((headingsFrom (p.position.advance line).1 (index + 1) rest).mapM
              (Located.finding withData lines)).map q.followedBy := by
        rw [ih hq hbelow, position_moveTo]
        exact map_congr_ok fun fs hfs => followedBy_moveTo fun hout => fst_assemble_headingsFrom hout hfs
      rw [List.zipIdx_cons, List.foldlM_cons, step_eq hp hline, headingsFrom_cons]
      cases hheading : (p.position.advance line).2 with
      | none => exact hnext (isSound_moveTo fun hin => hp.trans (Position.inClass_of_advance hheading hin))
      | some heading =>
          dsimp only [Option.map_some, Option.toList_some, List.singleton_append]
          rw [List.mapM_cons]
          cases hfinding : Located.finding withData lines ⟨index, heading⟩ with
          | error e => rfl
          | ok finding =>
              obtain ⟨htakes, hpending⟩ := takes_finding hp hheading hfinding
              refine (hnext (isSound_moveTo fun _ => hpending)).trans ?_
              rw [show (p.take finding).followedBy = fun fs => p.followedBy (finding :: fs) from
                funext fun fs => followedBy_take htakes]
              cases (headingsFrom (p.position.advance line).1 (index + 1) rest).mapM
                (Located.finding withData lines) <;> rfl

end Progress

/-- **Reading in one pass** gives the same tree, the same events and the same refusals. -/
theorem readSpecifications_eq_onePass (withData : Bool) (content : Text) :
    readSpecifications withData content = readInOnePass withData content := by
  have hrun := Progress.run_eq (p := {}) withData (fileLines content) rfl (List.drop_zero (l := fileLines content))
  calc readSpecifications withData content
      = (findings withData content).map fun fs => ((assemble fs).2, fs.flatMap Finding.events) := rfl
    _ = ((fileLines content).zipIdx.foldlM (Progress.step withData (fileLines content)) {}).map
          fun q => (q.specifications, q.events) := hrun.symm
    _ = readInOnePass withData content := rfl

end SpecAtlas.Source
