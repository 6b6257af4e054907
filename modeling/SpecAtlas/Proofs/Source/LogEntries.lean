import SpecAtlas.Proofs.Source.Finding

/-!
# The tree of a file in its log

Reading a file gives the tree of its specifications and a log of events. The tree is put together from the findings,
and the log lists the events of every finding. So the two part where a finding is left out of the tree, which is what
happens to a feature in front of all specifications; but the scan reports no method there (`fst_assemble_findings`).

A specification and a feature have entries in the log. Without rejections and the contents of tables, the log lists
the entries of the tree, in order (`filter_isOfTree`). From the entries the tree is told again: its specifications, its
features, and, right in front of each number of iterations, the feature that has them (`exists_feature_of_entries`).
-/

namespace SpecAtlas

open Source

/-! ## What events tell -/

namespace Event

/-- The name and the line of a specification that is found. -/
def classFound? : Event → Option (Text × Nat)
  | classFound name line => some (name, line)
  | _ => none

/-- The name and the line of a method that is accepted. -/
def methodAccepted? : Event → Option (Text × Nat)
  | methodAccepted name line => some (name, line)
  | _ => none

/-- The name of a method whose data have been read, and the number of its iterations. -/
def iterationsRead? : Event → Option (Text × Nat)
  | iterationsRead method count => some (method, count)
  | _ => none

/-- Whether an event tells of a feature of the tree. -/
def isOfFeature : Event → Bool
  | methodAccepted .. | iterationsRead .. => true
  | _ => false

/-- Whether an event tells of something in the tree. -/
def isOfTree : Event → Bool
  | classFound .. | methodAccepted .. | iterationsRead .. => true
  | _ => false

section

variable {e : Event}

theorem classFound?_of_not_isOfTree (h : e.isOfTree = false) : e.classFound? = none := by
  cases e <;> trivial

theorem methodAccepted?_of_not_isOfFeature (h : e.isOfFeature = false) : e.methodAccepted? = none := by
  cases e <;> trivial

theorem iterationsRead?_of_not_isOfFeature (h : e.isOfFeature = false) : e.iterationsRead? = none := by
  cases e <;> trivial

end

end Event

/-- What is told by events of one kind only is told by them, whatever stands between them. -/
theorem filterMap_filter_events {α : Type} {p : Event → Bool} {f : Event → Option α}
    (hf : ∀ e, p e = false → f e = none) (log : List Event) : (log.filter p).filterMap f = log.filterMap f := by
  rw [List.filterMap_filter]
  congr 1
  funext e
  cases he : p e with
  | true => rfl
  | false => exact (hf e he).symm

namespace Source

/-! ## Entries -/

/-- The name of a feature and the number of its iterations, if it has data. -/
def Feature.iterationCount? (f : Feature) : Option (Text × Nat) := f.data.map fun d => (f.name, d.iterations.length)

/-- The entries of a feature in the log. -/
def Feature.entries (f : Feature) : List Event :=
  .methodAccepted f.name f.line :: (f.iterationCount?.map fun c => .iterationsRead c.1 c.2).toList

/-- The entries of a specification in the log, with those of its features. -/
def Specification.entries (s : Specification) : List Event :=
  .classFound s.name s.line :: s.features.flatMap Feature.entries

section

variable (f : Feature)

theorem filterMap_classFound?_feature : f.entries.filterMap Event.classFound? = [] := by
  obtain ⟨name, line, range, data⟩ := f
  cases data <;> rfl

theorem filterMap_methodAccepted?_feature : f.entries.filterMap Event.methodAccepted? = [(f.name, f.line)] := by
  obtain ⟨name, line, range, data⟩ := f
  cases data <;> rfl

theorem filterMap_iterationsRead?_feature : f.entries.filterMap Event.iterationsRead? = f.iterationCount?.toList := by
  obtain ⟨name, line, range, data⟩ := f
  cases data <;> rfl

/-- All the entries of a feature tell of it. -/
theorem filter_isOfFeature_feature : f.entries.filter Event.isOfFeature = f.entries := by
  obtain ⟨name, line, range, data⟩ := f
  cases data <;> rfl

end

/-- The entries of specifications tell their names and lines. -/
theorem filterMap_classFound?_entries (specs : List Specification) :
    (specs.flatMap Specification.entries).filterMap Event.classFound? = specs.map fun s => (s.name, s.line) := by
  induction specs with
  | nil => rfl
  | cons s rest ih =>
      have hhere : s.entries.filterMap Event.classFound? = [(s.name, s.line)] := by
        show (s.name, s.line) :: (s.features.flatMap Feature.entries).filterMap Event.classFound? = _
        simp [List.filterMap_flatMap, filterMap_classFound?_feature]
      rw [List.flatMap_cons, List.filterMap_append, hhere, ih]
      rfl

/-- Among the entries of specifications stand those of all their features, in order. -/
theorem filter_isOfFeature_entries (specs : List Specification) :
    (specs.flatMap Specification.entries).filter Event.isOfFeature =
      (specs.flatMap Specification.features).flatMap Feature.entries := by
  induction specs with
  | nil => rfl
  | cons s rest ih =>
      have hhere : s.entries.filter Event.isOfFeature = s.features.flatMap Feature.entries := by
        show (s.features.flatMap Feature.entries).filter Event.isOfFeature = _
        simp [List.filter_flatMap, filter_isOfFeature_feature]
      rw [List.flatMap_cons, List.filter_append, hhere, ih, List.flatMap_cons, List.flatMap_append]

/-- The entries of features tell their names and lines. -/
theorem filterMap_methodAccepted?_entries (features : List Feature) :
    (features.flatMap Feature.entries).filterMap Event.methodAccepted? = features.map fun f => (f.name, f.line) := by
  induction features with
  | nil => rfl
  | cons f rest ih =>
      rw [List.flatMap_cons, List.filterMap_append, filterMap_methodAccepted?_feature, ih]
      rfl

/-- The entries of features tell the numbers of their iterations. -/
theorem filterMap_iterationsRead?_entries (features : List Feature) :
    (features.flatMap Feature.entries).filterMap Event.iterationsRead? =
      features.filterMap Feature.iterationCount? := by
  induction features with
  | nil => rfl
  | cons f rest ih =>
      rw [List.flatMap_cons, List.filterMap_append, filterMap_iterationsRead?_feature, ih, List.filterMap_cons]
      cases f.iterationCount? <;> rfl

/-- Among the entries of features the acceptance of the feature that has iterations stands right in front of their
number. -/
theorem exists_feature_of_entries {features : List Feature} {front back : List Event} {method : Text} {count : Nat}
    (h : features.flatMap Feature.entries = front ++ .iterationsRead method count :: back) :
    ∃ f ∈ features, f.iterationCount? = some (method, count) ∧
      front.getLast? = some (.methodAccepted f.name f.line) := by
  induction features generalizing front with
  | nil => simp at h
  | cons f rest ih =>
      have hlater (lead : List Event) {tail : List Event}
          (htail : rest.flatMap Feature.entries = tail ++ .iterationsRead method count :: back) :
          ∃ g ∈ f :: rest, g.iterationCount? = some (method, count) ∧
            (lead ++ tail).getLast? = some (.methodAccepted g.name g.line) := by
        obtain ⟨g, hg, hcount, hlast⟩ := ih htail
        exact ⟨g, List.mem_cons_of_mem f hg, hcount, by simp [List.getLast?_append, hlast]⟩
      rw [List.flatMap_cons] at h
      cases hcount : f.iterationCount? with
      | none =>
          have hentries : f.entries = [.methodAccepted f.name f.line] := by simp [Feature.entries, hcount]
          rw [hentries, List.singleton_append] at h
          cases front with
          | nil => simp at h
          | cons e tail =>
              obtain ⟨rfl, htail⟩ := List.cons.inj h
              exact hlater [_] htail
      | some own =>
          have hentries : f.entries = [.methodAccepted f.name f.line, .iterationsRead own.1 own.2] := by
            simp [Feature.entries, hcount]
          rw [hentries, List.cons_append, List.singleton_append] at h
          cases front with
          | nil => simp at h
          | cons e front =>
              obtain ⟨rfl, hfront⟩ := List.cons.inj h
              cases front with
              | nil =>
                  obtain ⟨hown, -⟩ := List.cons.inj hfront
                  obtain ⟨rfl, rfl⟩ := Event.iterationsRead.inj hown
                  exact ⟨f, List.mem_cons_self, hcount, rfl⟩
              | cons e tail =>
                  obtain ⟨rfl, htail⟩ := List.cons.inj hfront
                  exact hlater [_, _] htail

/-! ## The events of findings -/

section

variable {p : Event → Bool} (hheader : ∀ line columns, p (.tableHeader line columns) = false)
  (hpipe : ∀ line expression, p (.pipeUnreadable line expression) = false)

include hheader hpipe

/-- Without the contents of tables, the events of a feature that is found are its entries. -/
theorem filter_events_feature (f : Feature) (cs : List Contribution) :
    (Finding.feature f cs).events.filter p = f.entries.filter p := by
  have hnone : (cs.filterMap Contribution.event?).filter p = [] := by
    refine List.filter_eq_nil_iff.2 fun e he => ?_
    obtain ⟨c, -, hc⟩ := List.mem_filterMap.1 he
    cases c with
    | header line columns =>
        cases hc
        simp [hheader]
    | unreadable line expression =>
        cases hc
        simp [hpipe]
    | data line values => cases hc
  cases hdata : f.data with
  | none => simp [Finding.events, Feature.entries, Feature.iterationCount?, hdata]
  | some d =>
      simp only [Finding.events, Feature.entries, Feature.iterationCount?, hdata, dataEvents, Option.map_some,
        Option.toList_some]
      rw [List.filter_cons, List.filter_cons, List.filter_append, hnone, List.nil_append]

end

/-- What is put together from findings has the entries that their events list. -/
theorem filter_isOfTree_assemble (fs : List Finding) :
    (fs.flatMap Finding.events).filter Event.isOfTree =
      (assemble fs).1.flatMap Feature.entries ++ (assemble fs).2.flatMap Specification.entries := by
  induction fs with
  | nil => rfl
  | cons finding rest ih =>
      rw [List.flatMap_cons, List.filter_append, ih]
      cases finding with
      | rejected line reason => rfl
      | feature f cs =>
          have hhere : (Finding.feature f cs).events.filter Event.isOfTree = f.entries := by
            rw [filter_events_feature (fun _ _ => rfl) (fun _ _ => rfl)]
            obtain ⟨name, line, range, data⟩ := f
            cases data <;> rfl
          simp [hhere, assemble]
      | specification s =>
          have hhere : (Finding.specification s).events.filter Event.isOfTree = [.classFound s.name s.line] := rfl
          simp [hhere, assemble, Specification.entries]

/-! ## Nothing in front of the tree -/

/-- Outside of classes the first heading that the scan reports is that of a specification. -/
theorem head?_headingsFrom {p : Position} (hp : p.inClass = false) (index : Nat) (lines : List Text) :
    ∀ classLine ∈ ((headingsFrom p index lines).map Located.classLine?).head?, classLine.isSome = true := by
  induction lines generalizing index with
  | nil => simp [headingsFrom]
  | cons line rest ih =>
      rw [headingsFrom_cons]
      cases hclass : declaresClass line with
      | true =>
          obtain ⟨heading, hheading⟩ := Option.isSome_iff_exists.1 hclass
          simp [Position.advance_of_class p hheading, Located.classLine?]
      | false =>
          rw [Position.advance_outside hclass hp]
          exact ih (index + 1)

theorem fst_assemble {fs : List Finding}
    (h : ∀ classLine ∈ (fs.map Finding.classLine?).head?, classLine.isSome = true) : (assemble fs).1 = [] := by
  cases fs with
  | nil => rfl
  | cons finding rest =>
      cases finding with
      | specification s => rfl
      | rejected line reason => simp [Finding.classLine?] at h
      | feature f cs => simp [Finding.classLine?] at h

variable {withData : Bool} {content : Text}

/-- **No feature stands in front of all specifications**, so every feature that is found is in the tree. -/
theorem fst_assemble_findings {fs : List Finding} (h : findings withData content = .ok fs) : (assemble fs).1 = [] := by
  have hlines : fs.map Finding.classLine? = (headings (fileLines content)).map Located.classLine? :=
    map_eq_of_forall₂ ((forall₂_of_findings h).imp fun _ _ => classLine?_of_finding)
  exact fst_assemble (hlines ▸ head?_headingsFrom rfl 0 (fileLines content))

/-- **The log lists the tree**, if rejections and the contents of tables are left out. -/
theorem filter_isOfTree {specs : List Specification} {log : List Event}
    (h : readSpecifications withData content = .ok (specs, log)) :
    log.filter Event.isOfTree = specs.flatMap Specification.entries := by
  obtain ⟨fs, hfs, rfl, rfl⟩ := readSpecifications_eq_ok.1 h
  rw [filter_isOfTree_assemble, fst_assemble_findings hfs]
  rfl

end Source

end SpecAtlas
