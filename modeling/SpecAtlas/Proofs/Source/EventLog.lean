import SpecAtlas.Proofs.Source.LogEntries

/-!
# The log of a file

The log of reading a file tells the same as the tree and the scan.

1. The entries of the tree in the log are those of the specifications and features in it
   (`filter_isOfFeature`, `exists_feature_of_log`).
2. A line for which the scan reports a method has one event that decides on it, and no other line has any
   (`filter_decides`).
3. Without data, a file gives the same tree and the same log, less what belongs to data
   (`readSpecifications_withoutData`).

`Mirrors` collects what a log tells of a tree, and `mirrors_readSpecifications` proves it for every file that can be
read.
-/

namespace SpecAtlas

open Source

namespace Event

/-- Whether an event accepts the method in a line or turns it down. -/
def decides (line : Nat) : Event → Bool
  | methodAccepted _ l => l == line
  | methodRejected l _ => l == line
  | _ => false

/-- Whether an event belongs to the data of a method. -/
def isOfData : Event → Bool
  | tableHeader .. | pipeUnreadable .. | iterationsRead .. => true
  | _ => false

end Event

namespace Source

variable {withData : Bool} {content : Text} {specs : List Specification} {log : List Event}

/-! ## The tree -/

section

variable (h : log.filter Event.isOfTree = specs.flatMap Specification.entries)

include h

/-- What the log tells of features are the entries of the features of the tree. -/
theorem filter_isOfFeature :
    log.filter Event.isOfFeature = (specs.flatMap Specification.features).flatMap Feature.entries := by
  rw [← filter_isOfFeature_entries, ← h, List.filter_filter]
  congr 1
  funext e
  cases e <;> rfl

/-- The number of iterations that the log tells is that of the feature that was accepted last. -/
theorem exists_feature_of_log {front back : List Event} {method : Text} {count : Nat}
    (hlog : log = front ++ .iterationsRead method count :: back) :
    ∃ f ∈ specs.flatMap Specification.features, f.iterationCount? = some (method, count) ∧
      (front.filterMap Event.methodAccepted?).getLast? = some (f.name, f.line) := by
  have hentries : (specs.flatMap Specification.features).flatMap Feature.entries =
      front.filter Event.isOfFeature ++ .iterationsRead method count :: back.filter Event.isOfFeature := by
    rw [← filter_isOfFeature h, hlog, List.filter_append]
    rfl
  obtain ⟨f, hf, hcount, hlast⟩ := exists_feature_of_entries hentries
  obtain ⟨lead, hlead⟩ := List.getLast?_eq_some_iff.1 hlast
  refine ⟨f, hf, hcount, ?_⟩
  rw [← filterMap_filter_events fun _ => Event.methodAccepted?_of_not_isOfFeature, hlead, List.filterMap_append]
  exact List.getLast?_concat

end

/-! ## Decisions -/

/-- The heading that the scan of lines reports for one of them. -/
def Position.headingAt? (p : Position) (lines : List Text) (k : Nat) : Option Heading :=
  lines[k]?.bind fun line => ((p.run (lines.take k)).advance line).2

/-- The method that the scan of a file reports for a line. -/
def candidate? (lines : List Text) (k : Nat) : Option MethodHeading :=
  match ({} : Position).headingAt? lines k with
  | some (.method heading) => some heading
  | _ => none

/-- The event that decides on a method. -/
def decision (lines : List Text) (line : Nat) (heading : MethodHeading) : Event :=
  match rejection? heading (lines.drop (line + 1)) with
  | some reason => .methodRejected line reason
  | none => .methodAccepted heading.name line

/-- What no heading has but that of one line, the headings of a file have from that. -/
theorem flatMap_headingsFrom {α : Type} {p : Position} {index k : Nat} {g : Located → List α}
    (hg : ∀ located, located.line ≠ index + k → g located = []) (lines : List Text) :
    (headingsFrom p index lines).flatMap g = (p.headingAt? lines k).toList.flatMap fun h => g ⟨index + k, h⟩ := by
  induction lines generalizing p index k with
  | nil => rfl
  | cons line rest ih =>
      rw [headingsFrom_cons, List.flatMap_append]
      cases k with
      | zero =>
          have hrest : (headingsFrom (p.advance line).1 (index + 1) rest).flatMap g = [] := by
            refine List.flatMap_eq_nil_iff.2 fun located hlocated => hg located ?_
            obtain ⟨j, -, -, hj, -⟩ := mem_headingsFrom.1 hlocated
            omega
          rw [hrest, List.append_nil]
          show ((p.advance line).2.map (⟨index, ·⟩)).toList.flatMap g = (p.advance line).2.toList.flatMap _
          cases (p.advance line).2 <;> rfl
      | succ k =>
          have hhere : ((p.advance line).2.map (⟨index, ·⟩)).toList.flatMap g = [] := by
            refine List.flatMap_eq_nil_iff.2 fun located hlocated => hg located ?_
            obtain ⟨h, -, rfl⟩ := Option.map_eq_some_iff.1 (Option.mem_toList.1 hlocated)
            show index ≠ _
            omega
          have hline : index + 1 + k = index + (k + 1) := by omega
          rw [hhere, List.nil_append, ih fun located hne => hg located (hline ▸ hne), hline]
          rfl

/-- The decisions on a line that a heading leads to. -/
def Located.decisions (lines : List Text) (k : Nat) (located : Located) : List Event :=
  match located.heading with
  | .specification _ => []
  | .method heading => if located.line = k then [decision lines located.line heading] else []

theorem decisions_of_ne {lines : List Text} {k : Nat} {located : Located} (h : located.line ≠ k) :
    located.decisions lines k = [] := by
  unfold Located.decisions
  cases located.heading with
  | specification heading => rfl
  | method heading => exact if_neg h

theorem filter_decides_feature (k : Nat) (f : Feature) (cs : List Contribution) :
    (Finding.feature f cs).events.filter (Event.decides k) =
      if f.line = k then [.methodAccepted f.name f.line] else [] := by
  rw [filter_events_feature (fun _ _ => rfl) (fun _ _ => rfl)]
  cases hdata : f.data <;> simp [Feature.entries, Feature.iterationCount?, hdata, Event.decides, List.filter_cons]

/-- A finding has the decisions that its heading leads to. -/
theorem filter_decides_finding {lines : List Text} {located : Located} {finding : Finding}
    (h : located.finding withData lines = .ok finding) (k : Nat) :
    finding.events.filter (Event.decides k) = located.decisions lines k := by
  obtain ⟨line, heading⟩ := located
  cases heading with
  | specification heading =>
      cases h
      rfl
  | method heading =>
      show finding.events.filter (Event.decides k) = if line = k then [decision lines line heading] else []
      cases judge_eq_ok h with
      | @rejected reason hr =>
          have hdecision : decision lines line heading = .methodRejected line reason := by rw [decision, hr]
          simp [hdecision, Finding.events, Event.decides, List.filter_cons]
      | plain hr =>
          have hdecision : decision lines line heading = .methodAccepted heading.name line := by rw [decision, hr]
          rw [hdecision, filter_decides_feature]
      | withData hr =>
          have hdecision : decision lines line heading = .methodAccepted heading.name line := by rw [decision, hr]
          rw [hdecision, filter_decides_feature]

/-- **A line has one decision if the scan reports a method for it**, and otherwise it has none. -/
theorem filter_decides (h : readSpecifications withData content = .ok (specs, log)) (k : Nat) :
    log.filter (Event.decides k) =
      ((candidate? (fileLines content) k).map (decision (fileLines content) k)).toList := by
  obtain ⟨fs, hfs, -, rfl⟩ := readSpecifications_eq_ok.1 h
  have hdecisions : fs.map (fun finding => finding.events.filter (Event.decides k)) =
      (headings (fileLines content)).map (Located.decisions (fileLines content) k) :=
    map_eq_of_forall₂ ((forall₂_of_findings hfs).imp fun _ _ hf => filter_decides_finding hf k)
  have hother : ∀ located : Located, located.line ≠ 0 + k → located.decisions (fileLines content) k = [] :=
    fun located hne => decisions_of_ne (Nat.zero_add k ▸ hne)
  rw [List.filter_flatMap, List.flatMap_def, hdecisions, ← List.flatMap_def, headings, flatMap_headingsFrom hother,
    candidate?, Nat.zero_add]
  cases ({} : Position).headingAt? (fileLines content) k with
  | none => rfl
  | some heading =>
      cases heading with
      | specification heading => rfl
      | method heading => simp [Located.decisions]

/-! ## Without data -/

/-- A feature without its data. -/
def Feature.withoutData (f : Feature) : Feature := { f with data := none }

/-- A specification whose features are without their data. -/
def Specification.withoutData (s : Specification) : Specification :=
  { s with features := s.features.map Feature.withoutData }

/-- What a heading turns out to be if no data are wanted. -/
def Finding.withoutData : Finding → Finding
  | specification s => specification s.withoutData
  | rejected line reason => rejected line reason
  | feature f _ => feature f.withoutData []

theorem plainFinding_of_finding {lines : List Text} {located : Located} {finding : Finding}
    (h : located.finding withData lines = .ok finding) : located.plainFinding lines = finding.withoutData := by
  obtain ⟨line, heading⟩ := located
  cases heading with
  | specification heading =>
      cases h
      rfl
  | method heading =>
      cases judge_eq_ok h with
      | rejected hr => exact plainFinding_of_rejected hr
      | plain hr => exact plainFinding_of_accepted hr
      | withData hr => exact plainFinding_of_accepted hr

theorem events_withoutData (finding : Finding) :
    finding.withoutData.events = finding.events.filter fun e => !e.isOfData := by
  cases finding with
  | specification s => rfl
  | rejected line reason => rfl
  | feature f cs =>
      rw [filter_events_feature (fun _ _ => rfl) (fun _ _ => rfl)]
      obtain ⟨name, line, range, data⟩ := f
      cases data <;> rfl

theorem assemble_withoutData (fs : List Finding) :
    assemble (fs.map Finding.withoutData) =
      ((assemble fs).1.map Feature.withoutData, (assemble fs).2.map Specification.withoutData) := by
  induction fs with
  | nil => rfl
  | cons finding rest ih =>
      cases finding with
      | rejected line reason => exact ih
      | feature f cs => simp [Finding.withoutData, assemble, ih]
      | specification s => simp [Finding.withoutData, assemble, ih, Specification.withoutData]

/-- **Without data the tree is the same and the log is the same**, less what belongs to data. -/
theorem readSpecifications_withoutData (h : readSpecifications withData content = .ok (specs, log)) :
    readSpecifications false content =
      .ok (specs.map Specification.withoutData, log.filter fun e => !e.isOfData) := by
  obtain ⟨fs, hfs, rfl, rfl⟩ := readSpecifications_eq_ok.1 h
  have hplain : fs.map Finding.withoutData =
      (headings (fileLines content)).map (·.plainFinding (fileLines content)) :=
    map_eq_of_forall₂ ((forall₂_of_findings hfs).imp fun _ _ hf => (plainFinding_of_finding hf).symm)
  have hfindings : findings false content = .ok (fs.map Finding.withoutData) := by
    rw [hplain]
    exact mapM_eq_ok fun located _ => finding_false (fileLines content) located
  refine readSpecifications_eq_ok.2 ⟨_, hfindings, ?_, ?_⟩
  · rw [assemble_withoutData]
  · rw [List.filter_flatMap, List.flatMap_map]
    exact congrArg (List.flatMap · fs) (funext fun finding => (events_withoutData finding).symm)

/-! ## The whole log -/

/-- A log mirrors the specifications of a file with the given lines. -/
structure Mirrors (lines : List Text) (specs : List Specification) (log : List Event) : Prop where
  /-- Without rejections and the contents of tables, the log lists the tree. -/
  entries : log.filter Event.isOfTree = specs.flatMap Specification.entries
  classes : log.filterMap Event.classFound? = specs.map fun s => (s.name, s.line)
  methods : log.filterMap Event.methodAccepted? =
    (specs.flatMap Specification.features).map fun f => (f.name, f.line)
  /-- A line has one decision if the scan reports a method for it, and otherwise it has none. -/
  decisions : ∀ k, log.filter (Event.decides k) = ((candidate? lines k).map (decision lines k)).toList
  iterations : log.filterMap Event.iterationsRead? =
    (specs.flatMap Specification.features).filterMap Feature.iterationCount?
  /-- The number of iterations is that of the method that was accepted last. -/
  attributed : ∀ front back method count, log = front ++ .iterationsRead method count :: back →
    ∃ f ∈ specs.flatMap Specification.features, f.iterationCount? = some (method, count) ∧
      (front.filterMap Event.methodAccepted?).getLast? = some (f.name, f.line)

/-- **The log mirrors the tree**, and with or without data it is the same but for the events of data. -/
theorem mirrors_readSpecifications (h : readSpecifications withData content = .ok (specs, log)) :
    Mirrors (fileLines content) specs log ∧
      readSpecifications false content =
        .ok (specs.map Specification.withoutData, log.filter fun e => !e.isOfData) := by
  have hentries := filter_isOfTree h
  have hfeatures := filter_isOfFeature hentries
  refine ⟨⟨hentries, ?_, ?_, filter_decides h, ?_, fun front back method count => exists_feature_of_log hentries⟩,
    readSpecifications_withoutData h⟩
  · rw [← filterMap_classFound?_entries, ← hentries]
    exact (filterMap_filter_events (fun _ => Event.classFound?_of_not_isOfTree) log).symm
  · rw [← filterMap_methodAccepted?_entries, ← hfeatures]
    exact (filterMap_filter_events (fun _ => Event.methodAccepted?_of_not_isOfFeature) log).symm
  · rw [← filterMap_iterationsRead?_entries, ← hfeatures]
    exact (filterMap_filter_events (fun _ => Event.iterationsRead?_of_not_isOfFeature) log).symm

/-- A file with two classes. The first one has a helper, a feature with data of which a pipe cannot be read, and a
nested class; behind it stands a method of no class. The second one closes on its own line. -/
def mixedFile : Text :=
  Text.join ['\n']
    (["class A extends Specification \x7b", "def a() \x7b", "\x7d", "def \"m\"() \x7b", "where:", "x", "1", "y << f()",
      "\x7d", "class I \x7b", "def \"i\"() \x7b", "\x7d", "\x7d", "\x7d", "def \"o\"() \x7b", "\x7d",
      "class B extends Specification \x7b\x7d"].map String.toList)

/-- The names of the events of reading it. -/
def mixedEvents : List Text :=
  ["class.found", "method.rejected", "method.accepted", "table.header", "pipe.unreadable", "iterations.parsed",
    "class.found"].map String.toList

theorem mirrors_mixedFile :
    ∃ specs log, readSpecifications true mixedFile = .ok (specs, log) ∧
      log.map (fun e => e.record.name) = mixedEvents ∧
      Mirrors (fileLines mixedFile) specs log ∧
      readSpecifications false mixedFile =
        .ok (specs.map Specification.withoutData, log.filter fun e => !e.isOfData) := by
  obtain ⟨r, hread, hnames⟩ : ∃ r, readSpecifications true mixedFile = .ok r ∧
      r.2.map (fun e => e.record.name) = mixedEvents := exists_of_map_toOption (by decide +kernel)
  exact ⟨r.1, r.2, hread, hnames, mirrors_readSpecifications hread⟩

end Source

end SpecAtlas
