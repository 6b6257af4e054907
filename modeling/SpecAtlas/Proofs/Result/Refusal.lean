import SpecAtlas.Proofs.Markup.Refusal
import SpecAtlas.Proofs.Result.ConsoleLog
import SpecAtlas.Result.Failure
import SpecAtlas.Result.Report

/-!
# What results are refused for

Reading results can fail in one way only: a number has more digits than are read. The numbers are, in the order in
which they are read:

1. of a line of the console, the index and the scalars among the parameters (`consoleNumerals`);
2. of a line of other output, the line number in its last stack frame (`outputNumerals`);
3. of a testcase, the character references in its attributes; of an iteration also those in the text of its
   problem, the index, and the scalars among the parameters (`reportNumerals`).

Where no number is too long, a line or a testcase has the results that it has by itself. One that is too long
costs the results of all lines or testcases (`results_refused_iff`).
-/

namespace SpecAtlas.Result

open Text Markup Literal

/-! ## Names of iterations -/

/-- The numbers in the brackets of a name. -/
def Bracketed.numerals (b : Bracketed) : List Text := b.digits :: Parameters.scalars b.parameters

/-- What is made of the index and the parameters is refused for the numbers in the brackets. -/
theorem Bracketed.Sound.refusedFor {b : Bracketed} (h : b.Sound) {α : Type} (f : Nat → Mapping Value → α) :
    RefusedFor tooLong? b.numerals (do
      let index ← b.index
      let parameters ← Parameters.read b.parameters
      return f index parameters) := by
  have hindex : RefusedFor tooLong? [b.digits] b.index := refusedFor_readNat h.numbered h.digits
  have hboth := hindex.bind fun index _ => (refusedFor_parameters b.parameters).map (f index)
  exact hboth

/-- The brackets of a name are sound. -/
theorem IterationName.sound_of_readFrom? {reversed text : Text} {n : IterationName} (h : readFrom? reversed text = some n) :
    n.bracketed.Sound := by
  induction text generalizing reversed with
  | nil => contradiction
  | cons c rest ih =>
      have hhere {b : Bracketed} {back : Text}
          (hb : (if c = '[' && !reversed.isEmpty then takeBracketed? rest else none) = some (b, back)) : b.Sound := by
        split at hb
        · exact sound_of_takeBracketed? hb
        · contradiction
      unfold readFrom? at h
      split at h
      · obtain ⟨_, -, rfl⟩ := Option.map_eq_some_iff.1 h
        exact hhere ‹_›
      · obtain ⟨_, -, rfl⟩ := Option.map_eq_some_iff.1 h
        exact hhere ‹_›
      · exact ih h

/-! ## The console -/

/-- The numbers on a line of the console. -/
def lineNumerals (feature line : Text) : List Text :=
  match ReportLine.read? feature (dropReturns line) with
  | some found => found.bracketed.numerals
  | none => []

/-- The numbers that are read from console output. -/
def consoleNumerals (feature text : Text) : List Text := (lines text).flatMap (lineNumerals feature)

/-- A line of the console is refused for its numbers. -/
theorem refusedFor_line {feature line : Text} {x : Except LongNumeral (IterationResult × Status)}
    (h : lineResult? feature line = some x) : RefusedFor tooLong? (lineNumerals feature line) x := by
  obtain ⟨found, hfound, rfl⟩ := Option.map_eq_some_iff.1 h
  have hsound := sound_of_line hfound
  rw [lineNumerals, hfound]
  exact hsound.refusedFor _

theorem lineNumerals_of_none {feature line : Text} (h : lineResult? feature line = none) :
    lineNumerals feature line = [] := by
  rw [lineNumerals, Option.map_eq_none_iff.1 h]

/-- Console output is refused for its numbers. -/
theorem refusedFor_readConsole (text feature : Text) :
    RefusedFor tooLong? (consoleNumerals feature text) (readConsole text feature) := by
  have hlines : RefusedFor tooLong? (consoleNumerals feature text)
      (((lines text).filterMap (lineResult? feature)).mapM id) :=
    RefusedFor.filterMap (fun _ _ h => lineNumerals_of_none h) fun _ _ _ h => refusedFor_line h
  exact hlines.map _

/-! ## Stack frames -/

/-- The line number of a stack frame is digits. -/
theorem digits_of_framePlace? {inner file digits : Text} (h : framePlace? inner = some (file, digits)) :
    digits ≠ [] ∧ digits.all isDigit = true := by
  unfold framePlace? at h
  rw [List.span_eq_takeWhile_dropWhile] at h
  have hall : (inner.reverse.takeWhile isDigit).all isDigit = true := List.all_takeWhile
  generalize inner.reverse.takeWhile isDigit = reversed at h hall
  split at h
  · contradiction
  · rename_i hne heq
    obtain ⟨rfl, -⟩ := Prod.mk.inj heq
    split at h
    · cases h
      exact ⟨by simpa using hne, by rwa [List.all_reverse]⟩
    · contradiction

theorem digits_of_lastPlace? {entered : Bool} {text file digits : Text}
    (h : lastPlace? entered text = some (file, digits)) : digits ≠ [] ∧ digits.all isDigit = true := by
  induction text generalizing entered with
  | nil => contradiction
  | cons c text ih =>
      unfold lastPlace? at h
      rcases Option.or_eq_some_iff.1 h with hlater | ⟨-, hhere⟩
      · exact ih hlater
      · split at hhere
        · unfold placeBehind? at hhere
          split at hhere
          · exact digits_of_framePlace? hhere
          · contradiction
        · contradiction

/-- The number on a line of output: the line number of its last stack frame. -/
def frameNumerals (line : Text) : List Text :=
  match if hasMark "at ".toList line then lastPlace? false line else none with
  | some (_, digits) => [digits]
  | none => []

/-- The numbers that are read from the output of a failed run. -/
def outputNumerals (output : Text) : List Text := (lines output).flatMap frameNumerals

/-- A stack frame is refused for its line number. -/
theorem refusedFor_framePlace (line : Text) : RefusedFor tooLong? (frameNumerals line) (framePlace line) := by
  unfold frameNumerals framePlace
  cases hplace : (if hasMark "at ".toList line then lastPlace? false line else none) with
  | none => exact .ok _
  | some place =>
      obtain ⟨file, digits⟩ := place
      split at hplace
      · obtain ⟨hne, hall⟩ := digits_of_lastPlace? hplace
        have hnumber := (refusedFor_readNat hne hall).map fun number => some (⟨file, number - 1⟩ : FailurePlace)
        exact hnumber
      · contradiction

/-- The output of a failed run is refused for its numbers. -/
theorem refusedFor_summarize (output : Text) : RefusedFor tooLong? (outputNumerals output) (summarize output) := by
  have hplaces : RefusedFor tooLong? (outputNumerals output) ((lines output).mapM framePlace) :=
    RefusedFor.mapM fun line _ => refusedFor_framePlace line
  exact hplaces.map _

/-! ## Reports -/

/-- The numbers in a problem: those of its text, and of its attributes if it has no text. -/
def Problem.numerals (p : Problem) : List Text :=
  elementNumerals p.content ++
    match elementText p.content with
    | .ok [] => attributesNumerals p.inside
    | _ => []

theorem refusedFor_message (p : Problem) : RefusedFor tooLong? p.numerals p.message := by
  refine (refusedFor_elementText p.content).bind fun text htext => ?_
  rw [htext]
  cases text with
  | nil => exact (refusedFor_attributes p.inside).map _
  | cons c text => exact .ok _

/-- The numbers in the body of a testcase: those of its first problem. -/
def bodyNumerals (body : Text) : List Text :=
  if hasProblem body then
    match Problem.first? body with
    | some problem => problem.numerals
    | none => []
  else []

theorem refusedFor_errorIn? (body : Text) : RefusedFor tooLong? (bodyNumerals body) (errorIn? body) := by
  unfold bodyNumerals errorIn?
  split
  · cases Problem.first? body with
    | none => exact .ok _
    | some problem => exact (refusedFor_message problem).map _
  · exact .ok _

/-- The numbers of an iteration with a body: those of its problem and, if that can be read, those of its name. -/
def iterationNumerals (iteration : IterationName) (body : Text) : List Text :=
  bodyNumerals body ++
    match errorIn? body with
    | .ok (some _) => iteration.bracketed.numerals
    | _ => []

/-- The numbers of a testcase: those of its attributes and, if it is an iteration with a body, those of the
iteration. -/
def Testcase.numerals (t : Testcase) : List Text :=
  attributesNumerals t.tag.inside ++
    match attributes t.tag.inside with
    | .error _ => []
    | .ok attributes =>
      match IterationName.read? ((Mapping.get? attributes "name".toList).getD []), t.body? with
      | some iteration, some body => iterationNumerals iteration body
      | _, _ => []

/-- The numbers that are read from a report. -/
def reportNumerals (content : Text) : List Text := (testcases content).flatMap Testcase.numerals

/-- A testcase is refused for its numbers. -/
theorem refusedFor_verdict (t : Testcase) : RefusedFor tooLong? t.numerals t.verdict := by
  refine (refusedFor_attributes t.tag.inside).bind fun attributes hattributes => ?_
  rw [hattributes]
  dsimp only
  cases hread : IterationName.read? ((Mapping.get? attributes "name".toList).getD []) with
  | none => exact .ok _
  | some iteration =>
      cases t.body? with
      | none => exact .ok _
      | some body =>
          refine (refusedFor_errorIn? body).bind fun error? herror => ?_
          rw [herror]
          cases error? with
          | none => exact .ok _
          | some error => exact (IterationName.sound_of_readFrom? hread).refusedFor _

/-- A report is refused for its numbers. -/
theorem refusedFor_readReport (content source : Text) :
    RefusedFor tooLong? (reportNumerals content) (readReport content source) := by
  have htestcases : RefusedFor tooLong? (reportNumerals content) ((testcases content).mapM Testcase.verdict) :=
    RefusedFor.mapM fun t _ => refusedFor_verdict t
  exact htestcases.map _

/-! ## The condition -/

/-- Console output that is read has the results that its lines have by themselves. -/
theorem exists_lineResults {feature text : Text} {results : List IterationResult} {events : List Event}
    (h : readConsole text feature = .ok (results, events)) :
    ∃ parts, List.Forall₂ (fun line part => ∃ events, readConsole line feature = .ok (part, events)) (lines text) parts ∧
      results = parts.flatten := by
  obtain ⟨found, hfound, hresults⟩ := bind_eq_ok.1 h
  cases hresults
  clear h
  have hlines : ∀ line ∈ lines text, '\n' ∉ line := fun _ hline => not_mem_of_mem_pieces hline
  generalize lines text = texts at hfound hlines
  induction texts generalizing found with
  | nil =>
      cases hfound
      exact ⟨[], .nil, rfl⟩
  | cons line rest ih =>
      have htold := told_singleLine (hlines line List.mem_cons_self) feature
      have hrest := fun l hl => hlines l (List.mem_cons_of_mem line hl)
      cases hline : lineResult? feature line with
      | none =>
          rw [List.filterMap_cons_none hline] at hfound
          obtain ⟨parts, hparts, hresults⟩ := ih found hfound hrest
          have hnone : told feature line = ([] : List (IterationResult × Status)).map .ok := by rw [htold, hline]; rfl
          exact ⟨[] :: parts, .cons (readConsole_of_told hnone) hparts, hresults⟩
      | some x =>
          rw [List.filterMap_cons_some hline, List.mapM_cons] at hfound
          obtain ⟨first, hfirst, hfound⟩ := bind_eq_ok.1 hfound
          obtain ⟨others, hothers, hfound⟩ := bind_eq_ok.1 hfound
          cases hfound
          obtain rfl : x = .ok first := hfirst
          obtain ⟨parts, hparts, hresults⟩ := ih others hothers hrest
          have hone : told feature line = [first].map .ok := by rw [htold, hline]; rfl
          exact ⟨[first.1] :: parts, .cons (readConsole_of_told hone) hparts, by rw [List.map_cons, hresults]; rfl⟩

/-- **What reading results is refused for**: console output, the output of a failed run and a report are read exactly
if none of their numbers is too long, and otherwise refused for the first one. What is read of the console are the
results of each line, and of a report what each testcase comes to. -/
theorem results_refused_iff (feature text output content source : Text) :
    ((∃ r, readConsole text feature = .ok r) ↔ ∀ numeral ∈ consoleNumerals feature text, tooLong? numeral = none) ∧
    (∀ e, readConsole text feature = .error e ↔ firstTooLong? (consoleNumerals feature text) = some e) ∧
    ((∃ s, summarize output = .ok s) ↔ ∀ numeral ∈ outputNumerals output, tooLong? numeral = none) ∧
    (∀ e, summarize output = .error e ↔ firstTooLong? (outputNumerals output) = some e) ∧
    ((∃ r, readReport content source = .ok r) ↔ ∀ numeral ∈ reportNumerals content, tooLong? numeral = none) ∧
    (∀ e, readReport content source = .error e ↔ firstTooLong? (reportNumerals content) = some e) ∧
    (∀ results events, readConsole text feature = .ok (results, events) →
      ∃ parts, List.Forall₂ (fun line part => ∃ events, readConsole line feature = .ok (part, events)) (lines text) parts ∧
        results = parts.flatten) ∧
    ∀ results events, readReport content source = .ok (results, events) →
      ∃ verdicts, List.Forall₂ (fun t v => t.verdict = .ok v) (testcases content) verdicts ∧
        results = verdicts.filterMap Verdict.result? := by
  have hconsole := refusedFor_readConsole text feature
  have houtput := refusedFor_summarize output
  have hreport := refusedFor_readReport content source
  refine ⟨hconsole.exists_ok_iff, hconsole, houtput.exists_ok_iff, houtput, hreport.exists_ok_iff, hreport,
    fun results events h => exists_lineResults h, fun results events h => ?_⟩
  obtain ⟨verdicts, hverdicts, h⟩ := bind_eq_ok.1 h
  cases h
  exact ⟨verdicts, forall₂_of_mapM hverdicts, rfl⟩

theorem consoleNumerals_append (feature first rest : Text) :
    consoleNumerals feature (first ++ '\n' :: rest) = consoleNumerals feature first ++ consoleNumerals feature rest := by
  rw [consoleNumerals, lines, pieces_append_cons, List.flatMap_append]
  rfl

/-- The digits of an index with more digits than are read. -/
def longDigits : Text := List.replicate 4301 '1'

/-- A line of the console with this index. -/
def longLine : Text := writtenLine "MathSpec".toList (writtenName "max".toList "a: 1".toList longDigits) .passed

/-- A line of the console that can be read. -/
def shortLine : Text := "MathSpec > max [a: 2, #1] PASSED".toList

/-- A line that cannot be read costs the result of the next line. -/
theorem longLine_costs_shortLine :
    (readConsole shortLine "max".toList).toOption.map (fun r => r.1.map IterationResult.index) = some [1] ∧
      ¬ ∃ r, readConsole (longLine ++ '\n' :: shortLine) "max".toList = .ok r := by
  refine ⟨by decide +kernel, fun hok => ?_⟩
  have hall := (refusedFor_readConsole _ _).exists_ok_iff.1 hok
  rw [consoleNumerals_append] at hall
  have hfirst := (refusedFor_readConsole longLine "max".toList).exists_ok_iff.2 fun numeral hm =>
    hall numeral (List.mem_append_left _ hm)
  have hdigits : longDigits.all isDigit = true :=
    List.all_eq_true.2 fun c hc => by rw [(List.mem_replicate.1 hc).2]; decide
  have hsome : longDigits ≠ [] := List.length_pos_iff.1 (by rw [longDigits, List.length_replicate]; decide)
  have hlong : Numeral.limit < longDigits.length := by rw [longDigits, List.length_replicate]; decide
  have hparameters : PlainParameters "a: 1".toList := ⟨by decide, by decide, by decide, by decide⟩
  have hrefused : readConsole longLine "max".toList = .error ⟨longDigits.length⟩ :=
    readConsole_longIndex (by decide) (by decide) (by decide) (by decide) hparameters hsome hdigits (by decide) hlong .passed
  obtain ⟨r, hr⟩ := hfirst
  rw [hr] at hrefused
  cases hrefused

end SpecAtlas.Result
