import SpecAtlas.Proofs.Result.WrittenTestcase

/-!
# Reports are read back

A report is a list of written testcases with text between and around them. Reading it gives one
result for each testcase that has the name of an iteration, in order, and each result tells what the
testcase was written for (`readReport_text`).

The reading is followed from the front: one testcase before any rest (`verdicts_testcase`), then, by
induction, a whole report before any rest (`verdicts_report`).
-/

namespace SpecAtlas.Result

open Text Markup

/-! ## Reports -/

/-- A report: testcases with text in front of each, and text at the end. -/
structure WrittenReport where
  parts : List (Gap × WrittenTestcase)
  tail : Gap

namespace WrittenReport

/-- The testcases of the report. -/
def testcases (r : WrittenReport) : List WrittenTestcase := r.parts.map Prod.snd

/-- The report as it is written. -/
def text (r : WrittenReport) : Text := r.parts.flatMap (fun part => part.1.1 ++ part.2.text) ++ r.tail.1

theorem text_cons (part : Gap × WrittenTestcase) (parts : List (Gap × WrittenTestcase)) (tail : Gap) :
    text ⟨part :: parts, tail⟩ = part.1.1 ++ (part.2.text ++ text ⟨parts, tail⟩) := by
  simp only [text, List.flatMap_cons, List.append_assoc]

end WrittenReport

/-! ## Finding testcases -/

/-- One step of the search for testcases. -/
theorem testcases_step (content : Text) :
    testcases content =
      match cut? testcaseStart content with
      | none => []
      | some (_, rest) =>
        match takeTag? rest with
        | some (tag, behind) => ⟨tag, behind⟩ :: testcases behind
        | none => testcases rest := by
  rw [testcases]
  split
  · rename_i hcut
    simp only [hcut]
  · rename_i hcut
    split
    · rename_i htag
      simp only [hcut, htag]
    · rename_i htag
      simp only [hcut, htag]

/-- The search for testcases passes over text without their start. -/
theorem testcases_append {front : Text} (h : isClear testcaseStart front = true) (rest : Text) :
    testcases (front ++ rest) = testcases rest := by
  rw [testcases_step, testcases_step rest, cut?_append h]
  cases cut? testcaseStart rest with
  | none => rfl
  | some parts => rfl

theorem testcases_of_isClear {text : Text} (h : isClear testcaseStart text = true) : testcases text = [] := by
  rw [testcases_step, cut?_of_isClear (by decide) h]

/-- Where a tag begins there is a testcase, if the tag ends. -/
theorem testcases_start (rest : Text) :
    testcases (testcaseStart ++ rest) =
      match takeTag? rest with
      | some (tag, behind) => ⟨tag, behind⟩ :: testcases behind
      | none => testcases rest := by
  have hempty : isClear testcaseStart [] = true := rfl
  have hcut : cut? testcaseStart (testcaseStart ++ rest) = some ([], rest) := cut?_mark hempty rest
  rw [testcases_step, hcut]

/-- What a testcase holds has no other testcase in it. -/
theorem isClear_behind (c : WrittenContent) : isClear testcaseStart c.behind = true := by
  unfold WrittenContent.behind
  split
  · rfl
  · exact isClear_append (isClear_body (by decide) c) (by decide)

/-- A testcase is found, whatever stands in its tag and whatever follows it. -/
theorem testcases_tag {inside : Text} (hword : ∀ c ∈ inside.head?, isWord c = false) (hend : '>' ∉ inside)
    (hslash : inside.getLast? ≠ some '/') (c : WrittenContent) (rest : Text) :
    testcases (testcaseStart ++ (inside ++ (tagEnd c.isClosed ++ (c.behind ++ rest)))) =
      ⟨⟨inside, c.isClosed⟩, c.behind ++ rest⟩ :: testcases rest := by
  rw [testcases_start, takeTag?_tagEnd hword hend hslash]
  dsimp only
  rw [testcases_append (isClear_behind c)]

/-- A written testcase is found in front of any rest. -/
theorem testcases_testcase (t : WrittenTestcase) (rest : Text) :
    testcases (t.text ++ rest) =
      ⟨⟨t.inside, t.content.isClosed⟩, t.content.behind ++ rest⟩ :: testcases rest := by
  have htext : t.text ++ rest =
      testcaseStart ++ (t.inside ++ (tagEnd t.content.isClosed ++ (t.content.behind ++ rest))) := by
    simp [WrittenTestcase.text]
  rw [htext]
  exact testcases_tag (head?_attributes _) (not_mem_attributes _ (.inr rfl)) (getLast?_attributes _) t.content rest

/-! ## Reading testcases -/

/-- The testcases of a text come to the given verdicts, in order. -/
def Verdicts (content : Text) (verdicts : List Verdict) : Prop :=
  (testcases content).mapM Testcase.verdict = .ok verdicts

theorem readReport_of_verdicts {content : Text} {verdicts : List Verdict} (h : Verdicts content verdicts)
    (source : Text) :
    readReport content source =
      .ok (verdicts.filterMap Verdict.result?, verdicts.filterMap (Verdict.event? source)) := by
  rw [readReport, h]
  rfl

/-- Text without the start of a testcase adds nothing in front. -/
theorem verdicts_append {front : Text} (hfront : isClear testcaseStart front = true) {rest : Text}
    {verdicts : List Verdict} (h : Verdicts rest verdicts) : Verdicts (front ++ rest) verdicts := by
  rw [Verdicts, testcases_append hfront]
  exact h

/-- A testcase adds its verdict in front. -/
theorem verdicts_tag {inside : Text} (hword : ∀ c ∈ inside.head?, isWord c = false) (hend : '>' ∉ inside)
    (hslash : inside.getLast? ≠ some '/') {c : WrittenContent} {rest : Text} {v : Verdict}
    (hv : Testcase.verdict ⟨⟨inside, c.isClosed⟩, c.behind ++ rest⟩ = .ok v) {verdicts : List Verdict}
    (h : Verdicts rest verdicts) :
    Verdicts (testcaseStart ++ (inside ++ (tagEnd c.isClosed ++ (c.behind ++ rest)))) (v :: verdicts) := by
  rw [Verdicts, testcases_tag hword hend hslash, List.mapM_cons, hv, ok_bind, h, ok_bind]
  rfl

/-- A written testcase adds its verdict in front. -/
theorem verdicts_testcase {t : WrittenTestcase} {v : Verdict} (hv : t.verdict = .ok v) {rest : Text}
    {verdicts : List Verdict} (h : Verdicts rest verdicts) : Verdicts (t.text ++ rest) (v :: verdicts) := by
  rw [Verdicts, testcases_testcase, List.mapM_cons, t.verdict_eq rest, hv, ok_bind, h, ok_bind]
  rfl

/-- A report is refused if its first testcase is. -/
theorem readReport_refused {t : WrittenTestcase} {e : LongNumeral} (hv : t.verdict = .error e) {front : Text}
    (hfront : isClear testcaseStart front = true) (rest source : Text) :
    readReport (front ++ (t.text ++ rest)) source = .error e := by
  rw [readReport, testcases_append hfront, testcases_testcase, List.mapM_cons, t.verdict_eq rest, hv]
  rfl

/-- A report adds the verdicts of its testcases in front. -/
theorem verdicts_report {r : WrittenReport} {front : List Verdict}
    (hfront : r.testcases.mapM WrittenTestcase.verdict = .ok front) {rest : Text} {verdicts : List Verdict}
    (h : Verdicts rest verdicts) : Verdicts (r.text ++ rest) (front ++ verdicts) := by
  have htail : Verdicts (r.tail.1 ++ rest) verdicts := verdicts_append (isClear_of_not_mem r.tail.2) h
  obtain ⟨parts, tail⟩ := r
  rw [WrittenReport.text, List.append_assoc]
  rw [WrittenReport.testcases] at hfront
  generalize tail.1 ++ rest = behind at htail
  induction parts generalizing front with
  | nil =>
      cases hfront
      exact htail
  | cons part parts ih =>
      rw [List.map_cons, List.mapM_cons] at hfront
      obtain ⟨v, hv, hfront⟩ := bind_eq_ok.1 hfront
      obtain ⟨vs, hvs, hfront⟩ := bind_eq_ok.1 hfront
      cases hfront
      rw [List.flatMap_cons, List.append_assoc, List.append_assoc]
      exact verdicts_append (isClear_of_not_mem part.1.2) (verdicts_testcase hv (ih hvs))

/-- The testcases of a report come to what they tell. -/
theorem verdicts_text {r : WrittenReport} {verdicts : List Verdict}
    (h : r.testcases.mapM WrittenTestcase.verdict = .ok verdicts) : Verdicts r.text verdicts := by
  have hempty : isClear testcaseStart [] = true := rfl
  have hnil : Verdicts [] [] := by
    rw [Verdicts, testcases_of_isClear hempty]
    rfl
  have hreport := verdicts_report h hnil
  rwa [List.append_nil, List.append_nil] at hreport

/-! ## Results -/

namespace WrittenTestcase

/-- Whether a testcase has the name of an iteration. -/
def isIteration (t : WrittenTestcase) : Bool := (IterationName.read? t.name.meaning).isSome

/-- What the result of a testcase has to tell. -/
structure Tells (t : WrittenTestcase) (r : IterationResult) : Prop where
  displayName : r.displayName = t.name.meaning
  output : r.output = t.name.meaning
  info : ∃ feature, iterationInfo? t.name.meaning = .ok (some ⟨feature, r.index, r.parameters⟩)
  success : r.success = true ↔ t.content.problem? = none
  error : r.error = t.content.problem?.map WrittenProblem.message
  duration : r.duration = readDuration (some t.time.meaning)

/-- A testcase has a result that tells it if it is an iteration, and none otherwise. -/
theorem tells_of_verdict {t : WrittenTestcase} {v : Verdict} (h : t.verdict = .ok v) :
    if t.isIteration then ∃ r, v = .result r ∧ t.Tells r else v = .other := by
  obtain ⟨info?, hinfo, rfl⟩ := map_eq_ok.1 h
  rw [isIteration, ← isSome_of_iterationInfo? hinfo]
  cases info? with
  | none => rfl
  | some info =>
      refine ⟨_, rfl, ⟨rfl, rfl, ⟨info.feature, hinfo⟩, ?_, rfl, rfl⟩⟩
      rw [IterationResult.success, WrittenContent.error, Option.isNone_map, Option.isNone_iff_eq_none]

/-- A testcase whose name has no number that is too long comes to something. -/
theorem exists_verdict {t : WrittenTestcase} (h : hasShortNumerals t.name.meaning = true) :
    ∃ v, t.verdict = .ok v := by
  obtain ⟨info?, hinfo⟩ := exists_iterationInfo? h
  exact ⟨_, by rw [verdict, verdictOf, hinfo]; rfl⟩

end WrittenTestcase

/-- The results of testcases tell the iterations among them. -/
theorem tells_results {ts : List WrittenTestcase} {verdicts : List Verdict}
    (h : List.Forall₂ (fun t v => t.verdict = .ok v) ts verdicts) :
    List.Forall₂ WrittenTestcase.Tells (ts.filter WrittenTestcase.isIteration)
      (verdicts.filterMap Verdict.result?) := by
  induction h with
  | nil => exact .nil
  | cons hv _ ih =>
      have htells := WrittenTestcase.tells_of_verdict hv
      split at htells
      · rename_i hiteration
        obtain ⟨r, rfl, hr⟩ := htells
        rw [List.filter_cons_of_pos hiteration]
        exact .cons hr ih
      · rename_i hother
        obtain rfl := htells
        rw [List.filter_cons_of_neg hother]
        exact ih

/-- **A report is read back**: there is one result for each testcase that has the name of an iteration,
in order, and it tells what the testcase was written for. The numbers in the names must not be longer
than numbers that are read. -/
theorem readReport_text (r : WrittenReport) (hshort : ∀ t ∈ r.testcases, hasShortNumerals t.name.meaning = true)
    (source : Text) :
    ∃ results events, readReport r.text source = .ok (results, events) ∧
      List.Forall₂ WrittenTestcase.Tells (r.testcases.filter WrittenTestcase.isIteration) results := by
  obtain ⟨verdicts, hverdicts⟩ :=
    exists_mapM_eq_ok fun t ht => WrittenTestcase.exists_verdict (hshort t ht)
  exact ⟨_, _, readReport_of_verdicts (verdicts_text hverdicts) source,
    tells_results (forall₂_of_mapM hverdicts)⟩

/-! ## Sample reports -/

/-- The iteration with the given name, passed. -/
def passedIteration (name : Text) : WrittenTestcase :=
  .standard name "MathSpec".toList "0.1".toList .closed

/-- The iteration with the given name, failed with an error text. -/
def failedIteration (name error : Text) : WrittenTestcase :=
  .standard name "MathSpec".toList "0.1".toList
    (.problem ⟨[], by decide⟩ ⟨"failure".toList, [], some (Escaped.escape error), by decide, by decide⟩
      ⟨[], by decide⟩)

/-- A report with one iteration on every line. -/
def reportOf (ts : List WrittenTestcase) : WrittenReport :=
  ⟨ts.map fun t => (⟨['\n'], by decide⟩, t), ⟨[], by decide⟩⟩

theorem testcases_reportOf (ts : List WrittenTestcase) : (reportOf ts).testcases = ts := by
  simp [reportOf, WrittenReport.testcases, Function.comp_def]

/-- A report with a passed iteration, a testcase that is no iteration, and a failed iteration whose
error is told by an attribute. -/
def sampleReport : WrittenReport where
  parts :=
    [(⟨"\n ".toList, by decide⟩,
        .standard "max [a: \"</testcase>\", #0]".toList "MathSpec".toList "0.1".toList .closed),
      (⟨"\n ".toList, by decide⟩, .standard "max".toList "MathSpec".toList "".toList (.plain ⟨[' '], by decide⟩)),
      (⟨"\n ".toList, by decide⟩, .standard "min [a: 'x=1', #12]".toList "MathSpec".toList "0.2".toList
        (.problem ⟨[], by decide⟩
          ⟨"failure".toList, [⟨"message".toList, Escaped.escape "a > b & \"c\"".toList, by decide, by decide⟩],
            some (Escaped.escape " ".toList), by decide, by decide⟩
          ⟨[], by decide⟩))]
  tail := ⟨['\n'], by decide⟩

theorem readReport_sample :
    (∀ t ∈ sampleReport.testcases, hasShortNumerals t.name.meaning = true) ∧
      ∃ results events, readReport sampleReport.text [] = .ok (results, events) ∧
        List.Forall₂ WrittenTestcase.Tells (sampleReport.testcases.filter WrittenTestcase.isIteration) results ∧
        results.map IterationResult.success = [true, false] := by
  have hshort : ∀ t ∈ sampleReport.testcases, hasShortNumerals t.name.meaning = true := by decide +kernel
  obtain ⟨results, events, hread, htells⟩ := readReport_text sampleReport hshort []
  refine ⟨hshort, results, events, hread, htells, ?_⟩
  have hsuccess : List.Forall₂ (fun t r => IterationResult.success r = t.content.problem?.isNone)
      (sampleReport.testcases.filter WrittenTestcase.isIteration) results :=
    htells.imp fun t r h => by rw [Bool.eq_iff_iff, h.success, Option.isNone_iff_eq_none]
  have hproblems : (sampleReport.testcases.filter WrittenTestcase.isIteration).map
      (fun t => t.content.problem?.isNone) = [true, false] := by decide +kernel
  rw [map_eq_of_forall₂ hsuccess, hproblems]

end SpecAtlas.Result
