import SpecAtlas.Proofs.Result.ConsoleLog
import SpecAtlas.Proofs.Result.WrittenReport

/-!
# The console and the report agree

The build tool tells an iteration twice, on a line of the console and in a testcase of the report. The two
readers take the name apart in different ways: one knows the feature and looks for it behind a mark, the other
one finds where its name ends. They come to the same result (`readConsole_agrees_readReport`) if

* every bracket in the name of the feature is closed,
* neither the index nor a parameter has more digits than are read.

A longer index is refused by both (`refused_longIndex`).
-/

namespace SpecAtlas.Result

open Text Markup

/-- Two results tell the same iteration, with the same outcome. -/
structure IterationResult.Agrees (r s : IterationResult) : Prop where
  index : r.index = s.index
  displayName : r.displayName = s.displayName
  parameters : r.parameters = s.parameters
  success : r.success = s.success

/-- A report with one testcase. -/
def reportWith (front : Gap) (t : WrittenTestcase) (back : Gap) : Text := WrittenReport.text ⟨[(front, t)], back⟩

/-! ## What the report tells -/

/-- A report with one testcase tells what the testcase comes to. -/
theorem readReport_reportWith {t : WrittenTestcase} {v : Verdict} (hv : t.verdict = .ok v) (front back : Gap)
    (source : Text) :
    readReport (reportWith front t back) source = .ok ([v].filterMap Verdict.result?, [v].filterMap (Verdict.event? source)) := by
  have hverdicts : (WrittenReport.testcases ⟨[(front, t)], back⟩).mapM WrittenTestcase.verdict = .ok [v] := by
    rw [WrittenReport.testcases, List.map_singleton, List.mapM_cons, hv]
    rfl
  exact readReport_of_verdicts (verdicts_text hverdicts) source

/-- A report with one testcase is refused if the testcase is. -/
theorem readReport_reportWith_refused {t : WrittenTestcase} {e : LongNumeral} (hv : t.verdict = .error e)
    (front back : Gap) (source : Text) : readReport (reportWith front t back) source = .error e := by
  rw [reportWith, WrittenReport.text_cons]
  exact readReport_refused hv (isClear_of_not_mem front.2) _ source

/-- A report with the testcase of an iteration has one result, which tells this iteration. -/
theorem exists_readReport {t : WrittenTestcase} {info : IterationInfo}
    (hinfo : iterationInfo? t.name.meaning = .ok (some info)) (front back : Gap) (source : Text) :
    ∃ result events, readReport (reportWith front t back) source = .ok ([result], events) ∧ t.Tells result ∧
      result.index = info.index ∧ result.parameters = info.parameters := by
  have hverdict : ∃ v, t.verdict = .ok v := ⟨_, by rw [WrittenTestcase.verdict, verdictOf, hinfo]; rfl⟩
  obtain ⟨v, hv⟩ := hverdict
  have hiteration : t.isIteration = true := by
    rw [WrittenTestcase.isIteration, ← isSome_of_iterationInfo? hinfo]
    rfl
  have hresult := WrittenTestcase.tells_of_verdict hv
  rw [if_pos hiteration] at hresult
  obtain ⟨result, rfl, htells⟩ := hresult
  obtain ⟨feature, hsame⟩ := htells.info
  rw [hinfo] at hsame
  cases hsame
  exact ⟨result, _, readReport_reportWith hv front back source, htells, rfl, rfl⟩

/-! ## Agreement -/

section

variable {feature parameters lead : Text} (h : ClosedFeature feature) (hmark : '>' ∉ feature)
  (hp : PlainParameters parameters) (hlead : ']' ∉ lead) {index : Nat} {t : WrittenTestcase}
  (hname : t.name.meaning = iterationDisplayName feature parameters index)

include h hmark hp hlead hname

/-- **The two sources of results agree**: a line of the console and a testcase of a report that tell the same
iteration have one result each, with the same index, name, parameters and outcome. The testcase tells the
outcome by a problem that it has or has not. -/
theorem readConsole_agrees_readReport
    (hshort : ∀ scalar ∈ Parameters.scalars parameters, Literal.tooLong? scalar = none)
    (hindex : index < Nat.pow 10 Numeral.limit) {status : Status}
    (houtcome : t.content.problem? = none ↔ status = .passed) (front back : Gap) (source : Text) :
    ∃ onConsole inReport consoleEvents reportEvents,
      readConsole (writtenLine lead (iterationDisplayName feature parameters index) status) feature =
        .ok ([onConsole], consoleEvents) ∧
      readReport (reportWith front t back) source = .ok ([inReport], reportEvents) ∧
      onConsole.Agrees inReport ∧ onConsole.index = index ∧ (onConsole.success = true ↔ status = .passed) := by
  have hwritten : iterationDisplayName feature parameters index = writtenName feature parameters (Numeral.ofNat index) := rfl
  have hsome := Numeral.ofNat_ne_nil index
  have hdigits := Numeral.all_isDigit_ofNat index
  have hlength : (Numeral.ofNat index).length ≤ Numeral.limit := (Numeral.length_ofNat_le_iff (by decide)).2 hindex
  -- The line of the console.
  obtain ⟨onConsole, htold, htells⟩ := told_written h.nonempty h.trimmed hmark h.oneLine hp hsome hdigits hlead
    hlength hshort status false
  have hline : returns false = [] := rfl
  rw [hline, List.append_nil] at htold
  have hfound : told feature (writtenLine lead (iterationDisplayName feature parameters index) status) =
      [(onConsole, status)].map .ok := htold
  obtain ⟨consoleEvents, hconsole⟩ := readConsole_of_told hfound
  -- The testcase of the report.
  obtain ⟨values, hvalues⟩ := (refusedFor_parameters parameters).exists_ok_iff.2 hshort
  have hread := IterationName.read?_recoverable h.nonempty h.oneLine hp.nonempty hp.noClosing hsome hdigits h.recoverable
  rw [← hwritten, ← hname] at hread
  obtain ⟨inReport, reportEvents, hreport, hreported, hsameIndex, hsameParameters⟩ :=
    exists_readReport (iterationInfo?_of_read? hread hlength hvalues) front back source
  have hvalue : onConsole.index = index := htells.index.trans (Numeral.value_ofNat index)
  have hparameters : onConsole.parameters = values := Except.ok.inj (htells.parameters.symm.trans hvalues)
  refine ⟨onConsole, inReport, consoleEvents, reportEvents, hconsole, hreport, ?_, hvalue, htells.success⟩
  constructor
  · exact htells.index.trans hsameIndex.symm
  · rw [htells.displayName, Numeral.value_ofNat, hreported.displayName, hname]
  · exact hparameters.trans hsameParameters.symm
  · rw [Bool.eq_iff_iff, htells.success, hreported.success, houtcome]

/-- Both readers refuse an index that has more digits than are read. -/
theorem refused_longIndex (hindex : Nat.pow 10 Numeral.limit ≤ index) (status : Status) (front back : Gap) (source : Text) :
    readConsole (writtenLine lead (iterationDisplayName feature parameters index) status) feature =
        .error ⟨(Numeral.ofNat index).length⟩ ∧
      readReport (reportWith front t back) source = .error ⟨(Numeral.ofNat index).length⟩ := by
  have hsome := Numeral.ofNat_ne_nil index
  have hdigits := Numeral.all_isDigit_ofNat index
  have hlong : Numeral.limit < (Numeral.ofNat index).length := by
    rw [← Nat.not_le, Numeral.length_ofNat_le_iff (by decide), Nat.not_lt]
    exact hindex
  have hread := IterationName.read?_recoverable h.nonempty h.oneLine hp.nonempty hp.noClosing hsome hdigits h.recoverable
  have hverdict : t.verdict = .error ⟨(Numeral.ofNat index).length⟩ := by
    have hwritten : t.name.meaning = writtenName feature parameters (Numeral.ofNat index) := hname
    rw [WrittenTestcase.verdict, verdictOf, hwritten, iterationInfo?_longIndex hread hlong]
    rfl
  exact ⟨readConsole_longIndex h.nonempty h.trimmed hmark h.oneLine hp hsome hdigits hlead hlong status,
    readReport_reportWith_refused hverdict front back source⟩

end

/-- A failed iteration of a feature with brackets in its name, as a report tells it. -/
def sampleTestcase : WrittenTestcase :=
  failedIteration (iterationDisplayName "max [of] 2".toList "a: [1, b: '#0'".toList 12) "1 < 2".toList

/-- The two sources agree on an iteration whose parameters look like the end of a name. -/
theorem readConsole_agrees_sample :
    ClosedFeature "max [of] 2".toList ∧ PlainParameters "a: [1, b: '#0'".toList ∧
    (∀ scalar ∈ Parameters.scalars "a: [1, b: '#0'".toList, Literal.tooLong? scalar = none) ∧
    12 < Nat.pow 10 Numeral.limit ∧
    sampleTestcase.name.meaning = iterationDisplayName "max [of] 2".toList "a: [1, b: '#0'".toList 12 ∧
    (sampleTestcase.content.problem? = none ↔ Status.failed = .passed) ∧
    ∃ onConsole inReport consoleEvents reportEvents,
      readConsole (writtenLine "MathSpec".toList
        (iterationDisplayName "max [of] 2".toList "a: [1, b: '#0'".toList 12) .failed) "max [of] 2".toList =
        .ok ([onConsole], consoleEvents) ∧
      readReport (reportWith ⟨[], by decide⟩ sampleTestcase ⟨['\n'], by decide⟩) [] = .ok ([inReport], reportEvents) ∧
      onConsole.Agrees inReport ∧ onConsole.index = 12 ∧ (onConsole.success = true ↔ Status.failed = .passed) := by
  have hfeature : ClosedFeature "max [of] 2".toList := ⟨by decide, by decide, by decide, by decide⟩
  have hp : PlainParameters "a: [1, b: '#0'".toList := ⟨by decide, by decide, by decide, by decide⟩
  have hshort : ∀ scalar ∈ Parameters.scalars "a: [1, b: '#0'".toList, Literal.tooLong? scalar = none := by decide
  have hindex : 12 < Nat.pow 10 Numeral.limit := (Numeral.length_ofNat_le_iff (by decide)).1 (by decide)
  have hname : sampleTestcase.name.meaning = iterationDisplayName "max [of] 2".toList "a: [1, b: '#0'".toList 12 :=
    Escaped.meaning_escape _
  have houtcome : sampleTestcase.content.problem? = none ↔ Status.failed = .passed := by
    simp [sampleTestcase, failedIteration, WrittenTestcase.standard, WrittenContent.problem?]
  exact ⟨hfeature, hp, hshort, hindex, hname, houtcome,
    readConsole_agrees_readReport hfeature (by decide) hp (by decide) hname hshort hindex houtcome _ _ []⟩

/-- The first index with more digits than are read. -/
def longIndex : Nat := Nat.pow 10 Numeral.limit

/-- A passed iteration with this index, as a report tells it. -/
def longIndexTestcase : WrittenTestcase :=
  passedIteration (iterationDisplayName "max".toList "a: 1".toList longIndex)

/-- With this index neither source has a result. -/
theorem not_agree_longIndex :
    ClosedFeature "max".toList ∧ PlainParameters "a: 1".toList ∧
    (∀ scalar ∈ Parameters.scalars "a: 1".toList, Literal.tooLong? scalar = none) ∧
    longIndexTestcase.name.meaning = iterationDisplayName "max".toList "a: 1".toList longIndex ∧
    longIndexTestcase.content.problem? = none ∧
    ¬ ∃ onConsole inReport consoleEvents reportEvents,
      readConsole (writtenLine "MathSpec".toList (iterationDisplayName "max".toList "a: 1".toList longIndex) .passed)
        "max".toList = .ok ([onConsole], consoleEvents) ∧
      readReport (reportWith ⟨[], by decide⟩ longIndexTestcase ⟨[], by decide⟩) [] = .ok ([inReport], reportEvents) ∧
      onConsole.Agrees inReport := by
  have hfeature : ClosedFeature "max".toList := ⟨by decide, by decide, by decide, by decide⟩
  have hp : PlainParameters "a: 1".toList := ⟨by decide, by decide, by decide, by decide⟩
  have hname : longIndexTestcase.name.meaning = iterationDisplayName "max".toList "a: 1".toList longIndex :=
    Escaped.meaning_escape _
  refine ⟨hfeature, hp, by decide, hname, rfl, ?_⟩
  have hindex : Nat.pow 10 Numeral.limit ≤ longIndex := by
    unfold longIndex
    exact Nat.le_refl _
  rintro ⟨onConsole, inReport, consoleEvents, reportEvents, hconsole, -⟩
  have hrefused : readConsole (writtenLine "MathSpec".toList
      (iterationDisplayName "max".toList "a: 1".toList longIndex) .passed) "max".toList = .error _ :=
    (refused_longIndex hfeature (by decide) hp (by decide) hname hindex .passed ⟨[], by decide⟩ ⟨[], by decide⟩ []).1
  rw [hrefused] at hconsole
  cases hconsole

end SpecAtlas.Result
