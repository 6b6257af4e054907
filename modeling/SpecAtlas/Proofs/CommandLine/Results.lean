import SpecAtlas.CommandLine.Results
import SpecAtlas.Config.BuiltinReader
import SpecAtlas.Proofs.Result.FeatureResults

/-!
# Which results are shown

The help text of the command says that the console is only read when the report has no results for the
feature. The rules of the two selections are

1. `promised`: the results of the feature in the report, or those of the console if there are none;
2. `selected`: the results of the feature in the report, or those of the console if the report has no
   results at all, of whatever feature.

The command shows what is `selected` and fails if one of it did (`run_lists_selected`). The two differ
where the report knows only other features and the console knows this one: the results of the console
are then passed over, also the failed ones.

There is no outcome at all where the report is refused, or where nothing can be asked about its path: the
name of a class is part of that path, and may be too long for one.
-/

namespace SpecAtlas.CommandLine

open File Result Text

/-! ## The two selections -/

/-- The results of a feature as the help text promises them. -/
def promised (report : List IterationResult) (console feature : Text) :
    Except LongNumeral (List IterationResult) :=
  if (ofFeature feature report).isEmpty then (readConsole console feature).map Prod.fst
  else .ok (ofFeature feature report)

/-- The results of a feature as they are selected. -/
def selected (report : List IterationResult) (console feature : Text) :
    Except LongNumeral (List IterationResult) :=
  if report.isEmpty then (readConsole console feature).map Prod.fst else .ok (ofFeature feature report)

/-- The selections agree unless the report knows only other features and the console knows this one. -/
theorem selected_eq_promised_iff {report : List IterationResult} {console feature : Text} :
    selected report console feature = promised report console feature ↔
      report = [] ∨ ofFeature feature report ≠ [] ∨ (readConsole console feature).map Prod.fst = .ok [] := by
  unfold selected promised
  cases hreport : report with
  | nil => simp [ofFeature]
  | cons first rest =>
      cases hown : ofFeature feature (first :: rest) with
      | nil => simp [eq_comm]
      | cons result results => simp

/-! ## The output -/

/-- The lines that the command writes about results. -/
def ResultsRequest.shown (r : ResultsRequest) (common : Common) (tool : Build.Tool)
    (results : List IterationResult) : List Text :=
  if r.json then [Json.write (r.document tool results)]
  else if common.quiet then []
  else r.lines results

/-- An outcome that lists results: it shows these results, and it fails if one of them did. -/
structure ResultsRequest.Lists (r : ResultsRequest) (common : Common) (tool : Build.Tool)
    (results : List IterationResult) (outcome : Outcome) : Prop where
  out : outcome.out = linesOf (r.shown common tool results)
  fails : outcome.exit = 1 ↔ ∃ x ∈ results, x.success = false
  succeeds : outcome.exit = 0 ↔ ∀ x ∈ results, x.success = true

/-- What a request finds in a session before it looks for the report: all of it can be read. -/
structure ResultsRequest.Opens (r : ResultsRequest) (common : Common) (s : Session) (settings : Config.Settings)
    (query : Query) (console : Text) : Prop where
  workspace : s.workspace r.workspace = .ok query.workspace
  configured : s.settings common query.workspace r.tool = .ok settings
  tool : Config.buildTool s.root query.workspace settings = .ok query.tool
  directory : Config.reportDirectory settings = .ok query.reportDirectory
  className : query.className = r.className.shown
  printed : r.consoleText s = .ok console

/-! ## The report -/

/-- Where nothing can be asked about a path, no report is read. -/
theorem report_of_blocked {query : Query} {root : Node} {b : Blockage}
    (h : root.ask Node.isFile query.reportPath = .error b) : query.report root = .error (.blocked b) := by
  rw [Query.report, readReportFile, h]
  rfl

/-- A report that is missing has no results. -/
theorem report_of_missing {query : Query} {root : Node} (h : root.ask Node.isFile query.reportPath = .ok false) :
    query.report root = .ok ([], [.reportMissing query.reportPath.text]) := by
  rw [Query.report, readReportFile, h]
  rfl

section

variable {r : ResultsRequest} {common : Common} {s : Session} {settings : Config.Settings} {query : Query}
  {report : Result.Reading} {console : Text}

/-- The command fails exactly if one of the results did. -/
theorem exit_iff (results : List IterationResult) :
    ((if (failed results).isEmpty then 0 else 1) = 1 ↔ ∃ x ∈ results, x.success = false) ∧
      ((if (failed results).isEmpty then 0 else 1) = 0 ↔ ∀ x ∈ results, x.success = true) := by
  have hempty : (failed results).isEmpty = true ↔ ∀ x ∈ results, x.success = true := by simp [failed]
  by_cases hall : ∀ x ∈ results, x.success = true
  · rw [if_pos (hempty.2 hall)]
    simpa using hall
  · rw [if_neg (mt hempty.1 hall)]
    simpa using hall

/-- Once all but the report can be read, the command is as good as its search. -/
theorem run_of_opens (h : r.Opens common s settings query console) :
    r.run common s = (r.found query s.root console).map fun found =>
      ⟨if (failed found.1).isEmpty then 0 else 1, linesOf (r.shown common query.tool found.1),
        common.log "results" found.2⟩ := by
  obtain ⟨workspace, tool, directory, className⟩ := query
  obtain ⟨hworkspace, hsettings, htool, hdirectory, rfl, hconsole⟩ := h
  dsimp only at hworkspace hsettings htool hdirectory
  unfold ResultsRequest.run
  simp only [hworkspace, hsettings, htool, hconsole, hdirectory, ok_bind, mapError_ok]
  cases r.found ⟨workspace, tool, directory, r.className.shown⟩ s.root console with
  | error e => rfl
  | ok found => rfl

/-- A command whose report is refused is refused for it. -/
theorem run_of_report_error {feature : Text} (hfeature : r.feature = .text feature)
    (h : r.Opens common s settings query console) {fault : Fault} (hreport : query.report s.root = .error fault) :
    r.run common s = .error fault := by
  have hfound : r.found query s.root console = .error fault := by
    unfold ResultsRequest.found
    rw [hfeature]
    simp only [Query.run, hreport]
    rfl
  rw [run_of_opens h, hfound]
  rfl

/-- The search finds what is selected. -/
theorem found_eq_selected (console : Text) {feature : Text} (hname : PlainFeature feature)
    (hfeature : r.feature = .text feature) (hreport : query.report s.root = .ok report) :
    (r.found query s.root console).map Prod.fst =
      (selected report.1 console feature).mapError .longNumeral := by
  unfold ResultsRequest.found
  rw [hfeature]
  simp only [Query.run, hreport, ok_bind, selected, preferReport]
  cases report.1 with
  | nil =>
      simp only [List.isEmpty_nil, if_true]
      cases hconsole : readConsole console feature with
      | error e => rfl
      | ok found =>
          have hown := ofFeature_readConsole hconsole hname
          show Except.ok (ofFeature feature found.1) = Except.ok found.1
          rw [hown]
  | cons first rest => rfl

/-- A command whose report is read shows what is selected, or is refused like the selection. -/
theorem run_of_selected {feature : Text} (hname : PlainFeature feature) (hfeature : r.feature = .text feature)
    (h : r.Opens common s settings query console) (hreport : query.report s.root = .ok report) :
    (∀ results, selected report.1 console feature = .ok results →
        ∃ outcome, r.run common s = .ok outcome ∧ r.Lists common query.tool results outcome) ∧
      ∀ e, selected report.1 console feature = .error e → r.run common s = .error (.longNumeral e) := by
  have hfound := found_eq_selected console hname hfeature hreport
  rw [run_of_opens h]
  refine ⟨fun results hresults => ?_, fun e he => ?_⟩
  · rw [hresults, mapError_ok] at hfound
    obtain ⟨found, hf, rfl⟩ := map_eq_ok.1 hfound
    obtain ⟨hfails, hsucceeds⟩ := exit_iff found.1
    exact ⟨_, by rw [hf]; rfl, rfl, hfails, hsucceeds⟩
  · rw [he] at hfound
    rw [map_eq_error.1 hfound]
    rfl

/-- A command that succeeds does not list a result that failed. -/
theorem not_lists_of_failed {results : List IterationResult} {tool : Build.Tool} {outcome : Outcome}
    (hone : results.map IterationResult.success = [false]) (hexit : outcome.exit = 0) :
    (∃ x ∈ results, x.success = false) ∧ ¬ r.Lists common tool results outcome := by
  have hfailed : ∃ x ∈ results, x.success = false := by
    have hmem : false ∈ results.map IterationResult.success := by simp [hone]
    simpa using hmem
  refine ⟨hfailed, fun hlists => ?_⟩
  have hfails := hlists.fails.2 hfailed
  rw [hexit] at hfails
  contradiction

/-- **What is shown**: if all but the report can be read, the command has no outcome exactly where the report has none,
in particular if nothing can be asked about its path. Otherwise it shows what is selected and fails if one of it did,
and it is only refused where the console has to be read and holds too long a number. What is selected is what the help
text promises exactly if the report has no results at all, or has results of the feature, or the console has none
either. -/
theorem run_lists_selected {feature : Text} (hname : PlainFeature feature)
    (hfeature : r.feature = .text feature) (h : r.Opens common s settings query console) :
    (∀ b, s.root.ask Node.isFile query.reportPath = .error b → r.run common s = .error (.blocked b)) ∧
    (∀ fault, query.report s.root = .error fault → r.run common s = .error fault) ∧
    ∀ report, query.report s.root = .ok report →
      (∀ results, selected report.1 console feature = .ok results →
        ∃ outcome, r.run common s = .ok outcome ∧ r.Lists common query.tool results outcome) ∧
      (∀ e, selected report.1 console feature = .error e → r.run common s = .error (.longNumeral e)) ∧
      (selected report.1 console feature = promised report.1 console feature ↔
        report.1 = [] ∨ ofFeature feature report.1 ≠ [] ∨
          (readConsole console feature).map Prod.fst = .ok []) := by
  refine ⟨fun b hb => run_of_report_error hfeature h (report_of_blocked hb),
    fun fault hf => run_of_report_error hfeature h hf, fun report hreport => ?_⟩
  obtain ⟨hlists, hrefused⟩ := run_of_selected hname hfeature h hreport
  exact ⟨hlists, hrefused, selected_eq_promised_iff⟩

end

/-! ## A report of another feature -/

/-- What the console tells: the feature `max` failed. -/
def maxFailed : Text := "MathSpec > max [a: 1, #0] FAILED\n".toList

/-- The files of a workspace whose report for the class `MathSpec` knows the feature `min` only. -/
def siblingFiles : Node :=
  .put ["ws".toList, "build".toList, "test-results".toList, "test".toList, "TEST-MathSpec.xml".toList]
    (.file (Utf8.encode "<testsuite><testcase name=\"min [a: 1, #0]\"/></testsuite>".toList)) .empty

/-- A session in that workspace, with the console on the standard input. -/
def siblingSession : Session := ⟨siblingFiles, .ofText "/ws".toList, [], maxFailed, 0, Config.builtinReader⟩

/-- Asks for the feature `max`, with the console on the standard input. -/
def maxRequest : ResultsRequest := ⟨.text "MathSpec".toList, .text "max".toList, ['-'], none, none, false⟩

/-- Where the report is looked for. -/
def siblingQuery : Query := ⟨.ofText "/ws".toList, .gradle, [], "MathSpec".toList⟩

theorem opens_sibling :
    maxRequest.Opens ⟨none, false, false⟩ siblingSession Config.defaults siblingQuery maxFailed := by
  have htool : Config.buildTool siblingSession.root siblingQuery.workspace Config.defaults = .ok .gradle := by
    decide +kernel
  exact ⟨rfl, rfl, htool, rfl, rfl, rfl⟩

theorem exists_report_sibling :
    ∃ report, siblingQuery.report siblingSession.root = .ok report ∧
      report.1.map IterationResult.displayName = ["min [a: 1, #0]".toList] :=
  exists_of_map_toOption (by decide +kernel)

/-- The report has nothing to say about the feature. -/
theorem ofFeature_sibling {report : List IterationResult}
    (h : report.map IterationResult.displayName = ["min [a: 1, #0]".toList]) :
    ofFeature "max".toList report = [] := by
  refine List.filter_eq_nil_iff.2 fun x hx => ?_
  have hmem : x.displayName ∈ report.map IterationResult.displayName := List.mem_map_of_mem hx
  rw [h, List.mem_singleton] at hmem
  rw [hmem]
  decide +kernel

/-- The command finds nothing and succeeds. -/
theorem run_sibling :
    ∃ report outcome, siblingQuery.report siblingSession.root = .ok report ∧ report.1 ≠ [] ∧
      maxRequest.run ⟨none, false, false⟩ siblingSession = .ok outcome ∧
      maxRequest.Lists ⟨none, false, false⟩ .gradle [] outcome := by
  obtain ⟨report, hreport, hnames⟩ := exists_report_sibling
  have hname : PlainFeature "max".toList := ⟨by decide, by decide, by decide, by decide⟩
  have hne : report.1 ≠ [] := by
    intro hempty
    rw [hempty] at hnames
    contradiction
  have hselected : selected report.1 maxFailed "max".toList = .ok [] := by
    rw [selected, ofFeature_sibling hnames, if_neg (by simpa using hne)]
  obtain ⟨-, -, hreports⟩ := run_lists_selected hname rfl opens_sibling
  obtain ⟨outcome, hrun, hlists⟩ := (hreports report hreport).1 [] hselected
  exact ⟨report, outcome, hreport, hne, hrun, hlists⟩

/-- The help text promises the failed result of the console, and the command does not list it. -/
theorem promised_not_listed :
    ∃ report results outcome,
      maxRequest.Opens ⟨none, false, false⟩ siblingSession Config.defaults siblingQuery maxFailed ∧
        siblingQuery.report siblingSession.root = .ok report ∧
        promised report.1 maxFailed "max".toList = .ok results ∧ (∃ x ∈ results, x.success = false) ∧
        maxRequest.run ⟨none, false, false⟩ siblingSession = .ok outcome ∧ outcome.exit = 0 ∧
        ¬ maxRequest.Lists ⟨none, false, false⟩ .gradle results outcome := by
  obtain ⟨report, hreport, hnames⟩ := exists_report_sibling
  obtain ⟨found, hconsole, hone⟩ : ∃ found, readConsole maxFailed "max".toList = .ok found ∧
      found.1.map IterationResult.success = [false] := exists_of_map_toOption (by decide +kernel)
  obtain ⟨outcome, hrun, hexit⟩ : ∃ outcome, maxRequest.run ⟨none, false, false⟩ siblingSession = .ok outcome ∧
      outcome.exit = 0 := exists_of_map_toOption (by decide +kernel)
  obtain ⟨hfailed, hnot⟩ := not_lists_of_failed hone hexit
  have hpromised : promised report.1 maxFailed "max".toList = .ok found.1 := by
    rw [promised, ofFeature_sibling hnames, hconsole]
    rfl
  exact ⟨report, found.1, outcome, opens_sibling, hreport, hpromised, hfailed, hrun, hexit, hnot⟩

end SpecAtlas.CommandLine
