import SpecAtlas.Proofs.CommandLine.Results

/-!
# Which results of the console are shown

Without a report the console is read for the feature, and what it tells is filtered like the results of a
report: a result is kept if the name under which it is shown, taken apart again, names the feature. That name
was put together by the reader of the console, and not every feature comes back from it:

1. behind a bracket that is not closed, all is taken for parameters;
2. white space at the end of the feature is taken for the gap in front of the brackets.

A feature is `Recoverable` if neither is the case. The command shows all that the console tells of a recoverable
feature, and nothing of any other one (`run_lists_console`): its failed iterations are passed over then, and the
command succeeds.

That there is no report must be known for this. The name of a class that is too long for a file is not looked for,
and then the command has no outcome.
-/

namespace SpecAtlas.CommandLine

open File Result Text

variable {r : ResultsRequest} {common : Common} {s : Session} {settings : Config.Settings} {query : Query}
  {console feature : Text} {results : List IterationResult} {events log : List Event}

/-- If the report has no results, the search finds those of the console that belong to the feature. -/
theorem exists_found (hfeature : r.feature = .text feature) (hreport : query.report s.root = .ok ([], log))
    (hconsole : readConsole console feature = .ok (results, events)) :
    ∃ more, r.found query s.root console = .ok (ofFeature feature results, more) := by
  unfold ResultsRequest.found
  rw [hfeature]
  simp only [Query.run, hreport, ok_bind, preferReport, hconsole, List.isEmpty_nil, if_true]
  exact ⟨_, rfl⟩

/-- A report without results leaves the command with what the console tells, if the feature is recoverable. -/
theorem run_of_no_results (hne : feature ≠ []) (hline : '\n' ∉ feature) (hfeature : r.feature = .text feature)
    (h : r.Opens common s settings query console) (hconsole : readConsole console feature = .ok (results, events))
    (hreport : query.report s.root = .ok ([], log)) :
    ∃ outcome, r.run common s = .ok outcome ∧
      r.Lists common query.tool (if Recoverable feature then results else []) outcome := by
  obtain ⟨more, hfound⟩ := exists_found hfeature hreport hconsole
  rw [ofFeature_readConsole_eq hconsole hne hline] at hfound
  obtain ⟨hfails, hsucceeds⟩ := exit_iff (if Recoverable feature then results else [])
  exact ⟨_, by rw [run_of_opens h, hfound]; rfl, rfl, hfails, hsucceeds⟩

/-- **What is shown of the console**: if nothing can be asked about the path of the report, the command has no outcome.
A report that is missing has no results; and if the report has none, the command shows all that the console tells of the
feature if its name is recoverable, and otherwise nothing. It fails if one of the shown results did. -/
theorem run_lists_console (hne : feature ≠ []) (hline : '\n' ∉ feature) (hfeature : r.feature = .text feature)
    (h : r.Opens common s settings query console) (hconsole : readConsole console feature = .ok (results, events)) :
    (∀ b, s.root.ask Node.isFile query.reportPath = .error b → r.run common s = .error (.blocked b)) ∧
    (s.root.ask Node.isFile query.reportPath = .ok false → ∃ log, query.report s.root = .ok ([], log)) ∧
    (∀ log, query.report s.root = .ok ([], log) → ∃ outcome, r.run common s = .ok outcome ∧
      r.Lists common query.tool (if Recoverable feature then results else []) outcome) ∧
    ∀ result ∈ results, featureOf? result.displayName = some feature ↔ Recoverable feature :=
  ⟨fun _ hb => run_of_report_error hfeature h (report_of_blocked hb), fun hmissing => ⟨_, report_of_missing hmissing⟩,
    fun _ hreport => run_of_no_results hne hline hfeature h hconsole hreport, featureOf?_readConsole_iff hconsole hne hline⟩

/-! ## A workspace without reports -/

/-- The files of a workspace in which no test was run. -/
def bareFiles : Node := .put ["ws".toList, "build.gradle".toList] (.file []) .empty

/-- A session in that workspace, with the console on the standard input. -/
def bareSession (console : Text) : Session := ⟨bareFiles, .ofText "/ws".toList, [], console, 0, Config.builtinReader⟩

/-- Asks for a feature, with the console on the standard input. -/
def requestFor (feature : Text) : ResultsRequest := ⟨.text "MathSpec".toList, .text feature, ['-'], none, none, false⟩

/-- Where the report is looked for. -/
def bareQuery : Query := ⟨.ofText "/ws".toList, .gradle, [], "MathSpec".toList⟩

theorem opens_bare (feature console : Text) :
    (requestFor feature).Opens ⟨none, false, false⟩ (bareSession console) Config.defaults bareQuery console := by
  have htool : Config.buildTool bareFiles bareQuery.workspace Config.defaults = .ok .gradle := by decide +kernel
  exact ⟨rfl, rfl, htool, rfl, rfl, rfl⟩

/-- There is no report for the class. -/
theorem missing_bare : bareFiles.ask Node.isFile bareQuery.reportPath = .ok false := by decide +kernel

/-- What the console tells of a feature with closed brackets and white space in front: it failed. -/
def closedFailed : Text := "MathSpec >  max [of] 2 [a: 1, #0] FAILED\n".toList

/-- The command shows the failed iteration of this feature, and fails. -/
theorem run_closedFailed :
    Recoverable " max [of] 2".toList ∧
    (requestFor " max [of] 2".toList).Opens ⟨none, false, false⟩ (bareSession closedFailed) Config.defaults bareQuery
      closedFailed ∧
    bareFiles.ask Node.isFile bareQuery.reportPath = .ok false ∧
    ∃ results events, readConsole closedFailed " max [of] 2".toList = .ok (results, events) ∧
      results.map IterationResult.success = [false] ∧
      ∃ outcome, (requestFor " max [of] 2".toList).run ⟨none, false, false⟩ (bareSession closedFailed) = .ok outcome ∧
        (requestFor " max [of] 2".toList).Lists ⟨none, false, false⟩ .gradle results outcome := by
  have hrecoverable : Recoverable " max [of] 2".toList := by decide
  have hopens := opens_bare " max [of] 2".toList closedFailed
  obtain ⟨found, hconsole, hone⟩ : ∃ found, readConsole closedFailed " max [of] 2".toList = .ok found ∧
      found.1.map IterationResult.success = [false] := exists_of_map_toOption (by decide +kernel)
  obtain ⟨-, hmissing, hlists, -⟩ := run_lists_console (by decide) (by decide) rfl hopens hconsole
  obtain ⟨log, hreport⟩ := hmissing missing_bare
  have hshown := hlists log hreport
  rw [if_pos hrecoverable] at hshown
  exact ⟨hrecoverable, hopens, missing_bare, found.1, found.2, hconsole, hone, hshown⟩

/-- What the console tells of a feature that ends in white space: it failed. -/
def paddedFailed : Text := "MathSpec > max  [a: 1, #0] FAILED\n".toList

/-- The console has a failed result of this feature. The command does not show it, and succeeds. -/
theorem padded_not_listed :
    (requestFor "max ".toList).Opens ⟨none, false, false⟩ (bareSession paddedFailed) Config.defaults bareQuery
      paddedFailed ∧
    bareFiles.ask Node.isFile bareQuery.reportPath = .ok false ∧
    ∃ results events outcome, readConsole paddedFailed "max ".toList = .ok (results, events) ∧
      (∃ x ∈ results, x.success = false) ∧
      (requestFor "max ".toList).run ⟨none, false, false⟩ (bareSession paddedFailed) = .ok outcome ∧ outcome.exit = 0 ∧
      ¬ (requestFor "max ".toList).Lists ⟨none, false, false⟩ .gradle results outcome := by
  obtain ⟨found, hconsole, hone⟩ : ∃ found, readConsole paddedFailed "max ".toList = .ok found ∧
      found.1.map IterationResult.success = [false] := exists_of_map_toOption (by decide +kernel)
  obtain ⟨outcome, hrun, hexit⟩ : ∃ outcome,
      (requestFor "max ".toList).run ⟨none, false, false⟩ (bareSession paddedFailed) = .ok outcome ∧
        outcome.exit = 0 := exists_of_map_toOption (by decide +kernel)
  obtain ⟨hfailed, hnot⟩ := not_lists_of_failed hone hexit
  exact ⟨opens_bare _ _, missing_bare, found.1, found.2, outcome, hconsole, hfailed, hrun, hexit, hnot⟩

end SpecAtlas.CommandLine
