import SpecAtlas.CommandLine.Program
import SpecAtlas.Config.BuiltinReader
import SpecAtlas.Proofs.Except
import SpecAtlas.Proofs.Shell.Words

/-!
# The printed command, as a shell reads it

The line is there to be pasted into a shell. The names of a class and of a feature stand in it as they were given, and
a feature may be called anything. What the shell makes of the line is the program and its arguments, one word each
(`exists_line_of_run`), so a name stays inside of the word that it was put into: for Gradle a word of its own, for Maven
the rest of the word that begins with `-Dtest=` (`run_prints_words`).

A name is the text that the options hand over. The argument `--` hands over no text but an empty list; the first of the
two lemmas is true of it as well.
-/

namespace SpecAtlas.CommandLine

open Build Text

variable {help : Text} {arguments : List Text} {s : Session} {common : Common} {request : Request} {r : RunRequest}
  {outcome : Outcome}

/-- A problem of the configuration is reported with another exit code, so a command that succeeds has an outcome of its
own. -/
theorem run_request_of_exit (hread : Request.read arguments = .ok (common, request)) (h : run help arguments s = .ok outcome)
    (hexit : outcome.exit = 0) : request.run common s = .ok outcome := by
  rw [run, hread] at h
  dsimp only at h
  cases hrun : request.run common s with
  | ok o =>
      rw [hrun] at h
      exact h
  | error fault =>
      rw [hrun] at h
      cases fault with
      | config problem =>
          cases h
          contradiction
      | _ => contradiction

/-- **The line**: the words of the invocation, as the shell reads them. -/
theorem exists_line_of_run (h : r.run common s = .ok outcome) (hexit : outcome.exit = 0) :
    ∃ workspace settings tool port wrapper line,
      s.workspace r.workspace = .ok workspace ∧ s.settings common workspace r.tool = .ok settings ∧
      Config.buildTool s.root workspace settings = .ok tool ∧ r.debugPort? tool = some port ∧
      usesWrapper s.root workspace tool = .ok wrapper ∧ outcome.out = line ++ ['\n'] ∧
      Shell.readWords? line = some (r.invocation s wrapper tool port).arguments := by
  obtain ⟨workspace, hworkspace, h⟩ := bind_eq_ok.1 h
  obtain ⟨settings, hsettings, h⟩ := bind_eq_ok.1 h
  obtain ⟨tool, htool, h⟩ := bind_eq_ok.1 h
  cases hport : r.debugPort? tool with
  | none =>
      rw [hport] at h
      cases h
      contradiction
  | some port =>
      rw [hport] at h
      obtain ⟨wrapper, hwrapper, h⟩ := bind_eq_ok.1 h
      cases h
      refine ⟨workspace, settings, tool, port, wrapper, _, hworkspace, hsettings, htool, hport, hwrapper, ?_,
        Shell.readWords?_quoteWords _⟩
      rw [linesOf, List.flatMap_singleton]

/-- **The printed command is read as it is meant.** If the command succeeds, it prints one line, and a shell reads it as
the program and the arguments of the invocation, whatever the names of the class and of the feature hold: the filter that
they make up is one word, or all of a word but for `-Dtest=`. -/
theorem run_prints_words {className : Text} (hread : Request.read arguments = .ok (common, .command r))
    (hname : r.className = .text className) (h : run help arguments s = .ok outcome) (hexit : outcome.exit = 0) :
    ∃ workspace settings tool port wrapper line words,
      s.workspace r.workspace = .ok workspace ∧ s.settings common workspace r.tool = .ok settings ∧
      Config.buildTool s.root workspace settings = .ok tool ∧ r.debugPort? tool = some port ∧
      usesWrapper s.root workspace tool = .ok wrapper ∧ outcome.out = line ++ ['\n'] ∧
      Shell.readWords? line = some words ∧
      words = Invocation.arguments ⟨tool, wrapper, testFilter className r.feature, r.debug, port, s.time⟩ ∧
      (tool = .gradle → words[3]? = some (testFilter className r.feature)) ∧
      (tool = .maven → words[2]? = some ("-Dtest=".toList ++ testFilter className r.feature)) := by
  have hrun : r.run common s = .ok outcome := run_request_of_exit hread h hexit
  obtain ⟨workspace, settings, tool, port, wrapper, line, hworkspace, hsettings, htool, hport, hwrapper, hline, hwords⟩ :=
    exists_line_of_run hrun hexit
  have hfilter : r.filter tool = testFilter className r.feature := by
    rw [RunRequest.filter, hname]
    rfl
  rw [RunRequest.invocation, hfilter] at hwords
  refine ⟨workspace, settings, tool, port, wrapper, line, _, hworkspace, hsettings, htool, hport, hwrapper, hline, hwords,
    rfl, ?_, ?_⟩
  · rintro rfl
    rfl
  · rintro rfl
    rfl

/-- A feature whose name has blanks, quotes of both kinds, a line feed, and what looks like two commands. -/
def oddFeature : Text := "it's $(rm *); \\ \"x\"\n#&".toList

/-- A session without any files. -/
def emptySession : Session := ⟨.directory [], ⟨['/'], []⟩, [], [], 0, Config.builtinReader⟩

/-- The name of this feature is one word with the name of its class. -/
theorem run_oddFeature :
    ∃ line, run [] ["command".toList, "--class".toList, "A B".toList, "--test".toList, oddFeature] emptySession =
        .ok ⟨0, line ++ ['\n'], []⟩ ∧
      Shell.readWords? line = some ["gradle".toList, "test".toList, "--tests".toList, "A B.".toList ++ oddFeature,
        "-Dorg.gradle.jvmargs=-Dtest.timestamp=0".toList] := by
  have hread : Request.read ["command".toList, "--class".toList, "A B".toList, "--test".toList, oddFeature] =
      .ok (⟨none, false, false⟩, .command ⟨.text "A B".toList, oddFeature, none, none, false, none⟩) := by decide +kernel
  have hrun : run [] ["command".toList, "--class".toList, "A B".toList, "--test".toList, oddFeature] emptySession =
      .ok ⟨0, "gradle test --tests 'A B.it'\"'\"'s $(rm *); \\ \"x\"\n#&' -Dorg.gradle.jvmargs=-Dtest.timestamp=0\n".toList,
        []⟩ := by decide +kernel
  obtain ⟨workspace, settings, tool, port, wrapper, line, words, hworkspace, hsettings, htool, -, hwrapper, hline, hwords,
    hinvocation, -, -⟩ := run_prints_words hread rfl hrun rfl
  have hgradle : Config.buildTool emptySession.root ⟨['/'], []⟩ Config.defaults = .ok .gradle := by decide +kernel
  have hown : usesWrapper emptySession.root ⟨['/'], []⟩ .gradle = .ok false := by decide +kernel
  cases hworkspace
  cases hsettings
  cases htool.symm.trans hgradle
  cases hwrapper.symm.trans hown
  dsimp only at hline
  refine ⟨line, ?_, ?_⟩
  · rw [hrun, hline]
  · rw [hwords, hinvocation]
    rfl

end SpecAtlas.CommandLine
