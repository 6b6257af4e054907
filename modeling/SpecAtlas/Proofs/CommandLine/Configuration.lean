import SpecAtlas.CommandLine.Surroundings
import SpecAtlas.Config.BuiltinReader
import SpecAtlas.Proofs.Config.Environment

/-!
# What is wrong with a configuration

A configuration file can fail in five places, one after the other:

1. the system does not take its path, since a character in it would end it;
2. the path leads to nothing that can be read;
3. the bytes there are no text;
4. the reader refuses the text, as none that is TOML or in another way;
5. the value of a variable that sets an entry cannot be read.

Only the second and the first half of the fourth are problems that the program reports. `run_configuration` says
exactly which they are, for whatever reader, and what becomes of a command in both cases.
-/

namespace SpecAtlas.CommandLine

open Config File Text

theorem config_eq_fault_iff {e : Unparsed} {problem : ConfigProblem} :
    .config problem = e.fault ↔ ∃ message, e = .invalid message ∧ problem = .invalid message := by
  cases e <;> simp [Unparsed.fault]

theorem config_eq_unread_iff {e : Unread} {path : FilePath} {problem : ConfigProblem} :
    .config problem = e.fault (fun o => .config (.unreadable path o)) ↔
      ∃ o, e = .obstacle o ∧ problem = .unreadable path o := by
  cases e <;> simp [Unread.fault]

/-! ## Loading -/

section

variable {reader : TableReader} {root : Node} {cwd path : FilePath} {environment : List (Text × Text)} {fault : Fault}

/-- The first place where a configuration file fails. -/
theorem loadFile_eq_error_iff :
    loadFile reader root cwd environment path = .error fault ↔
      (∃ e, root.readFrom cwd path = .error e ∧ fault = e.fault fun o => .config (.unreadable path o)) ∨
      ∃ bytes, root.readFrom cwd path = .ok bytes ∧
        ((∃ e, Utf8.decode bytes = .error e ∧ fault = .encoding e) ∨
        ∃ content, Utf8.decode bytes = .ok content ∧
          ((∃ e, reader (unifyLines content) = .error e ∧ fault = e.fault) ∨
          ∃ sections, reader (unifyLines content) = .ok sections ∧
            ∃ err, applyEnvironment (merge defaults sections) environment = .error err ∧
              fault = .longNumeral err)) := by
  simp only [loadFile, bind_eq_error, mapError_eq_error, mapError_eq_ok, ofText, readTables, map_eq_error, map_eq_ok,
    withEnvironment, exists_exists_and_eq_and]

/-- A problem is reported for a path that cannot be read and for a text that is no TOML. -/
theorem loadFile_eq_config_iff {problem : ConfigProblem} :
    loadFile reader root cwd environment path = .error (.config problem) ↔
      (∃ o, root.readFrom cwd path = .error (.obstacle o) ∧ problem = .unreadable path o) ∨
      ∃ bytes content message, root.readFrom cwd path = .ok bytes ∧ Utf8.decode bytes = .ok content ∧
        reader (unifyLines content) = .error (.invalid message) ∧ problem = .invalid message := by
  simp only [loadFile_eq_error_iff, reduceCtorEq, and_false, exists_false, false_or, or_false, config_eq_fault_iff,
    config_eq_unread_iff]
  refine or_congr ⟨?_, ?_⟩ ⟨?_, ?_⟩
  · rintro ⟨_, hread, o, rfl, hproblem⟩
    exact ⟨o, hread, hproblem⟩
  · rintro ⟨o, hread, hproblem⟩
    exact ⟨_, hread, o, rfl, hproblem⟩
  · rintro ⟨bytes, hbytes, content, hcontent, _, htables, message, rfl, hproblem⟩
    exact ⟨bytes, content, message, hbytes, hcontent, htables, hproblem⟩
  · rintro ⟨bytes, content, message, hbytes, hcontent, htables, hproblem⟩
    exact ⟨bytes, hbytes, content, hcontent, _, htables, message, rfl, hproblem⟩

/-- All other failures are not reported: of the path, of the text, of the reader, and of the values of variables. -/
theorem exists_loadFile_other_iff :
    (∃ fault, loadFile reader root cwd environment path = .error fault ∧ ∀ problem, fault ≠ .config problem) ↔
      root.readFrom cwd path = .error .nullCharacter ∨
      ∃ bytes, root.readFrom cwd path = .ok bytes ∧
        ((∃ e, Utf8.decode bytes = .error e) ∨
        ∃ content, Utf8.decode bytes = .ok content ∧
          ((∃ message, reader (unifyLines content) = .error (.failed message)) ∨
          ∃ sections, reader (unifyLines content) = .ok sections ∧ ∃ e ∈ environment, ∃ name key,
            variableTarget? e.1 = some (name, key) ∧ HasRoom (merge defaults sections) name ∧
              ∃ err, variableValue e.2 = .error err)) := by
  simp only [loadFile_eq_error_iff, ← exists_applyEnvironment_error_iff]
  constructor
  · rintro ⟨fault, ⟨e, hread, rfl⟩ | ⟨bytes, hbytes, hfails⟩, hother⟩
    · cases e with
      | obstacle o => exact absurd rfl (hother _)
      | nullCharacter => exact .inl hread
    · refine .inr ⟨bytes, hbytes, ?_⟩
      obtain ⟨e, he, -⟩ | ⟨content, hcontent, ⟨e, htables, rfl⟩ | ⟨sections, htables, err, herr, -⟩⟩ := hfails
      · exact .inl ⟨e, he⟩
      · cases e with
        | invalid message => exact absurd rfl (hother _)
        | failed message => exact .inr ⟨content, hcontent, .inl ⟨message, htables⟩⟩
      · exact .inr ⟨content, hcontent, .inr ⟨sections, htables, err, herr⟩⟩
  · rintro (hnull | ⟨bytes, hbytes, ⟨e, he⟩ | ⟨content, hcontent, ⟨message, htables⟩ | ⟨sections, htables, err, herr⟩⟩⟩)
    · exact ⟨.nullCharacter, .inl ⟨.nullCharacter, hnull, rfl⟩, nofun⟩
    · exact ⟨.encoding e, .inr ⟨bytes, hbytes, .inl ⟨e, he, rfl⟩⟩, nofun⟩
    · exact ⟨.unreadTables message, .inr ⟨bytes, hbytes, .inr ⟨content, hcontent, .inl ⟨_, htables, rfl⟩⟩⟩, nofun⟩
    · refine ⟨.longNumeral err, .inr ⟨bytes, hbytes, .inr ⟨content, hcontent, .inr ?_⟩⟩, nofun⟩
      exact ⟨sections, htables, err, herr, rfl⟩

end

/-! ## Commands -/

variable {common : Common} {s : Session} {file : Option FilePath} {workspace : FilePath} {fault : Fault}

/-- A command that names its configuration file, or finds it, has the settings of this file. -/
theorem settings_of_error (hpath : common.configPath = .ok file)
    (h : Config.load s.reader s.root s.cwd s.environment file workspace = .error fault) (tool : Option Text) :
    s.settings common workspace tool = .error fault := by
  rw [Session.settings, hpath, mapError_ok, ok_bind, h]
  rfl

/-- Every command but the one for the version begins with the configuration. -/
theorem run_of_error {request : Request} (hloads : request ≠ .version)
    (hworkspace : s.workspace request.workspace? = .ok workspace) (hpath : common.configPath = .ok file)
    (h : Config.load s.reader s.root s.cwd s.environment file workspace = .error fault) :
    request.run common s = .error fault := by
  cases request with
  | version => contradiction
  | discover r =>
      rw [Request.workspace?] at hworkspace
      rw [Request.run, DiscoverRequest.run, hworkspace, ok_bind, settings_of_error hpath h none]
      rfl
  | results r =>
      rw [Request.workspace?] at hworkspace
      rw [Request.run, ResultsRequest.run, hworkspace, ok_bind, settings_of_error hpath h r.tool]
      rfl
  | command r =>
      rw [Request.workspace?] at hworkspace
      rw [Request.run, RunRequest.run, hworkspace, ok_bind, settings_of_error hpath h r.tool]
      rfl

/-- **What is wrong with a configuration file**, for every path, whatever bytes are there, and for every reader of
tables. It is a problem that the program reports exactly if the path cannot be read, or if the text there is no TOML.
The file fails in another way exactly if the system does not take its path, if its bytes are no text, if the reader
fails with the text, or if the value of a variable that sets an entry cannot be read. A command that loads the file
reports a problem with exit code 1 and one line on the second output; a failure of the other kind leaves it without an
outcome. -/
theorem run_configuration (s : Session) (path : FilePath) :
    (∀ problem, loadFile s.reader s.root s.cwd s.environment path = .error (.config problem) ↔
      (∃ o, s.root.readFrom s.cwd path = .error (.obstacle o) ∧ problem = .unreadable path o) ∨
      ∃ bytes content message, s.root.readFrom s.cwd path = .ok bytes ∧ Utf8.decode bytes = .ok content ∧
        s.reader (unifyLines content) = .error (.invalid message) ∧ problem = .invalid message) ∧
    ((∃ fault, loadFile s.reader s.root s.cwd s.environment path = .error fault ∧ ∀ problem, fault ≠ .config problem) ↔
      s.root.readFrom s.cwd path = .error .nullCharacter ∨
      ∃ bytes, s.root.readFrom s.cwd path = .ok bytes ∧
        ((∃ e, Utf8.decode bytes = .error e) ∨
        ∃ content, Utf8.decode bytes = .ok content ∧
          ((∃ message, s.reader (unifyLines content) = .error (.failed message)) ∨
          ∃ sections, s.reader (unifyLines content) = .ok sections ∧ ∃ e ∈ s.environment, ∃ name key,
            variableTarget? e.1 = some (name, key) ∧ HasRoom (merge defaults sections) name ∧
              ∃ err, variableValue e.2 = .error err))) ∧
    ∀ help arguments common request, Request.read arguments = .ok (common, request) → request ≠ .version →
      ∀ workspace file, s.workspace request.workspace? = .ok workspace → common.configPath = .ok file →
      chosenFile? s.root s.cwd file workspace = .ok (some path) →
      (∀ problem, loadFile s.reader s.root s.cwd s.environment path = .error (.config problem) →
        run help arguments s = .ok ⟨1, [], linesOf [errorLine problem.message]⟩) ∧
      ∀ fault, loadFile s.reader s.root s.cwd s.environment path = .error fault →
        (∀ problem, fault ≠ .config problem) → run help arguments s = .error fault := by
  refine ⟨fun problem => loadFile_eq_config_iff, exists_loadFile_other_iff, ?_⟩
  intro help arguments common request hread hloads workspace file hworkspace hpath hfile
  have hrun (fault : Fault) (h : loadFile s.reader s.root s.cwd s.environment path = .error fault) :
      run help arguments s = reportConfig (.error fault) := by
    have hload : Config.load s.reader s.root s.cwd s.environment file workspace = .error fault := by
      rw [Config.load, hfile, ok_bind]
      exact h
    rw [run, hread]
    dsimp only
    rw [run_of_error hloads hworkspace hpath hload]
  refine ⟨fun problem h => by rw [hrun _ h, reportConfig], fun fault h hother => ?_⟩
  rw [hrun fault h]
  cases fault with
  | config problem => exact absurd rfl (hother problem)
  | _ => rfl

/-- A session with a configuration file that is no text, and another one that is no TOML. -/
def noTextSession : Session :=
  ⟨.directory [(fileName, .file [0xFF]), ("bad.toml".toList, .file (Utf8.encode "=\n".toList))], ⟨['/'], []⟩, [], [], 0,
    builtinReader⟩

/-- The command that lists specifications by the configuration of a file. -/
def discoverWith (name : Text) : List Text := ["--config".toList, name, "discover".toList]

theorem builtinReader_malformed :
    builtinReader (unifyLines "=\n".toList) = .error (.invalid "Malformed text".toList) := by
  have hrefused : (builtinReader (unifyLines "=\n".toList)).map (fun _ => ()) =
      .error (.invalid "Malformed text".toList) := by decide +kernel
  exact map_eq_error.1 hrefused

/-- A file that is named and not there is reported, and so is a text that is no TOML; bytes that are no text are not. -/
theorem run_noTextSession :
    run [] (discoverWith "gone.toml".toList) noTextSession = .ok ⟨1, [],
      "Error: Cannot read gone.toml: [Errno 2] No such file or directory: 'gone.toml'\n".toList⟩ ∧
    (∃ message, run [] (discoverWith "bad.toml".toList) noTextSession = .ok ⟨1, [],
      linesOf [errorLine ("Invalid TOML: ".toList ++ message)]⟩) ∧
    ∃ fault, run [] ["discover".toList] noTextSession = .error fault := by
  refine ⟨?_, ?_, ?_⟩
  · obtain ⟨hreported, -, hcommands⟩ := run_configuration noTextSession (.ofText "gone.toml".toList)
    have hgone := (hreported _).2 (.inl ⟨.missing, by decide +kernel, rfl⟩)
    have hread : Request.read (discoverWith "gone.toml".toList) =
        .ok (⟨some (.text "gone.toml".toList), false, false⟩, .discover ⟨[], none, true, false⟩) := by decide +kernel
    rw [(hcommands [] _ _ _ hread (by simp) _ _ rfl rfl rfl).1 _ hgone]
    decide +kernel
  · obtain ⟨hreported, -, hcommands⟩ := run_configuration noTextSession (.ofText "bad.toml".toList)
    have hbytes : noTextSession.root.readFrom noTextSession.cwd (.ofText "bad.toml".toList) =
        .ok (Utf8.encode "=\n".toList) := by decide +kernel
    have hcontent : Utf8.decode (Utf8.encode "=\n".toList) = .ok "=\n".toList := by decide +kernel
    have hbad := (hreported _).2 (.inr ⟨_, _, _, hbytes, hcontent, builtinReader_malformed, rfl⟩)
    have hread : Request.read (discoverWith "bad.toml".toList) =
        .ok (⟨some (.text "bad.toml".toList), false, false⟩, .discover ⟨[], none, true, false⟩) := by decide +kernel
    exact ⟨_, (hcommands [] _ _ _ hread (by simp) _ _ rfl rfl rfl).1 _ hbad⟩
  · obtain ⟨-, hother, hcommands⟩ := run_configuration noTextSession ⟨['/'], [fileName]⟩
    have hbytes : noTextSession.root.readFrom noTextSession.cwd ⟨['/'], [fileName]⟩ = .ok [0xFF] := by decide +kernel
    have hdecode : Utf8.decode [0xFF] = .error ⟨.start, 0xFF, 0, 1⟩ := by decide +kernel
    obtain ⟨fault, hfault, hnot⟩ := hother.2 (.inr ⟨[0xFF], hbytes, .inl ⟨_, hdecode⟩⟩)
    have hread : Request.read ["discover".toList] =
        .ok (⟨none, false, false⟩, .discover ⟨[], none, true, false⟩) := by decide +kernel
    have hfile : chosenFile? noTextSession.root noTextSession.cwd none ⟨['/'], []⟩ = .ok (some ⟨['/'], [fileName]⟩) := by
      decide +kernel
    exact ⟨fault, (hcommands [] _ _ _ hread (by simp) _ none rfl rfl hfile).2 fault hfault hnot⟩

/-- Bytes that are no text are no problem that is reported. -/
theorem loadFile_noText :
    loadFile builtinReader (.directory [(fileName, .file [0xFF])]) ⟨['/'], []⟩ [] ⟨[], [fileName]⟩ =
      .error (.encoding ⟨.start, 0xFF, 0, 1⟩) := by
  have hbytes : Node.readFrom (.directory [(fileName, .file [0xFF])]) ⟨['/'], []⟩ ⟨[], [fileName]⟩ = .ok [0xFF] := by
    decide +kernel
  refine loadFile_eq_error_iff.2 (.inr ⟨[0xFF], hbytes, .inl ⟨_, ?_, rfl⟩⟩)
  decide +kernel

end SpecAtlas.CommandLine
