import SpecAtlas.Config.Load
import SpecAtlas.Proofs.Config.Environment
import SpecAtlas.Proofs.Config.Toml.Distinct
import SpecAtlas.Proofs.File.Tree

/-!
# Where the entries of the configuration come from

The configuration file that counts is the nearest one at or above the starting directory (`IsNearest`). An
entry of the effective configuration comes from the variable that sets it, else from this file, else from the
defaults; and there is a configuration, unless a variable that sets an entry has a value that cannot be read.
-/

namespace SpecAtlas.Config

open File Text

/-! ## The nearest file -/

/-- The place of the configuration file in the directory that the first components of a path name. -/
def fileIn (directory : FilePath) (depth : Nat) : FilePath :=
  FilePath.child ⟨directory.root, directory.parts.take depth⟩ fileName

/-- A configuration file is the nearest one at or above a directory, or there is none. -/
def IsNearest (root : Node) (directory : FilePath) : Option FilePath → Prop
  | some path => ∃ depth ≤ directory.parts.length, path = fileIn directory depth ∧
      root.ask Node.isFile path = .ok true ∧
      ∀ deeper, depth < deeper → deeper ≤ directory.parts.length →
        root.ask Node.isFile (fileIn directory deeper) = .ok false
  | none => ∀ depth ≤ directory.parts.length, root.ask Node.isFile (fileIn directory depth) = .ok false

theorem beginnings_eq (parts : List Text) :
    FilePath.beginnings parts = (List.range (parts.length + 1)).map parts.take := by
  induction parts with
  | nil => rfl
  | cons part rest ih =>
      have hrange : List.range (rest.length + 1 + 1) = 0 :: (List.range (rest.length + 1)).map Nat.succ :=
        List.range_succ_eq_map
      rw [FilePath.beginnings, ih, List.length_cons, hrange, List.map_cons, List.map_map, List.map_map]
      rfl

/-- The last hit in what counts up, of which everything behind it is no hit, or else nothing is a hit. -/
def IsLastHit {ε α : Type} (f : Nat → α) (p : α → Except ε Bool) (n : Nat) : Option α → Prop
  | some a => ∃ d < n, a = f d ∧ p a = .ok true ∧ ∀ e, d < e → e < n → p (f e) = .ok false
  | none => ∀ d < n, p (f d) = .ok false

/-- The last hit is the last of all, or else that is no hit and the last hit stands before it. -/
theorem isLastHit_succ {ε α : Type} {f : Nat → α} {p : α → Except ε Bool} {n : Nat} {result : Option α} :
    IsLastHit f p (n + 1) result ↔
      p (f n) = .ok true ∧ result = some (f n) ∨ p (f n) = .ok false ∧ IsLastHit f p n result := by
  cases result with
  | none =>
      constructor
      · exact fun h => .inr ⟨h n (Nat.lt_succ_self n), fun d hd => h d (by omega)⟩
      · rintro (⟨-, h⟩ | ⟨hn, h⟩)
        · contradiction
        · intro d hd
          obtain hlt | rfl := Nat.lt_succ_iff_lt_or_eq.1 hd
          · exact h d hlt
          · exact hn
  | some a =>
      constructor
      · rintro ⟨d, hd, rfl, hhit, hbehind⟩
        obtain hlt | rfl := Nat.lt_succ_iff_lt_or_eq.1 hd
        · have hn := hbehind n hlt (Nat.lt_succ_self n)
          exact .inr ⟨hn, d, hlt, rfl, hhit, fun e hde he => hbehind e hde (by omega)⟩
        · exact .inl ⟨hhit, rfl⟩
      · rintro (⟨hhit, he⟩ | ⟨hn, d, hd, rfl, hhit, hbehind⟩)
        · obtain rfl := Option.some.inj he
          exact ⟨n, Nat.lt_succ_self n, rfl, hhit, fun e hne he => absurd he (by omega)⟩
        · refine ⟨d, by omega, rfl, hhit, fun e hde he => ?_⟩
          obtain hlt | rfl := Nat.lt_succ_iff_lt_or_eq.1 he
          · exact hbehind e hde hlt
          · exact hn

/-- A search from above for something in what counts up finds the last hit, if there is an answer for everything
from there on. -/
theorem findM?_downward {ε α : Type} (f : Nat → α) (p : α → Except ε Bool) (n : Nat) (result : Option α) :
    ((List.range n).reverse.map f).findM? p = .ok result ↔ IsLastHit f p n result := by
  induction n with
  | zero => cases result <;> simp [List.findM?, pure, Except.pure, IsLastHit]
  | succ n ih =>
      rw [List.range_succ, List.reverse_append, List.reverse_singleton, List.singleton_append, List.map_cons,
        List.findM?, isLastHit_succ]
      cases hn : p (f n) with
      | error e => simp [bind, Except.bind]
      | ok answer =>
          rw [ok_bind]
          cases answer with
          | true => simp [pure, Except.pure, eq_comm]
          | false => simpa using ih

/-- The search finds the nearest file. -/
theorem findFile?_eq_ok_iff {root : Node} {directory : FilePath} {file : Option FilePath} :
    findFile? root directory = .ok file ↔ IsNearest root directory file := by
  have hfiles : directory.upward.map (·.child fileName) =
      (List.range (directory.parts.length + 1)).reverse.map (fileIn directory) := by
    rw [FilePath.upward, beginnings_eq, ← List.map_reverse, List.map_map, List.map_map]
    rfl
  rw [findFile?, hfiles, findM?_downward]
  cases file <;> simp only [IsNearest, IsLastHit, Nat.lt_succ_iff]

/-! ## The file and the defaults -/

/-- The tables that a configuration file says, if there is one. -/
def IsRead (reader : TableReader) (root : Node) : Option FilePath → Settings → Prop
  | some path, sections => ∃ bytes content, root.read path = .ok bytes ∧ Utf8.decode bytes = .ok content ∧
      reader (unifyLines content) = .ok sections
  | none, sections => sections = []

variable {reader : TableReader} {root : Node} {cwd start : FilePath} {file : Option FilePath} {sections : Settings}

theorem isSectioned_of_forall {settings : Settings} (h : ∀ e ∈ settings, ∃ entries, e.2 = .map entries) :
    IsSectioned settings :=
  fun name v hget => h (name, v) (Mapping.mem_of_get? hget)

theorem isSectioned_defaults : IsSectioned defaults := by
  apply isSectioned_of_forall
  simp [defaults]

/-- No default is a table inside its section. -/
theorem plain_defaults {name key : Text} {v : Value} (h : valueAt? defaults name key = some v)
    (entries : Mapping Value) : v ≠ .map entries := by
  have hplain : ∀ e ∈ defaults, ∀ es, e.2 = .map es → ∀ f ∈ es, f.2 ≠ .map entries := by
    simp +contextual [defaults, texts, or_imp]
  obtain ⟨es, hsection, hentry⟩ := mem_of_valueAt? h
  exact hplain _ hsection es rfl _ hentry

/-- A configuration file has different sections, and different keys in each of them. -/
theorem IsRead.nodup (hreader : reader.IsTabular) (h : IsRead reader root file sections) :
    (sections.map Prod.fst).Nodup ∧ ∀ e ∈ sections, HasDistinctKeys e.2 := by
  cases file with
  | none =>
      cases h
      simp
  | some path =>
      obtain ⟨bytes, content, -, -, hread⟩ := h
      exact hreader hread

/-- The configuration without the environment has the entries of the file, and those of the defaults that the file
does not have. -/
theorem valueAt?_merge_defaults (hreader : reader.IsTabular) (hread : IsRead reader root file sections)
    (hsections : ∀ e ∈ sections, ∃ entries, e.2 = .map entries) :
    IsSectioned (merge defaults sections) ∧ ∀ name key,
      valueAt? (merge defaults sections) name key = (valueAt? sections name key).or (valueAt? defaults name key) := by
  obtain ⟨hkeys, hdistinct⟩ := hread.nodup hreader
  exact merge_sections isSectioned_defaults (isSectioned_of_forall hsections) (fun _ _ _ => plain_defaults) hkeys
    hdistinct

/-- What is loaded is the nearest file over the defaults, and the environment over both. -/
theorem load_nearest (hfile : IsNearest root (FilePath.resolve cwd start) file)
    (hread : IsRead reader root file sections) (environment : List (Text × Text)) :
    load reader root cwd environment none start = withEnvironment environment (merge defaults sections) := by
  rw [load, chosenFile?, findFile?_eq_ok_iff.2 hfile, mapError_ok, ok_bind]
  cases file with
  | none =>
      cases hread
      rfl
  | some path =>
      obtain ⟨depth, -, hpath, hasked, -⟩ := hfile
      obtain ⟨bytes, content, hbytes, hcontent, htables⟩ := hread
      have habsolute : cwd ++ path = path := by rw [hpath]; rfl
      have hfrom : root.readFrom cwd path = .ok bytes := by
        rw [Node.readFrom_of_ask hasked, habsolute, hbytes]
        rfl
      dsimp only
      rw [loadFile, hfrom, mapError_ok, ok_bind, hcontent, mapError_ok, ok_bind, ofText, readTables, htables]
      rfl

theorem withEnvironment_eq_ok {environment : List (Text × Text)} {s t : Settings} :
    withEnvironment environment s = .ok t ↔ applyEnvironment s environment = .ok t := by
  rw [withEnvironment]
  cases applyEnvironment s environment <;> simp [Except.mapError]

/-! ## The effective configuration -/

section

variable {environment : List (Text × Text)} {settings : Settings}
  (hfile : IsNearest root (FilePath.resolve cwd start) file) (hread : IsRead reader root file sections)

include hfile hread

theorem load_eq_ok_iff :
    load reader root cwd environment none start = .ok settings ↔
      applyEnvironment (merge defaults sections) environment = .ok settings := by
  rw [load_nearest hfile hread, withEnvironment_eq_ok]

variable (hreader : reader.IsTabular) (hsections : ∀ e ∈ sections, ∃ entries, e.2 = .map entries)

include hreader hsections

/-- There is a configuration exactly if the value of every variable that sets an entry can be read. -/
theorem exists_load_iff :
    (∃ settings, load reader root cwd environment none start = .ok settings) ↔
      ∀ e ∈ environment, (variableTarget? e.1).isSome = true → ∃ v, variableValue e.2 = .ok v := by
  have hsectioned := (valueAt?_merge_defaults hreader hread hsections).1
  rw [exists_congr fun settings => load_eq_ok_iff hfile hread, exists_applyEnvironment_iff]
  simp only [hsectioned.hasRoom, true_implies, Option.isSome_iff_exists, Prod.exists, forall_exists_index]

/-- The environment overrides what the file and the defaults say. -/
theorem isOverridden_load (henvironment : (environment.map fun e => lower e.1).Nodup)
    (hok : load reader root cwd environment none start = .ok settings) :
    IsOverridden environment (merge defaults sections) settings :=
  isOverridden_applyEnvironment (valueAt?_merge_defaults hreader hread hsections).1 (nodup_targets henvironment)
    ((load_eq_ok_iff hfile hread).1 hok)

end

/-- **Where an entry comes from**, for every reader of configuration files, for every tree whose nearest configuration
file is valid and has tables only, and for variables whose names differ in lower case. There is a configuration
exactly if the value of every variable that sets an entry can be read. An entry of it is what the variable of its section and key says, if there is one, else what
the nearest file says, else the default. Neither the order of the variables nor what stands in directories above the
nearest file matters. -/
theorem load_precedence {environment : List (Text × Text)} (hreader : reader.IsTabular)
    (hfile : IsNearest root (FilePath.resolve cwd start) file) (hread : IsRead reader root file sections)
    (hsections : ∀ e ∈ sections, ∃ entries, e.2 = .map entries)
    (henvironment : (environment.map fun e => lower e.1).Nodup) :
    ((∃ settings, load reader root cwd environment none start = .ok settings) ↔
      ∀ e ∈ environment, (variableTarget? e.1).isSome = true → ∃ v, variableValue e.2 = .ok v) ∧
    (∀ settings, load reader root cwd environment none start = .ok settings →
      ∀ name key, name ≠ [] → '_' ∉ name → key ≠ [] →
        (∀ rest raw, (variableLead ++ rest, raw) ∈ environment → lower rest = name ++ '_' :: key →
          ∃ v, variableValue raw = .ok v ∧ valueAt? settings name key = some v) ∧
        ((∀ rest raw, (variableLead ++ rest, raw) ∈ environment → lower rest ≠ name ++ '_' :: key) →
          valueAt? settings name key = (valueAt? sections name key).or (valueAt? defaults name key))) ∧
    (∀ environment' : List (Text × Text), environment'.Perm environment →
      ((∃ settings, load reader root cwd environment' none start = .ok settings) ↔
        ∃ settings, load reader root cwd environment none start = .ok settings) ∧
      ∀ settings settings', load reader root cwd environment none start = .ok settings →
        load reader root cwd environment' none start = .ok settings' → SameTables settings settings') ∧
    ∀ root' : Node, IsNearest root' (FilePath.resolve cwd start) file →
      (∀ path ∈ file, root'.read path = root.read path) →
      load reader root' cwd environment none start = load reader root cwd environment none start := by
  refine ⟨exists_load_iff hfile hread hreader hsections, ?_, ?_, ?_⟩
  · intro settings hok name key hname hmark hkey
    have hover := isOverridden_load hfile hread hreader hsections henvironment hok
    constructor
    · intro rest raw hmem hlower
      exact hover.set _ hmem name key (variableTarget?_of_lower hname hmark hkey hlower)
    · intro hnone
      rw [hover.unset name key ?_, (valueAt?_merge_defaults hreader hread hsections).2]
      intro e he htarget
      obtain ⟨rest, hrest, hlower⟩ := lower_of_variableTarget? htarget
      exact hnone rest e.2 (hrest ▸ he) hlower
  · intro environment' hperm
    refine ⟨?_, fun settings settings' hok hok' => ?_⟩
    · rw [exists_load_iff hfile hread hreader hsections, exists_load_iff hfile hread hreader hsections]
      simp only [hperm.mem_iff]
    · have hover := isOverridden_load hfile hread hreader hsections henvironment hok
      have henvironment' := (hperm.map fun e => lower e.1).nodup_iff.2 henvironment
      have hover' := isOverridden_load hfile hread hreader hsections henvironment' hok'
      exact hover.sameTables hover' fun e => hperm.mem_iff
  · intro root' hfile' hsame
    have hread' : IsRead reader root' file sections := by
      cases file with
      | none => exact hread
      | some path =>
          obtain ⟨bytes, content, hbytes, hrest⟩ := hread
          exact ⟨bytes, content, (hsame path rfl).trans hbytes, hrest⟩
    rw [load_nearest hfile hread, load_nearest hfile' hread']

/-- What the inner file of the following tree says. -/
def innerContent : Text := "[results]\nreport_dir=\"out\"\n".toList

/-- Two directories with configuration files, one in the other. -/
def nestedTree : Node :=
  .directory [("outer".toList, .directory [
    (fileName, .file (Utf8.encode "[results]\nbuild_tool=\"gradle\"\n[x]\ny=1\n".toList)),
    ("inner".toList, .directory [(fileName, .file (Utf8.encode innerContent))])])]

/-- Tables that say nothing but one text. -/
def saysOnly (name key v : Text) : Settings → Bool
  | [(n, .map [(k, .text w)])] => decide (n = name ∧ k = key ∧ w = v)
  | _ => false

theorem eq_of_saysOnly {name key v : Text} {s : Settings} (h : saysOnly name key v s = true) :
    s = [(name, .map [(key, .text v)])] := by
  unfold saysOnly at h
  split at h
  · obtain ⟨rfl, rfl, rfl⟩ := of_decide_eq_true h
    rfl
  · contradiction

theorem read_innerContent : builtinReader (unifyLines innerContent) =
    .ok [("results".toList, .map [("report_dir".toList, .text "out".toList)])] := by
  obtain ⟨s, hread, hsays⟩ : ∃ s, builtinReader (unifyLines innerContent) = .ok s ∧
      saysOnly "results".toList "report_dir".toList "out".toList s = true :=
    exists_of_map_toOption (by decide +kernel)
  rw [hread, eq_of_saysOnly hsays]

/-- One variable that sets an entry, and one that sets nothing. -/
def nestedEnvironment : List (Text × Text) :=
  [("PATH".toList, "/bin".toList), (variableLead ++ "RESULTS_Build_Tool".toList, "maven".toList)]

theorem lower_of_mem_nestedEnvironment {rest raw : Text} (h : (variableLead ++ rest, raw) ∈ nestedEnvironment) :
    lower rest = "results_build_tool".toList := by
  simp only [nestedEnvironment, List.mem_cons, List.not_mem_nil, or_false, Prod.mk.injEq] at h
  obtain ⟨hpath, -⟩ | ⟨hname, -⟩ := h
  · have hlead : (variableLead ++ rest).head? = some 'S' := rfl
    rw [hpath] at hlead
    exact absurd hlead (by decide)
  · rw [List.append_cancel_left hname]
    decide

/-- An entry comes from a variable, one from the nearest file, one from the defaults, and one that only the farther
file has is not there. -/
theorem load_nestedTree : ∃ settings,
    load builtinReader nestedTree ⟨['/'], ["outer".toList, "inner".toList]⟩ nestedEnvironment none ⟨[], []⟩ =
      .ok settings ∧
    valueAt? settings "results".toList "build_tool".toList = some (.text "maven".toList) ∧
    valueAt? settings "results".toList "report_dir".toList = some (.text "out".toList) ∧
    valueAt? settings "discovery".toList "test_dirs".toList = some (texts ["src/test/groovy"]) ∧
    valueAt? settings "x".toList "y".toList = none := by
  have hfile : IsNearest nestedTree (FilePath.resolve ⟨['/'], ["outer".toList, "inner".toList]⟩ ⟨[], []⟩)
      (some ⟨['/'], ["outer".toList, "inner".toList, fileName]⟩) := findFile?_eq_ok_iff.1 (by decide +kernel)
  have hread : IsRead builtinReader nestedTree (some ⟨['/'], ["outer".toList, "inner".toList, fileName]⟩)
      [("results".toList, .map [("report_dir".toList, .text "out".toList)])] :=
    ⟨_, innerContent, rfl, by decide +kernel, read_innerContent⟩
  have hreadable : ∀ e ∈ nestedEnvironment, (variableTarget? e.1).isSome = true → ∃ v, variableValue e.2 = .ok v := by
    simp only [nestedEnvironment, List.forall_mem_cons]
    exact ⟨fun _ => ⟨_, rfl⟩, fun _ => ⟨_, rfl⟩, by simp⟩
  have hdifferent : (nestedEnvironment.map fun e => lower e.1).Nodup := by decide
  obtain ⟨hexists, hentries, -⟩ := load_precedence Toml.isTabular_builtinReader hfile hread (by simp) hdifferent
  obtain ⟨settings, hload⟩ := hexists.2 hreadable
  have hunset {name key : Text} (hname : name ≠ []) (hmark : '_' ∉ name) (hkey : key ≠ [])
      (hother : "results_build_tool".toList ≠ name ++ '_' :: key) :=
    (hentries settings hload name key hname hmark hkey).2 fun rest raw hmem => by
      rw [lower_of_mem_nestedEnvironment hmem]
      exact hother
  refine ⟨settings, hload, ?_, ?_, ?_, ?_⟩
  · obtain ⟨v, hv, hentry⟩ := (hentries settings hload "results".toList "build_tool".toList (by decide) (by decide)
      (by decide)).1 "RESULTS_Build_Tool".toList "maven".toList (by simp [nestedEnvironment]) (by decide)
    cases hv
    exact hentry
  · exact hunset (by decide) (by decide) (by decide) (by decide)
  · exact hunset (by decide) (by decide) (by decide) (by decide)
  · exact hunset (by decide) (by decide) (by decide) (by decide)

/-- A list with a number of 4301 digits. -/
def longList : Text := '[' :: (List.replicate 4301 '1' ++ [']'])

/-- The value of a variable can be a list that is not read. -/
theorem load_longList :
    ¬ ∃ settings,
      load builtinReader .empty ⟨['/'], []⟩ [("SPOCKSCAN_A_B".toList, longList)] none ⟨[], []⟩ = .ok settings := by
  have hnearest : IsNearest .empty (FilePath.resolve ⟨['/'], []⟩ ⟨[], []⟩) none :=
    findFile?_eq_ok_iff.1 (by decide +kernel)
  have hrefused : (variableValue longList).isOk = false := by decide +kernel
  have hread : IsRead builtinReader .empty none [] := rfl
  rw [exists_load_iff hnearest hread Toml.isTabular_builtinReader (by simp)]
  intro hreadable
  obtain ⟨v, hv⟩ := hreadable _ List.mem_cons_self rfl
  rw [hv] at hrefused
  contradiction

end SpecAtlas.Config
