import SpecAtlas.Proofs.File.Tree

/-!
# What a glob pattern selects

A list of steps fits names one by one, except that the step for any depth fits any number of names,
also none. `selectsPicks` says that in a proper tree steps select exactly the names that they fit and that
lead somewhere, and only directories where the pattern asks for them. A pattern without `..`, and without
names that the system refuses, therefore selects by the names below the directory alone.

The contents of files do not matter.
-/

namespace SpecAtlas.File

open Text Node

/-! ## The directories of a tree -/

theorem mem_directoriesAmong {entries : List (Text × Node)} {parts : List Text} :
    parts ∈ directoriesAmong entries ↔ ∃ e ∈ entries, ∃ rest ∈ e.2.directories, parts = e.1 :: rest := by
  induction entries with
  | nil => simp [directoriesAmong]
  | cons e rest ih =>
      simp only [directoriesAmong, List.mem_append, ih, List.mem_map, List.exists_mem_cons_iff]
      exact or_congr_left (exists_congr fun below => and_congr_right fun _ => eq_comm)

/-- The directories of a proper tree are the names that lead to a directory. -/
theorem mem_directories {node : Node} (h : node.isProper = true) {parts : List Text} :
    parts ∈ node.directories ↔ ∃ n, node.get? parts = some n ∧ n.isDirectory = true := by
  induction parts generalizing node with
  | nil => cases node <;> simp [directories, get?, isDirectory]
  | cons part rest ih =>
      cases node with
      | file bytes => simp [directories, get?, entries, Mapping.get?]
      | locked => simp [directories, get?, entries, Mapping.get?]
      | directory children =>
          have hbelow : part :: rest ∈ (directory children).directories ↔
              ∃ child, (part, child) ∈ children ∧ rest ∈ child.directories := by
            rw [directories, List.mem_cons, mem_directoriesAmong]
            constructor
            · rintro (hnil | ⟨⟨name, child⟩, hmem, below, hbelow, heq⟩)
              · simp at hnil
              · obtain ⟨rfl, rfl⟩ := List.cons.inj heq
                exact ⟨child, hmem, hbelow⟩
            · rintro ⟨child, hmem, hrest⟩
              exact .inr ⟨(part, child), hmem, rest, hrest, rfl⟩
          rw [hbelow, get?]
          constructor
          · rintro ⟨child, hmem, hrest⟩
            rw [(get?_eq_some_iff h).2 hmem]
            exact (ih (proper_of_mem h hmem).2).1 hrest
          · rintro ⟨n, hget, hdir⟩
            obtain ⟨child, hchild, hrest⟩ := Option.bind_eq_some_iff.1 hget
            have hmem := (get?_eq_some_iff h).1 hchild
            exact ⟨child, hmem, (ih (proper_of_mem h hmem).2).2 ⟨n, hrest, hdir⟩⟩

/-! ## What steps fit -/

/-- Whether a step fits a single name. -/
def GlobStep.admits (step : GlobStep) (part : Text) : Bool :=
  match step with
  | .name expected => part = expected
  | .like pattern => pattern.fits part
  | .deep => false

/-- Steps fit names. -/
inductive Fits : List GlobStep → List Text → Prop
  | nil : Fits [] []
  | one {step : GlobStep} {part : Text} {steps : List GlobStep} {parts : List Text} (hstep : step.admits part = true)
      (hrest : Fits steps parts) : Fits (step :: steps) (part :: parts)
  | deep {steps : List GlobStep} {parts : List Text} (skipped : List Text) (hrest : Fits steps parts) :
      Fits (.deep :: steps) (skipped ++ parts)

/-- Whether steps select only directories; the step for any depth never leads to a file. -/
def leadToDirectories (directories : Bool) : List GlobStep → Bool
  | [] => false
  | [step] => directories || step = .deep
  | _ :: next :: rest => leadToDirectories directories (next :: rest)

theorem leadToDirectories_cons {directories : Bool} {step : GlobStep} {rest : List GlobStep} (h : rest ≠ []) :
    leadToDirectories directories (step :: rest) = leadToDirectories directories rest := by
  cases rest with
  | nil => contradiction
  | cons next rest => rfl

/-- Names that steps fit, and that lead below a node to something that the steps may select. -/
def Picks (directories : Bool) (steps : List GlobStep) (node : Node) (parts : List Text) : Prop :=
  Fits steps parts ∧ ∃ n, node.get? parts = some n ∧
    (leadToDirectories directories steps = true → n.isDirectory = true)

section Picks

variable {directories : Bool} {step : GlobStep} {steps : List GlobStep} {node : Node} {parts : List Text}

theorem picks_nil : Picks directories [] node parts ↔ parts = [] := by
  constructor
  · rintro ⟨hfits, -⟩
    cases hfits
    rfl
  · rintro rfl
    exact ⟨.nil, node, rfl, by simp [leadToDirectories]⟩

/-- Steps that fit no name at all stand for any depth. -/
theorem leadToDirectories_of_fits (h : Fits steps parts) (hparts : parts = []) (hsteps : steps ≠ []) :
    leadToDirectories directories steps = true := by
  induction h with
  | nil => contradiction
  | one => contradiction
  | @deep steps parts skipped hrest ih =>
      by_cases hlast : steps = []
      · simp [hlast, leadToDirectories]
      · rw [leadToDirectories_cons hlast]
        exact ih (List.append_eq_nil_iff.1 hparts).2 hlast

/-- Only below a directory something is picked. -/
theorem Picks.isDirectory (h : Picks directories steps node parts) (hsteps : steps ≠ []) :
    node.isDirectory = true := by
  obtain ⟨hfits, n, hget, hdir⟩ := h
  cases parts with
  | cons part rest => exact isDirectory_of_get?_cons hget
  | nil =>
      cases hget
      exact hdir (leadToDirectories_of_fits hfits rfl hsteps)

/-- What a step for one name picks. Everything that is followed further is a directory. -/
theorem picks_cons (hstep : step ≠ .deep) :
    Picks directories (step :: steps) node parts ↔
      ∃ part child rest, parts = part :: rest ∧ step.admits part = true ∧
        Mapping.get? node.entries part = some child ∧
        ((directories || !steps.isEmpty) = true → child.isDirectory = true) ∧ Picks directories steps child rest := by
  constructor
  · rintro ⟨hfits, n, hget, hdir⟩
    cases hfits with
    | deep => contradiction
    | @one _ part _ rest hadmits hrest =>
        obtain ⟨child, hchild, hn⟩ := Option.bind_eq_some_iff.1 hget
        refine ⟨part, child, rest, rfl, hadmits, hchild, ?_⟩
        cases steps with
        | nil =>
            cases hrest
            cases hn
            refine ⟨fun hd => hdir ?_, picks_nil.2 rfl⟩
            simpa [leadToDirectories, hstep] using hd
        | cons next steps =>
            have hpicks : Picks directories (next :: steps) child rest := ⟨hrest, n, hn, hdir⟩
            exact ⟨fun _ => hpicks.isDirectory (List.cons_ne_nil _ _), hpicks⟩
  · rintro ⟨part, child, rest, rfl, hadmits, hchild, hdir, hfits, n, hn, hlast⟩
    refine ⟨.one hadmits hfits, n, by rw [get?, hchild]; exact hn, ?_⟩
    cases steps with
    | nil =>
        cases hfits
        cases hn
        simpa [leadToDirectories, hstep] using hdir
    | cons next steps => exact hlast

/-- What the step for any depth picks. -/
theorem picks_deep :
    Picks directories (.deep :: steps) node parts ↔
      ∃ skipped child rest, parts = skipped ++ rest ∧ node.get? skipped = some child ∧ child.isDirectory = true ∧
        Picks directories steps child rest := by
  constructor
  · rintro ⟨hfits, n, hget, hdir⟩
    cases hfits with
    | one hadmits => simp [GlobStep.admits] at hadmits
    | @deep _ rest skipped hrest =>
        rw [get?_append] at hget
        obtain ⟨child, hchild, hn⟩ := Option.bind_eq_some_iff.1 hget
        refine ⟨skipped, child, rest, rfl, hchild, ?_⟩
        cases steps with
        | nil =>
            cases hrest
            cases hn
            exact ⟨hdir (by simp [leadToDirectories]), picks_nil.2 rfl⟩
        | cons next steps =>
            have hpicks : Picks directories (next :: steps) child rest := ⟨hrest, n, hn, hdir⟩
            exact ⟨hpicks.isDirectory (List.cons_ne_nil _ _), hpicks⟩
  · rintro ⟨skipped, child, rest, rfl, hchild, hdir, hfits, n, hn, hlast⟩
    refine ⟨.deep skipped hfits, n, by rw [get?_append, hchild]; exact hn, fun hd => ?_⟩
    cases steps with
    | nil =>
        cases hfits
        cases hn
        exact hdir
    | cons next steps => exact hlast hd

end Picks

/-! ## Selecting -/

variable {root base : Node} {path : FilePath}

theorem isDirectoryAt_iff :
    root.isDirectoryAt path = true ↔ ∃ node, root.find? path = some node ∧ node.isDirectory = true :=
  Option.any_eq_true _ _

/-- Where a name leads. -/
theorem find?_child {name : Text} (hname : name ≠ ['.', '.']) (hbase : root.find? path = some base) :
    root.find? (path.child name) = Mapping.get? base.entries name := by
  have hplain : ['.', '.'] ∉ [name] := by simpa using hname.symm
  rw [FilePath.child, find?_children hplain, hbase, Option.bind_some, get?]
  cases Mapping.get? base.entries name <;> rfl

/-- A path can be followed to something, or to a directory where only that is asked for. -/
theorem reaches_iff (root : Node) (path : FilePath) (directoryOnly : Bool) :
    (if directoryOnly then root.isDirectoryAt path else root.exists? path) = true ↔
      ∃ node, root.find? path = some node ∧ (directoryOnly = true → node.isDirectory = true) := by
  cases directoryOnly with
  | true => simpa using isDirectoryAt_iff
  | false => simp [exists?, Option.isSome_iff_exists]

/-- Wherever a path leads, steps select there what they pick. -/
def SelectsPicks (root : Node) (directories : Bool) (steps : List GlobStep) : Prop :=
  ∀ path base, root.find? path = some base →
    ∃ found, select root directories path steps = .ok found ∧ ∀ parts, parts ∈ found ↔ Picks directories steps base parts

namespace SelectsPicks

variable {directories : Bool} {steps : List GlobStep}

theorem nil : SelectsPicks root directories [] := fun _ _ _ =>
  ⟨[[]], rfl, fun parts => by rw [picks_nil, List.mem_singleton]⟩

/-- A name leads to one entry, or to none. -/
theorem name (h : SelectsPicks root directories steps) {name : Text} (hne : name ≠ ['.', '.'])
    (htaken : isRefusedName name = false) : SelectsPicks root directories (.name name :: steps) := by
  intro path base hbase
  have hpicks (parts : List Text) :
      Picks directories (.name name :: steps) base parts ↔ ∃ child rest, parts = name :: rest ∧
        Mapping.get? base.entries name = some child ∧
        ((directories || !steps.isEmpty) = true → child.isDirectory = true) ∧ Picks directories steps child rest := by
    rw [picks_cons (by simp)]
    constructor
    · rintro ⟨part, child, rest, rfl, hadmits, hbelow⟩
      obtain rfl : part = name := by simpa [GlobStep.admits] using hadmits
      exact ⟨child, rest, rfl, hbelow⟩
    · rintro ⟨child, rest, rfl, hbelow⟩
      exact ⟨name, child, rest, rfl, by simp [GlobStep.admits], hbelow⟩
  have hreach := reaches_iff root (path.child name) (directories || !steps.isEmpty)
  rw [find?_child hne hbase] at hreach
  simp only [select, htaken, if_neg Bool.false_ne_true, hpicks]
  by_cases hthere : (if directories || !steps.isEmpty then root.isDirectoryAt (path.child name)
      else root.exists? (path.child name)) = true
  · obtain ⟨child, hchild, hdir⟩ := hreach.1 hthere
    obtain ⟨found, hfound, hmem⟩ := h (path.child name) child ((find?_child hne hbase).trans hchild)
    refine ⟨found.map (name :: ·), by rw [if_pos hthere, hfound]; rfl, fun parts => ?_⟩
    simp only [List.mem_map, hmem]
    constructor
    · rintro ⟨rest, hpicks, rfl⟩
      exact ⟨child, rest, rfl, hchild, hdir, hpicks⟩
    · rintro ⟨child', rest, rfl, hchild', -, hpicks⟩
      obtain rfl := Option.some.inj (hchild.symm.trans hchild')
      exact ⟨rest, hpicks, rfl⟩
  · refine ⟨[], by rw [if_neg hthere], fun parts => ?_⟩
    simp only [List.not_mem_nil, false_iff]
    rintro ⟨child, rest, -, hchild, hdir, -⟩
    exact hthere (hreach.2 ⟨child, hchild, hdir⟩)

/-- Wildcards lead to the entries whose names fit. -/
theorem like (h : SelectsPicks root directories steps) (hproper : root.isProper = true) (pattern : NamePattern) :
    SelectsPicks root directories (.like pattern :: steps) := by
  intro path base hbase
  have hbaseProper := proper_of_find? hproper hbase
  obtain ⟨results, hresults, hmem⟩ := exists_mapM_mem
    (f := fun e : Text × Node => do
      return (← select root directories (path.child e.1) steps).map (e.1 :: ·))
    (M := fun found parts => parts ∈ found)
    (R := fun e parts => ∃ rest, parts = e.1 :: rest ∧ Picks directories steps e.2 rest)
    fun (e : Text × Node) (he : e ∈ base.entries.filter fun e =>
      pattern.fits e.1 && (!(directories || !steps.isEmpty) || e.2.isDirectory)) => by
    have hentry := (List.mem_filter.1 he).1
    have hname := ne_of_isProperName (proper_of_mem hbaseProper hentry).1
    obtain ⟨found, hfound, hmem⟩ := h (path.child e.1) e.2
      ((find?_child hname hbase).trans ((get?_eq_some_iff hbaseProper).2 hentry))
    refine ⟨found.map (e.1 :: ·), by rw [hfound]; rfl, fun parts => ?_⟩
    simp only [List.mem_map, hmem, and_comm, eq_comm]
  refine ⟨results.flatten, ?_, fun parts => ?_⟩
  · simp only [select, entriesAt, hbase, Option.map_some, Option.getD_some]
    exact congrArg (· >>= fun found => pure found.flatten) hresults
  · have himplies : ∀ a b : Bool, (!a || b) = true ↔ (a = true → b = true) := by decide
    rw [List.mem_flatten, hmem, picks_cons (by simp)]
    simp only [List.mem_filter, Bool.and_eq_true, himplies, Prod.exists]
    constructor
    · rintro ⟨part, child, ⟨hentry, hfits, hdir⟩, rest, rfl, hpicks⟩
      exact ⟨part, child, rest, rfl, hfits, (get?_eq_some_iff hbaseProper).2 hentry, hdir, hpicks⟩
    · rintro ⟨part, child, rest, rfl, hfits, hchild, hdir, hpicks⟩
      exact ⟨part, child, ⟨(get?_eq_some_iff hbaseProper).1 hchild, hfits, hdir⟩, rest, rfl, hpicks⟩

/-- Any depth is that of some directory below. -/
theorem deep (h : SelectsPicks root directories steps) (hproper : root.isProper = true) :
    SelectsPicks root directories (.deep :: steps) := by
  intro path base hbase
  have hbaseProper := proper_of_find? hproper hbase
  obtain ⟨results, hresults, hmem⟩ := exists_mapM_mem
    (f := fun skipped => do
      return (← select root directories (path.children skipped) steps).map (skipped ++ ·))
    (M := fun found parts => parts ∈ found)
    (R := fun skipped parts => ∃ child rest, parts = skipped ++ rest ∧ base.get? skipped = some child ∧
      child.isDirectory = true ∧ Picks directories steps child rest)
    fun (skipped : List Text) (hskipped : skipped ∈ base.directories) => by
    obtain ⟨child, hchild, hdir⟩ := (mem_directories hbaseProper).1 hskipped
    have hnames := not_mem_of_isProperName (proper_of_get? hbaseProper hchild).2
    obtain ⟨found, hfound, hmem⟩ := h (path.children skipped) child (by
      rw [find?_children hnames, hbase, Option.bind_some, hchild])
    refine ⟨found.map (skipped ++ ·), by rw [hfound]; rfl, fun parts => ?_⟩
    simp only [List.mem_map, hmem]
    constructor
    · rintro ⟨rest, hpicks, rfl⟩
      exact ⟨child, rest, rfl, hchild, hdir, hpicks⟩
    · rintro ⟨child', rest, rfl, hchild', -, hpicks⟩
      obtain rfl := Option.some.inj (hchild.symm.trans hchild')
      exact ⟨rest, hpicks, rfl⟩
  refine ⟨results.flatten.eraseDups, ?_, fun parts => ?_⟩
  · simp only [select, directoriesAt, hbase, Option.map_some, Option.getD_some]
    exact congrArg (· >>= fun found => pure found.flatten.eraseDups) hresults
  · rw [List.mem_eraseDups, List.mem_flatten, hmem, picks_deep]
    constructor
    · rintro ⟨skipped, -, child, rest, hpicks⟩
      exact ⟨skipped, child, rest, hpicks⟩
    · rintro ⟨skipped, child, rest, rfl, hchild, hdir, hpicks⟩
      exact ⟨skipped, (mem_directories hbaseProper).2 ⟨child, hchild, hdir⟩, child, rest, rfl, hchild, hdir, hpicks⟩

end SelectsPicks

mutual

theorem directories_outline (node : Node) : node.outline.directories = node.directories := by
  cases node with
  | file bytes => rfl
  | locked => rfl
  | directory children => rw [outline, directories, directories, directoriesAmong_outline]

theorem directoriesAmong_outline (entries : List (Text × Node)) :
    directoriesAmong (entriesOutline entries) = directoriesAmong entries := by
  cases entries with
  | nil => rfl
  | cons e rest =>
      rw [entriesOutline, directoriesAmong, directoriesAmong, directories_outline, directoriesAmong_outline]

end

end SpecAtlas.File
