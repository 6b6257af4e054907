import SpecAtlas.File.Glob
import SpecAtlas.Proofs.Except
import SpecAtlas.Proofs.Mapping
import SpecAtlas.Proofs.Text.Basic

/-!
# Names below a node

A path is followed from the root, and `..` leads back to where it came from. Below a node, names without
`..` lead downwards only, so that what they lead to is a matter of that node alone: `get?`. A directory
tree is proper if the names in each of its directories are different, `..` is none of them, and none of them
holds the character that ends a path for the system.

The outline of a tree is the tree without the contents of its files and the locks on them. What a path
names, and whether it names a file or a directory, can be seen from the outline.
-/

namespace SpecAtlas.File.Node

open Text

/-- What some names lead to below a node. -/
def get? (node : Node) : List Text → Option Node
  | [] => some node
  | part :: rest => (Mapping.get? node.entries part).bind fun child => get? child rest

/-- Whether a name is one that an entry of a directory can have. -/
def isProperName (name : Text) : Bool := name ≠ ['.', '.'] && !name.elem nullCharacter

mutual

/-- Whether a tree is one as a file system has them. -/
def isProper : Node → Bool
  | file _ => true
  | locked => true
  | directory entries => decide (entries.map Prod.fst).Nodup && entriesAreProper entries

/-- Whether entries have names of their own and proper trees. -/
def entriesAreProper : List (Text × Node) → Bool
  | [] => true
  | (name, node) :: rest => isProperName name && node.isProper && entriesAreProper rest

end

mutual

/-- A tree without the contents of its files, and without the locks on them. -/
def outline : Node → Node
  | file _ => file []
  | locked => file []
  | directory entries => directory (entriesOutline entries)

/-- Entries without the contents of their files. -/
def entriesOutline : List (Text × Node) → List (Text × Node)
  | [] => []
  | (name, node) :: rest => (name, node.outline) :: entriesOutline rest

end

/-! ## Names -/

@[simp, grind =] theorem get?_nil (node : Node) : node.get? [] = some node := rfl

@[simp, grind =] theorem get?_file (bytes : List UInt8) (part : Text) (rest : List Text) :
    (file bytes).get? (part :: rest) = none := rfl

@[simp, grind =] theorem get?_locked (part : Text) (rest : List Text) : locked.get? (part :: rest) = none := rfl

@[simp, grind =] theorem get?_empty (part : Text) (rest : List Text) :
    (directory []).get? (part :: rest) = none := rfl

@[simp, grind =] theorem get?_directory (name : Text) (node : Node) (others : List (Text × Node)) (part : Text)
    (rest : List Text) :
    (directory ((name, node) :: others)).get? (part :: rest) =
      if name = part then node.get? rest else (directory others).get? (part :: rest) := by
  simp only [get?, entries, Mapping.get?]
  split <;> rfl

theorem get?_append (node : Node) (front back : List Text) :
    node.get? (front ++ back) = (node.get? front).bind (·.get? back) := by
  induction front generalizing node with
  | nil => rfl
  | cons part rest ih =>
      rw [List.cons_append, get?, get?]
      cases Mapping.get? node.entries part with
      | none => rfl
      | some child => exact ih child

/-- A node with something below it is a directory. -/
theorem isDirectory_of_get?_cons {node n : Node} {part : Text} {rest : List Text}
    (h : node.get? (part :: rest) = some n) : node.isDirectory = true := by
  cases node with
  | file bytes => simp [get?, entries, Mapping.get?] at h
  | locked => simp [get?, entries, Mapping.get?] at h
  | directory entries => rfl

/-! ## Steps along a path -/

/-- One component further from a node, with the directories that contain it. -/
def advance (place : List Node × Node) (part : Text) : Except Obstacle (List Node × Node) :=
  match place with
  | (_, file _) => .error .notDirectory
  | (_, locked) => .error .notDirectory
  | (above, directory children) =>
    if part = ['.', '.'] then
      match above with
      | [] => .ok (above, directory children)
      | outer :: above => .ok (above, outer)
    else
      match Mapping.get? children part with
      | some child => .ok (directory children :: above, child)
      | none => .error (absence part)

/-- A path is followed step by step. -/
theorem follow_eq (above : List Node) (node : Node) (parts : List Text) :
    follow above node parts = (parts.foldlM advance (above, node)).map Prod.snd := by
  induction parts generalizing above node with
  | nil => rfl
  | cons part rest ih =>
      rw [List.foldlM_cons]
      cases node with
      | file bytes => rfl
      | locked => rfl
      | directory children =>
          unfold follow advance
          dsimp only
          split
          · cases above with
            | nil => exact ih [] (directory children)
            | cons outer above => exact ih above outer
          · cases Mapping.get? children part with
            | none => rfl
            | some child => exact ih (directory children :: above) child

/-- A step to a name leads to the entry with the name. -/
theorem advance_of_ne {place : List Node × Node} {part : Text} (h : part ≠ ['.', '.']) :
    ((advance place part).map Prod.snd).toOption = Mapping.get? place.2.entries part := by
  obtain ⟨above, node⟩ := place
  cases node with
  | file bytes => rfl
  | locked => rfl
  | directory children =>
      unfold advance entries
      dsimp only
      rw [if_neg h]
      cases Mapping.get? children part <;> rfl

/-- Names without `..` are followed downwards. -/
theorem foldlM_advance_of_not_mem {place : List Node × Node} {parts : List Text} (h : ['.', '.'] ∉ parts) :
    ((parts.foldlM advance place).map Prod.snd).toOption = place.2.get? parts := by
  induction parts generalizing place with
  | nil => rfl
  | cons part rest ih =>
      rw [List.mem_cons, not_or] at h
      rw [List.foldlM_cons, get?, ← advance_of_ne fun he => h.1 he.symm]
      cases advance place part with
      | error o => rfl
      | ok next => exact ih h.2

/-- What is named below a path is named below the node that the path leads to. -/
theorem find?_children {parts : List Text} (h : ['.', '.'] ∉ parts) (root : Node) (base : FilePath) :
    root.find? (base.children parts) = (root.find? base).bind (·.get? parts) := by
  simp only [find?, find, FilePath.children, follow_eq, List.foldlM_append]
  cases base.parts.foldlM advance ([], root) with
  | error o => rfl
  | ok place => exact foldlM_advance_of_not_mem h

/-! ## Proper trees -/

/-- A proper name leads downwards. -/
theorem ne_of_isProperName {name : Text} (h : isProperName name = true) : name ≠ ['.', '.'] := by
  rintro rfl
  simp [isProperName] at h

theorem not_mem_of_isProperName {parts : List Text} (h : ∀ part ∈ parts, isProperName part = true) :
    ['.', '.'] ∉ parts := fun hm => ne_of_isProperName (h _ hm) rfl

theorem entriesAreProper_iff {entries : List (Text × Node)} :
    entriesAreProper entries = true ↔ ∀ e ∈ entries, isProperName e.1 = true ∧ e.2.isProper = true := by
  induction entries with
  | nil => simp [entriesAreProper]
  | cons e rest ih => simp [entriesAreProper, ih]

/-- In a directory of a proper tree, the entries are what their names lead to. -/
theorem get?_eq_some_iff {node child : Node} (h : node.isProper = true) {name : Text} :
    Mapping.get? node.entries name = some child ↔ (name, child) ∈ node.entries := by
  refine ⟨Mapping.mem_of_get?, fun hmem => ?_⟩
  cases node with
  | file bytes => contradiction
  | locked => contradiction
  | directory children =>
      simp only [isProper, Bool.and_eq_true, decide_eq_true_eq] at h
      have hwritten := Mapping.get?_ofList_of_mem h.1 hmem
      rwa [Mapping.ofList_of_nodup h.1] at hwritten

/-- What a name of an entry leads to in a proper tree is a proper tree. -/
theorem proper_of_mem {node child : Node} (h : node.isProper = true) {name : Text}
    (hmem : (name, child) ∈ node.entries) : isProperName name = true ∧ child.isProper = true := by
  cases node with
  | file bytes => contradiction
  | locked => contradiction
  | directory children =>
      simp only [isProper, Bool.and_eq_true] at h
      exact entriesAreProper_iff.1 h.2 _ hmem

theorem proper_of_get? {node n : Node} {parts : List Text} (h : node.isProper = true)
    (hget : node.get? parts = some n) : n.isProper = true ∧ ∀ part ∈ parts, isProperName part = true := by
  induction parts generalizing node with
  | nil =>
      cases hget
      exact ⟨h, by simp⟩
  | cons part rest ih =>
      obtain ⟨child, hchild, hrest⟩ := Option.bind_eq_some_iff.1 hget
      obtain ⟨hname, hproper⟩ := proper_of_mem h (Mapping.mem_of_get? hchild)
      obtain ⟨hn, hparts⟩ := ih hproper hrest
      exact ⟨hn, List.forall_mem_cons.2 ⟨hname, hparts⟩⟩

/-- A node and the directories that contain it are proper trees. -/
def IsProperPlace (place : List Node × Node) : Prop :=
  (∀ outer ∈ place.1, outer.isProper = true) ∧ place.2.isProper = true

theorem properPlace_of_advance {place next : List Node × Node} {part : Text} (h : IsProperPlace place)
    (hstep : advance place part = .ok next) : IsProperPlace next := by
  obtain ⟨above, node⟩ := place
  obtain ⟨habove, hnode⟩ := h
  cases node with
  | file bytes => simp [advance] at hstep
  | locked => simp [advance] at hstep
  | directory children =>
      unfold advance at hstep
      dsimp only at hstep
      split at hstep
      · cases above with
        | nil =>
            cases hstep
            exact ⟨habove, hnode⟩
        | cons outer above =>
            cases hstep
            rw [List.forall_mem_cons] at habove
            exact ⟨habove.2, habove.1⟩
      · cases hget : Mapping.get? children part with
        | none => simp [hget] at hstep
        | some child =>
            rw [hget] at hstep
            cases hstep
            exact ⟨List.forall_mem_cons.2 ⟨hnode, habove⟩, (proper_of_mem hnode (Mapping.mem_of_get? hget)).2⟩

/-- What a path leads to in a proper tree is a proper tree. -/
theorem properPlace_of_foldlM {place last : List Node × Node} {parts : List Text} (h : IsProperPlace place)
    (hrun : parts.foldlM advance place = .ok last) : IsProperPlace last := by
  induction parts generalizing place with
  | nil =>
      cases hrun
      exact h
  | cons part rest ih =>
      rw [List.foldlM_cons] at hrun
      obtain ⟨next, hnext, hrest⟩ := bind_eq_ok.1 hrun
      exact ih (properPlace_of_advance h hnext) hrest

theorem proper_of_find? {root node : Node} {path : FilePath} (h : root.isProper = true)
    (hfind : root.find? path = some node) : node.isProper = true := by
  rw [find?, find, follow_eq] at hfind
  cases hrun : path.parts.foldlM advance ([], root) with
  | error o => simp [hrun, Except.map, Except.toOption] at hfind
  | ok last =>
      rw [hrun] at hfind
      cases hfind
      exact (properPlace_of_foldlM ⟨by simp, h⟩ hrun).2

/-! ## Outlines -/

theorem entriesOutline_eq (entries : List (Text × Node)) :
    entriesOutline entries = entries.map fun e => (e.1, e.2.outline) := by
  induction entries with
  | nil => rfl
  | cons e rest ih => rw [List.map_cons, ← ih, entriesOutline]

@[simp] theorem entries_outline (node : Node) :
    node.outline.entries = node.entries.map fun e => (e.1, e.2.outline) := by
  cases node with
  | file bytes => rfl
  | locked => rfl
  | directory children => exact entriesOutline_eq children

/-- A path for which there is an answer that is not `no` can be read as it is. -/
theorem readFrom_of_ask {root : Node} {test : Node → Bool} {path : FilePath} (h : root.ask test path = .ok true)
    (cwd : FilePath) : root.readFrom cwd path = (root.read (cwd ++ path)).mapError .obstacle := by
  unfold ask at h
  split at h
  · contradiction
  · rename_i hnull
    split at h
    · contradiction
    · rename_i hlength
      rw [readFrom, if_neg hnull, if_neg hlength]

/-- A text is refused for the character that ends a path exactly if the path holds it. -/
theorem readLossy_eq_nullCharacter {root : Node} {cwd path : FilePath} :
    root.readLossy cwd path = .error .nullCharacter ↔ path.hasNull = true := by
  rw [readLossy, map_eq_error, readFrom]
  split
  · rename_i hnull
    simp [hnull]
  · rename_i hnull
    split
    · simp [hnull]
    · simp [mapError_eq_error, hnull]

end SpecAtlas.File.Node
