import SpecAtlas.File.NamePattern
import SpecAtlas.File.Tree

/-!
# Glob patterns

A glob pattern selects files and directories below a directory. Its components are divided by
slashes and followed one by one:

* a component without wildcards names an entry, `..` the directory above;
* a component with wildcards stands for every entry whose name fits;
* the component `**` stands for the directory itself and every directory below it, at any depth.

Everything that is followed further must be a directory, and so must the last component in front of
a slash. What is selected is named by its components below the directory, and ordered by them.

Only a name without wildcards is asked for, and only where everything in front of it leads somewhere.
If the system does not take the name, nothing is selected at all.
-/

namespace SpecAtlas.File

open Text

/-- Why a text is no glob pattern. -/
inductive GlobProblem where
  | empty
  | absolute
  /-- `**` is only a part of a component. -/
  | partialDeep
  /-- The pattern names no component. -/
  | noComponent
  /-- The pattern names no component, and has a slash at its end. -/
  | onlySlash
  deriving DecidableEq, Repr

/-- The message for a problem. -/
def GlobProblem.message : GlobProblem → Text
  | empty => "Unacceptable pattern: ''".toList
  | absolute => "Non-relative patterns are unsupported".toList
  | partialDeep => "Invalid pattern: '**' can only be an entire path component".toList
  | noComponent => "tuple index out of range".toList
  | onlySlash => "'_TerminatingSelector' object has no attribute 'select_from'".toList

/-- One component of a glob pattern. -/
inductive GlobStep where
  | name (name : Text)
  | like (pattern : NamePattern)
  | deep
  deriving DecidableEq, Repr

/-- A glob pattern. -/
structure Glob where
  steps : List GlobStep
  /-- Only directories are selected. -/
  directories : Bool
  deriving DecidableEq, Repr

/-- The component of a glob pattern that a text writes. -/
def GlobStep.read (text : Text) : Except GlobProblem GlobStep :=
  if text = "**".toList then .ok .deep
  else if hasMark "**".toList text then .error .partialDeep
  else if text.any fun c => c == '*' || c == '?' || c == '[' then .ok (.like (.read text))
  else .ok (.name text)

/-- The glob pattern that a text writes. -/
def Glob.read (text : Text) : Except GlobProblem Glob :=
  let path := FilePath.ofText text
  if text.isEmpty then .error .empty
  else if path.isAbsolute then .error .absolute
  else if path.parts.isEmpty then .error (if text.getLast? = some '/' then .onlySlash else .noComponent)
  else (path.parts.mapM GlobStep.read).map (⟨·, text.getLast? = some '/'⟩)

/-! ## Selecting -/

mutual

/-- The directories in a tree, the whole included, by their components. -/
def Node.directories : Node → List (List Text)
  | .file _ => []
  | .locked => []
  | .directory entries => [] :: directoriesAmong entries

/-- The directories among some entries and below them. -/
def directoriesAmong : List (Text × Node) → List (List Text)
  | [] => []
  | (name, node) :: rest => node.directories.map (name :: ·) ++ directoriesAmong rest

end

/-- The entries of the directory at a path. -/
def Node.entriesAt (root : Node) (path : FilePath) : List (Text × Node) :=
  ((root.find? path).map Node.entries).getD []

/-- The directories at and below a path, by their components. -/
def Node.directoriesAt (root : Node) (path : FilePath) : List (List Text) :=
  ((root.find? path).map Node.directories).getD []

/-- Whether the system refuses to look for a name. Where it ends the name, it finds nothing. -/
def isRefusedName (name : Text) : Bool := isTooLongName name && !name.elem nullCharacter

/-- What some steps select below a directory; with `directories` only directories. -/
def select (root : Node) (directories : Bool) (base : FilePath) : List GlobStep → Except Blockage (List (List Text))
  | [] => .ok [[]]
  | step :: rest =>
    let directoryOnly := directories || !rest.isEmpty
    match step with
    | .name name =>
      let path := base.child name
      if isRefusedName name then .error ⟨path, .nameTooLong⟩
      else if if directoryOnly then root.isDirectoryAt path else root.exists? path then
        (select root directories path rest).map fun found => found.map (name :: ·)
      else .ok []
    | .like pattern => do
      let fitting := (root.entriesAt base).filter fun (name, node) =>
        pattern.fits name && (!directoryOnly || node.isDirectory)
      let found ← fitting.mapM fun (name, _) => do
        return (← select root directories (base.child name) rest).map (name :: ·)
      return found.flatten
    | .deep => do
      let found ← (root.directoriesAt base).mapM fun parts => do
        return (← select root directories (base.children parts) rest).map (parts ++ ·)
      return found.flatten.eraseDups

/-- Lexicographic order, given the order of different items. -/
def precedes {α : Type} [DecidableEq α] (before : α → α → Bool) : List α → List α → Bool
  | [], _ => true
  | _ :: _, [] => false
  | a :: as, b :: bs => if a = b then precedes before as bs else before a b

/-- The order of paths: by their components, which are ordered by their characters. -/
def partsPrecede (a b : List Text) : Bool := precedes (precedes fun c d => c.toNat < d.toNat) a b

/-- What a glob pattern selects below a directory, in order. Below anything else it selects
nothing. -/
def Glob.select (glob : Glob) (root : Node) (base : FilePath) : Except Blockage (List (List Text)) :=
  if root.isDirectoryAt base then
    (File.select root glob.directories base glob.steps).map (·.mergeSort partsPrecede)
  else .ok []

end SpecAtlas.File
