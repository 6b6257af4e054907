import SpecAtlas.Text.Basic
import SpecAtlas.Text.Case

/-!
# Paths

A path is a root, which may be missing, and the components between the slashes. Empty components
and the component `.` say nothing and are dropped; `..` is kept, since what it means depends on the
directory before it. Exactly two slashes at the front are a root of their own.
-/

namespace SpecAtlas.File

open Text

/-- A path. -/
structure FilePath where
  /-- `/`, `//`, or nothing for a relative path. -/
  root : Text
  parts : List Text
  deriving DecidableEq, Repr

namespace FilePath

/-- The root at the front of a text. -/
def rootOf (text : Text) : Text :=
  match text with
  | '/' :: '/' :: c :: _ => if c = '/' then ['/'] else ['/', '/']
  | ['/', '/'] => ['/', '/']
  | '/' :: _ => ['/']
  | _ => []

/-- The path that a text writes. -/
def ofText (text : Text) : FilePath :=
  ⟨rootOf text, (pieces '/' text).filter fun part => part ≠ [] && part ≠ ['.']⟩

/-- A path as text; the empty one is the current directory. -/
def text (p : FilePath) : Text :=
  if p.root.isEmpty && p.parts.isEmpty then ['.'] else p.root ++ join ['/'] p.parts

/-- Whether a path has a root. -/
def isAbsolute (p : FilePath) : Bool := !p.root.isEmpty

/-- A path from the directory that another one names; an absolute one begins anew. -/
def append (p q : FilePath) : FilePath := if q.isAbsolute then q else ⟨p.root, p.parts ++ q.parts⟩

instance : Append FilePath := ⟨append⟩

/-- A path with further components behind it. -/
def children (p : FilePath) (parts : List Text) : FilePath := ⟨p.root, p.parts ++ parts⟩

/-- A path with one more component behind it. -/
def child (p : FilePath) (part : Text) : FilePath := p.children [part]

/-- The last component; a bare root has none. -/
def name (p : FilePath) : Text := p.parts.getLast?.getD []

/-- The ending of a name: from its last point on. A point at either end of the name begins no
ending. -/
def ending (p : FilePath) : Text :=
  match p.name.reverse.span (· != '.') with
  | ([], _) => []
  | (_, []) => []
  | (_, [_]) => []
  | (behind, _ :: _) => '.' :: behind.reverse

/-- The beginnings of a list, the shortest first. -/
def beginnings : List Text → List (List Text)
  | [] => [[]]
  | part :: rest => [] :: (beginnings rest).map (part :: ·)

/-- A path in normal form and the directories above it, the nearest first. -/
def upward (p : FilePath) : List FilePath := (beginnings p.parts).reverse.map (⟨p.root, ·⟩)

/-- Components without `..`: each of them takes back the component before it. -/
def normalize (parts : List Text) : List Text :=
  (parts.foldl (fun kept part => if part = ['.', '.'] then kept.drop 1 else part :: kept) []).reverse

/-- The absolute path in normal form, seen from the directory `cwd`. -/
def resolve (cwd p : FilePath) : FilePath := ⟨['/'], normalize (cwd ++ p).parts⟩

/-- The components of a path below a directory, if it lies there. -/
def below? (base p : FilePath) : Option (List Text) :=
  if p.root = base.root then go base.parts p.parts else none
where
  /-- What follows a list at the front of another one. -/
  go : List Text → List Text → Option (List Text)
    | [], rest => some rest
    | _ :: _, [] => none
    | a :: as, b :: bs => if a = b then go as bs else none

/-- Whether a path has the form of a report's path: its name begins with `TEST-` and its ending is
`.xml` in any case. -/
def isReport (p : FilePath) : Bool :=
  lower p.ending == ".xml".toList && startsWith "TEST-".toList p.name

end FilePath

end SpecAtlas.File
