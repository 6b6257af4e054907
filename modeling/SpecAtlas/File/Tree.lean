import SpecAtlas.File.Path
import SpecAtlas.Mapping
import SpecAtlas.Text.Utf8
import SpecAtlas.Text.Quoted

/-!
# Directory trees

The files that a program of this library works on are a tree of directories, as a value. There are
no links in it. Every directory can be listed; a file may be locked, which only shows when it is read.

A path is followed from the root component by component; every component but the last must name a
directory, also in front of `..`.

A program does two things with a path. It asks what is there, and where nothing is there this is the
answer; only a path that the system does not take has none. Or it reads, and then everything that is no
file that can be opened is an obstacle.
-/

namespace SpecAtlas.File

open Text

/-- A file with its bytes, a file that may not be opened, or a directory with its entries. -/
inductive Node where
  | file (bytes : List UInt8)
  | locked
  | directory (entries : List (Text × Node))
  deriving Inhabited

/-- Why a path leads to nothing that can be read. -/
inductive Obstacle where
  | missing
  | permission
  | notDirectory
  | isDirectory
  | nameTooLong
  deriving DecidableEq, Repr

/-- The number and the wording of an obstacle. -/
def Obstacle.wording : Obstacle → Text
  | missing => "[Errno 2] No such file or directory".toList
  | permission => "[Errno 13] Permission denied".toList
  | notDirectory => "[Errno 20] Not a directory".toList
  | isDirectory => "[Errno 21] Is a directory".toList
  | nameTooLong => "[Errno 36] File name too long".toList

/-- The message for an obstacle on the way to a path. -/
def Obstacle.message (o : Obstacle) (path : FilePath) : Text :=
  o.wording ++ ": ".toList ++ quoted path.text

/-- Whether an obstacle only says that nothing is there. -/
def Obstacle.isAbsence : Obstacle → Bool
  | missing => true
  | notDirectory => true
  | _ => false

/-- A path about which nothing can be asked, with the obstacle on the way to it. -/
structure Blockage where
  path : FilePath
  obstacle : Obstacle
  deriving DecidableEq, Repr

/-- The message for a path about which nothing can be asked. -/
def Blockage.message (b : Blockage) : Text := b.obstacle.message b.path

/-- Why a file is not read. -/
inductive Unread where
  | obstacle (o : Obstacle)
  /-- The path holds the character that ends a path for the system. -/
  | nullCharacter
  deriving DecidableEq, Repr

/-! ## What the system takes -/

/-- The character that ends a path for the system. -/
def nullCharacter : Char := Char.ofNat 0

/-- Whether a path holds the character that ends a path for the system. -/
def FilePath.hasNull (p : FilePath) : Bool := p.text.elem nullCharacter

/-- Whether a path takes up more bytes than the system takes. -/
def FilePath.isTooLong (p : FilePath) : Bool := 4095 < (Utf8.encode p.text).length

/-- Whether a name takes up more bytes than an entry of a directory may have. -/
def isTooLongName (name : Text) : Bool := 255 < (Utf8.encode name).length

namespace Node

/-- The entries of a directory; a file has none. -/
def entries : Node → List (Text × Node)
  | file _ => []
  | locked => []
  | directory entries => entries

/-- Whether a node is a directory. -/
def isDirectory : Node → Bool
  | file _ => false
  | locked => false
  | directory _ => true

/-- Whether a node is a file. -/
def isFile (node : Node) : Bool := !node.isDirectory

/-- The empty directory. -/
def empty : Node := directory []

/-- Why a directory has no entry of a name. -/
def absence (part : Text) : Obstacle := if isTooLongName part then .nameTooLong else .missing

/-- Follows components from a node; `above` are the directories that contain it, innermost first. -/
def follow (above : List Node) (node : Node) : List Text → Except Obstacle Node
  | [] => .ok node
  | part :: rest =>
    match node with
    | file _ => .error .notDirectory
    | locked => .error .notDirectory
    | directory entries =>
      if part = ['.', '.'] then
        match above with
        | [] => follow [] node rest
        | outer :: above => follow above outer rest
      else
        match Mapping.get? entries part with
        | some child => follow (node :: above) child rest
        | none => .error (absence part)

/-- What an absolute path names below the root. -/
def find (root : Node) (path : FilePath) : Except Obstacle Node := follow [] root path.parts

/-- What an absolute path names, if anything. -/
def find? (root : Node) (path : FilePath) : Option Node := (root.find path).toOption

/-- Whether a path names anything. -/
def exists? (root : Node) (path : FilePath) : Bool := (root.find? path).isSome

/-- Whether a path names a file. -/
def isFileAt (root : Node) (path : FilePath) : Bool := (root.find? path).any isFile

/-- Whether a path names a directory. -/
def isDirectoryAt (root : Node) (path : FilePath) : Bool := (root.find? path).any isDirectory

/-! ## Asking and reading -/

/-- Asks whether an absolute path names something of which `test` holds. -/
def ask (root : Node) (test : Node → Bool) (path : FilePath) : Except Blockage Bool :=
  if path.hasNull then .ok false
  else if path.isTooLong then .error ⟨path, .nameTooLong⟩
  else
    match root.find path with
    | .ok node => .ok (test node)
    | .error o => if o.isAbsence then .ok false else .error ⟨path, o⟩

/-- The bytes of the file at an absolute path that the system takes. -/
def read (root : Node) (path : FilePath) : Except Obstacle (List UInt8) :=
  match root.find path with
  | .ok (file bytes) => .ok bytes
  | .ok locked => .error .permission
  | .ok (directory _) => .error .isDirectory
  | .error o => .error o

/-- The bytes of the file at a path, seen from the directory `cwd`. -/
def readFrom (root : Node) (cwd path : FilePath) : Except Unread (List UInt8) :=
  if path.hasNull then .error .nullCharacter
  else if path.isTooLong then .error (.obstacle .nameTooLong)
  else (root.read (cwd ++ path)).mapError .obstacle

/-- Bytes as text, with unified line ends and the replacement character for what is no UTF-8. -/
def lossyText (bytes : List UInt8) : Text := unifyLines (Utf8.decodeLossy bytes)

/-- The text of the file at a path, seen from the directory `cwd`. -/
def readLossy (root : Node) (cwd path : FilePath) : Except Unread Text := (root.readFrom cwd path).map lossyText

/-! ## Changing a tree -/

/-- The tree with `node` at some components below it. Directories on the way are made. -/
def put (parts : List Text) (node : Node) (tree : Node) : Node :=
  match parts with
  | [] => node
  | part :: rest =>
    let entries := tree.entries
    directory (Mapping.put entries part (put rest node ((Mapping.get? entries part).getD empty)))

/-- The tree without what is at some components below it. -/
def remove (parts : List Text) (tree : Node) : Node :=
  match parts with
  | [] => empty
  | [part] => directory (tree.entries.filter (·.1 ≠ part))
  | part :: rest =>
    match Mapping.get? tree.entries part with
    | some child => directory (Mapping.put tree.entries part (remove rest child))
    | none => tree

end Node

end SpecAtlas.File
