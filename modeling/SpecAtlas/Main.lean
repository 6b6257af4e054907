import Std.Time.DateTime.Timestamp
import SpecAtlas.Config.BuiltinReader
import SpecAtlas.CommandLine.Help
import SpecAtlas.CommandLine.Surroundings

/-!
# The executable

The only module that touches the outside world. It reads what the request looks at into a session,
runs the program on it, and writes what the outcome says. Symbolic links are followed for single
files and left out of scans. A file that cannot be opened is there, but locked.
-/

namespace SpecAtlas.CommandLine

open File Text

/-- The place of a path in the file system. -/
def entryAt (path : FilePath) : IO.FS.DirEntry := ⟨"/", String.ofList (join ['/'] path.parts)⟩

/-- What stands at a place: a file with its bytes, or a directory, empty or with all that is below
it. -/
partial def readEntry (deep : Bool) (entry : IO.FS.DirEntry) : IO Node := do
  if ← entry.path.isDir then
    if deep then
      let below ← entry.path.readDir
      let nodes ← below.toList.filterMapM fun e => do
        let metadata ← e.path.symlinkMetadata
        if metadata.type == .symlink then return none
        return some (e.fileName.toList, ← readEntry true e)
      return .directory nodes
    else return .empty
  else
    match ← (IO.FS.readBinFile entry.path).toBaseIO with
    | .ok bytes => return .file bytes.toList
    | .error _ => return .locked

/-- A tree with what stands at a path; what cannot be read is left out. -/
def load (deep : Bool) (root : Node) (path : FilePath) : IO Node := do
  let path := FilePath.resolve ⟨['/'], []⟩ path
  if root.exists? path && !deep then return root
  if ← (entryAt path).path.pathExists then
    match ← (readEntry deep (entryAt path)).toBaseIO with
    | .ok node => return Node.put path.parts node root
    | .error _ => return root
  else return root

/-- A session with what stands at some paths and on the way to them. -/
def Session.loadFiles (s : Session) (paths : List FilePath) : IO Session := do
  let places := paths.flatMap fun path => (s.cwd ++ path).upward.reverse
  return { s with root := ← places.foldlM (load false) s.root }

/-- A session with everything that a request looks at. -/
def Session.loadFor (s : Session) (common : Common) (request : Request) : IO Session := do
  let places := request.surroundings common s
  let s ← s.loadFiles (places.trees ++ places.files)
  let s := { s with root := ← places.trees.foldlM (load true) s.root }
  match request.report? common s with
  | some path => s.loadFiles [path]
  | none => return s

/-- The variables of the environment. -/
def readEnvironment : IO (List (Text × Text)) := do
  match ← (IO.FS.readBinFile "/proc/self/environ").toBaseIO with
  | .ok bytes =>
    let entries := pieces (Char.ofNat 0) (Utf8.decodeLossy bytes.toList)
    return Mapping.ofList (entries.filterMap (cut? ['=']))
  | .error _ => return []

/-- Whether the request reads the standard input. -/
def Request.readsInput : Request → Bool
  | results r => r.console = ['-']
  | _ => false

/-- The session in which the program begins. -/
def beginSession : IO Session := do
  let time := (← Std.Time.Timestamp.now).toMillisecondsSinceUnixEpoch
  return ⟨.empty, .ofText (toString (← IO.currentDir)).toList, ← readEnvironment, [], time.val,
    Config.builtinReader⟩

end SpecAtlas.CommandLine

open SpecAtlas CommandLine

/-- Runs the program. -/
def main (arguments : List String) : IO UInt32 := do
  let arguments := arguments.map String.toList
  let s ← beginSession
  let s ← match Request.read arguments with
    | .ok (common, request) => do
      let s ← s.loadFor common request
      let input ← if request.readsInput then (← IO.getStdin).readToEnd else pure ""
      pure { s with input := input.toList }
    | .error _ => pure s
  match run helpText arguments s with
  | .ok o =>
    IO.eprint (String.ofList o.err)
    IO.print (String.ofList o.out)
    return o.exit.toUInt32
  | .error fault =>
    IO.eprintln (String.ofList fault.message)
    return 1
