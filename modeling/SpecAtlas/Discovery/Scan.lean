import SpecAtlas.Document
import SpecAtlas.Discovery.Candidates

/-!
# Scanning source files

Every source file is read for itself: a file that cannot be opened is reported and costs no other
file. A scan counts all files that were read, and lists those that declare a specification. A file
whose data are refused ends the scan.
-/

namespace SpecAtlas.Discovery

open File Source Text

/-- A source file with its specifications. -/
structure SourceFile where
  path : FilePath
  specifications : List Specification

/-- The features of a file that can be run. -/
def SourceFile.featureCount (f : SourceFile) : Nat := Source.featureCount f.specifications

/-- A source file as a document. -/
def SourceFile.document (f : SourceFile) : Value :=
  SpecAtlas.document
    [("path", .text f.path.text), ("classes", .list (f.specifications.map Specification.document))]

/-- What became of a source file: it was read, with some events, or there was an obstacle. -/
inductive Scanned where
  | read (file : SourceFile) (events : List Event)
  | unreadable (path : FilePath) (obstacle : Obstacle)

/-- A refusal of a file's data, as a fault. -/
def refusalFault : Refusal → Fault
  | .longNumeral e => .longNumeral e
  | .longRange size => .longRange size

/-- Reads the source file at a path, seen from the directory `cwd`. An obstacle is caught, and nothing
else. -/
def scanFile (root : Node) (cwd : FilePath) (withData : Bool) (path : FilePath) : Except Fault Scanned :=
  match root.readLossy cwd path with
  | .error (.obstacle o) => .ok (.unreadable path o)
  | .error .nullCharacter => .error .nullCharacter
  | .ok content => do
    let (specifications, events) ← (readSpecifications withData content).mapError refusalFault
    return .read ⟨path, specifications⟩ events

namespace Scanned

/-- The file, if it was read. -/
def file? : Scanned → Option SourceFile
  | read file _ => some file
  | unreadable .. => none

/-- The message for a file that was not read. -/
def error? : Scanned → Option Text
  | read .. => none
  | unreadable path obstacle => some (path.text ++ ": ".toList ++ obstacle.message path)

/-- The events of reading a file. -/
def events : Scanned → List Event
  | read _ events => events
  | unreadable .. => []

/-- The events of a file in the scan of a workspace, which reports every file. -/
def eventsInWorkspace : Scanned → List Event
  | read file events => events ++ [.fileScanned file.path.text file.specifications.length]
  | unreadable path obstacle => [.fileUnreadable path.text (obstacle.message path)]

end Scanned

/-- A finished scan, file by file. -/
abbrev Scan := List Scanned

namespace Scan

/-- The files that declare a specification. -/
def files (s : Scan) : List SourceFile := (s.filterMap Scanned.file?).filter (!·.specifications.isEmpty)

/-- The number of files that were read. -/
def filesScanned (s : Scan) : Nat := (s.filterMap Scanned.file?).length

/-- The messages for the files that were not read. -/
def errors (s : Scan) : List Text := s.filterMap Scanned.error?

/-- The number of features that can be run. -/
def featureCount (s : Scan) : Nat := Source.featureCount (s.files.flatMap SourceFile.specifications)

end Scan

/-- Scans files in the given order. -/
def scanFiles (root : Node) (cwd : FilePath) (withData : Bool) (paths : List FilePath) : Except Fault Scan :=
  paths.mapM (scanFile root cwd withData)

end SpecAtlas.Discovery
