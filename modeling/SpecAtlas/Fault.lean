import SpecAtlas.File.Glob
import SpecAtlas.Misfit
import SpecAtlas.Numeral
import SpecAtlas.Text.Utf8

/-!
# Faults

What ends a command without a result. A problem of the configuration is a message to the user; every
other fault says that an input is beyond what the library reads: a number, a range, a pattern, a path,
bytes, a setting of the wrong form, or what the reader of configuration files refuses for itself.
-/

namespace SpecAtlas

open File

/-- What is wrong with the configuration. -/
inductive ConfigProblem where
  | unreadable (path : FilePath) (obstacle : Obstacle)
  /-- The file is no valid TOML; the message is that of the reader. -/
  | invalid (message : Text)
  | unknownTool (name : Text)
  deriving DecidableEq, Repr

/-- The message for a problem. -/
def ConfigProblem.message : ConfigProblem → Text
  | unreadable path obstacle => "Cannot read ".toList ++ path.text ++ ": ".toList ++ obstacle.message path
  | invalid message => "Invalid TOML: ".toList ++ message
  | unknownTool name =>
    "Unknown build tool '".toList ++ name ++ "' (expected one of: auto, gradle, maven)".toList

/-- The reason why bytes are no UTF-8. -/
def Text.Utf8.Flaw.reason : Text.Utf8.Flaw → Text
  | .start => "invalid start byte".toList
  | .continuation => "invalid continuation byte".toList
  | .truncated => "unexpected end of data".toList

/-- The message for bytes that are no UTF-8: a single byte by its value, several by their places. -/
def Text.Utf8.Invalid.message (e : Text.Utf8.Invalid) : Text :=
  let place :=
    if e.size = 1 then
      "byte 0x".toList ++ Text.hex 2 e.byte.toNat ++ " in position ".toList ++ Numeral.ofNat e.position
    else
      "bytes in position ".toList ++ Numeral.ofNat e.position ++ '-' :: Numeral.ofNat (e.position + e.size - 1)
  "'utf-8' codec can't decode ".toList ++ place ++ ": ".toList ++ e.flaw.reason

/-- The message for a range that is too long. -/
def longRangeMessage (size : Nat) : Text :=
  "a range of ".toList ++ Numeral.ofNat size ++ " elements does not fit into a list".toList

/-- What ends a command without a result. -/
inductive Fault where
  | config (problem : ConfigProblem)
  | longNumeral (e : LongNumeral)
  /-- A range has more elements than a list can have. -/
  | longRange (size : Nat)
  | pattern (problem : GlobProblem)
  | encoding (e : Text.Utf8.Invalid)
  | misfit (m : Misfit)
  /-- A whole number is too long to be written. -/
  | longNumber
  /-- Nothing can be asked about a path. -/
  | blocked (b : Blockage)
  /-- A path holds the character that ends a path for the system. -/
  | nullCharacter
  /-- A refusal of the reader of configuration files that is not that of its text. -/
  | unreadTables (message : Text)
  deriving DecidableEq, Repr

/-- The message for a fault. -/
def Fault.message : Fault → Text
  | config problem => problem.message
  | longNumeral e => e.message
  | longRange size => longRangeMessage size
  | pattern problem => problem.message
  | encoding e => e.message
  | misfit m => m.message
  | longNumber => Numeral.tooLongMessage
  | blocked b => b.message
  | nullCharacter => "embedded null byte".toList
  | unreadTables message => message

/-- The absolute path in normal form, seen from the directory `cwd`. -/
def File.FilePath.resolved (cwd p : FilePath) : Except Fault FilePath :=
  if p.hasNull then .error .nullCharacter else .ok (FilePath.resolve cwd p)

/-- What keeps a file from being read, as a fault, where the obstacle itself is one. -/
def File.Unread.fault (fault : Obstacle → Fault) : Unread → Fault
  | obstacle o => fault o
  | nullCharacter => .nullCharacter

end SpecAtlas
