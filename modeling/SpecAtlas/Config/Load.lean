import SpecAtlas.Config.Environment
import SpecAtlas.Config.TableReader
import SpecAtlas.Fault

/-!
# The effective configuration

The defaults, over them the configuration file, over that the environment. The file is the one that
is asked for, or else the nearest one at or above the starting directory; without a file, defaults
and environment remain.
-/

namespace SpecAtlas.Config

open File Text

/-! ## Loading -/

/-- The name of configuration files. -/
def fileName : Text := ".spockscan.toml".toList

/-- A list of texts as a value. -/
def texts (items : List String) : Value := .list (items.map fun t => .text t.toList)

/-- The configuration that holds where nothing else is said. -/
def defaults : Settings :=
  [("discovery".toList, .map
      [("test_dirs".toList, texts ["src/test/groovy"]),
        ("patterns".toList, texts ["**/*Spec.groovy", "**/*Test.groovy"]),
        ("ignore".toList, texts ["bin", "build", "target", ".gradle"])]),
    ("results".toList, .map
      [("build_tool".toList, .text "auto".toList), ("report_dir".toList, .text [])])]

/-- The configuration file nearest to a directory, which is an absolute path in normal form. -/
def findFile? (root : Node) (directory : FilePath) : Except Blockage (Option FilePath) :=
  (directory.upward.map (·.child fileName)).findM? (root.ask Node.isFile)

/-- A refusal of a text, as a fault. -/
def Unparsed.fault : Unparsed → Fault
  | invalid message => .config (.invalid message)
  | failed message => .unreadTables message

/-- The tables of a configuration file. -/
def readTables (reader : TableReader) (content : Text) : Except Fault Settings :=
  (reader content).mapError Unparsed.fault

/-- The configuration that the text of a file gives, without the environment. -/
def ofText (reader : TableReader) (content : Text) : Except Fault Settings :=
  (readTables reader content).map (merge defaults)

/-- The configuration with what the environment sets. -/
def withEnvironment (environment : List (Text × Text)) (settings : Settings) : Except Fault Settings :=
  (applyEnvironment settings environment).mapError .longNumeral

/-- Loads a configuration file, whose path is seen from the directory `cwd`. -/
def loadFile (reader : TableReader) (root : Node) (cwd : FilePath) (environment : List (Text × Text))
    (path : FilePath) : Except Fault Settings := do
  let bytes ← (root.readFrom cwd path).mapError (Unread.fault fun o => .config (.unreadable path o))
  let content ← (Utf8.decode bytes).mapError .encoding
  withEnvironment environment (← ofText reader (unifyLines content))

/-- The configuration file that counts: the given one, or else the one found from the directory `start`. -/
def chosenFile? (root : Node) (cwd : FilePath) (file : Option FilePath) (start : FilePath) :
    Except Fault (Option FilePath) :=
  match file with
  | some path => .ok (some path)
  | none => (findFile? root (FilePath.resolve cwd start)).mapError .blocked

/-- Loads the configuration: from a given file, or from the one found from the directory `start`. -/
def load (reader : TableReader) (root : Node) (cwd : FilePath) (environment : List (Text × Text))
    (file : Option FilePath) (start : FilePath) : Except Fault Settings := do
  match ← chosenFile? root cwd file start with
  | some path => loadFile reader root cwd environment path
  | none => withEnvironment environment defaults

end SpecAtlas.Config
