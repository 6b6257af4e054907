import SpecAtlas.Config.TableReader
import SpecAtlas.Config.Toml.File

/-!
# The reader of this library

The reader of configuration files that comes with this library. Tables that contradict each other make it
fail, and everything else that is wrong with a text makes the text no TOML.
-/

namespace SpecAtlas

open Config

/-- A flaw as a refusal of the text. -/
def Toml.Flaw.refusal : Toml.Flaw → Unparsed
  | unexpected _ => .invalid "Unexpected character".toList
  | malformed => .invalid "Malformed text".toList
  | repeated key => .failed ("Key \"".toList ++ key ++ "\" already exists.".toList)
  | reopened => .failed "Redefinition of an existing table".toList

/-- The reader of this library. -/
def Config.builtinReader : TableReader := fun text => (Toml.read text).mapError Toml.Flaw.refusal

end SpecAtlas
