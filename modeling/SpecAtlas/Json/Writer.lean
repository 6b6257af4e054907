import SpecAtlas.Value
import SpecAtlas.Numeral
import SpecAtlas.Text.Quoted
import SpecAtlas.Decimal.Notation

/-!
# Writing JSON

Every item and every entry stands on a line of its own, two spaces further in than what holds it;
an empty list or mapping takes no line. Texts are written in ASCII: other characters, and controls,
by their code, and those beyond U+FFFF as a surrogate pair.
-/

namespace SpecAtlas.Json

open Text

/-- The names of the special numbers. -/
def specialNames : Binary64.SpecialNames := ⟨"NaN".toList, "Infinity".toList⟩

/-- A code unit as an escape. -/
def unitEscape (n : Nat) : Text := '\\' :: 'u' :: hex 4 n

/-- A character inside a text. -/
def escapeChar (c : Char) : Text :=
  if c = '"' || c = '\\' then ['\\', c]
  else if c = '\n' then ['\\', 'n']
  else if c = '\r' then ['\\', 'r']
  else if c = '\t' then ['\\', 't']
  else if c.toNat = 8 then ['\\', 'b']
  else if c.toNat = 12 then ['\\', 'f']
  else if 0x20 ≤ c.toNat && c.toNat < 0x7F then [c]
  else if c.toNat < 0x10000 then unitEscape c.toNat
  else
    unitEscape (0xD800 + (c.toNat - 0x10000) / 0x400) ++ unitEscape (0xDC00 + (c.toNat - 0x10000) % 0x400)

/-- A text in quotes. -/
def writeText (text : Text) : Text := '"' :: text.flatMap escapeChar ++ ['"']

/-- The start of a line at a depth. -/
def newLine (depth : Nat) : Text := '\n' :: List.replicate (2 * depth) ' '

mutual

/-- A value at a depth. -/
def writeAt (depth : Nat) : Value → Text
  | .null => "null".toList
  | .bool b => if b then "true".toList else "false".toList
  | .int n => Numeral.ofInt n
  | .float x => x.write specialNames
  | .text t => writeText t
  | .moment m => writeText m.text
  | .list items =>
    if items.isEmpty then "[]".toList else '[' :: writeItems (depth + 1) items ++ newLine depth ++ [']']
  | .map entries =>
    if entries.isEmpty then "\x7b\x7d".toList
    else '{' :: writeEntries (depth + 1) entries ++ newLine depth ++ ['}']

/-- Items, each on a line of its own. -/
def writeItems (depth : Nat) : List Value → Text
  | [] => []
  | [v] => newLine depth ++ writeAt depth v
  | v :: w :: rest => newLine depth ++ writeAt depth v ++ ',' :: writeItems depth (w :: rest)

/-- Entries, each on a line of its own. -/
def writeEntries (depth : Nat) : List (Text × Value) → Text
  | [] => []
  | [(key, v)] => newLine depth ++ writeText key ++ ": ".toList ++ writeAt depth v
  | (key, v) :: e :: rest =>
    newLine depth ++ writeText key ++ ": ".toList ++ writeAt depth v ++ ',' :: writeEntries depth (e :: rest)

end

/-- A value as JSON. -/
def write (value : Value) : Text := writeAt 0 value

end SpecAtlas.Json
