import SpecAtlas.Value
import SpecAtlas.Numeral
import SpecAtlas.Text.Quoted
import SpecAtlas.Decimal.Notation

/-!
# Values in a log

A log line must not be ambiguous, so texts are quoted there, lists stand in square brackets and
mappings in braces.
-/

namespace SpecAtlas

mutual

/-- A value as a log shows it. -/
def Value.detail : Value → Text
  | .null => "None".toList
  | .bool b => if b then "True".toList else "False".toList
  | .int n => Numeral.ofInt n
  | .float x => x.toText
  | .text t => Text.quoted t
  | .moment m => m.detail
  | .list items => '[' :: detailItems items ++ [']']
  | .map entries => '{' :: detailEntries entries ++ ['}']

/-- Values with a comma between them. -/
def detailItems : List Value → Text
  | [] => []
  | [v] => v.detail
  | v :: w :: rest => v.detail ++ ", ".toList ++ detailItems (w :: rest)

/-- Entries with a comma between them. -/
def detailEntries : List (Text × Value) → Text
  | [] => []
  | [(key, v)] => Text.quoted key ++ ": ".toList ++ v.detail
  | (key, v) :: e :: rest =>
    Text.quoted key ++ ": ".toList ++ v.detail ++ ", ".toList ++ detailEntries (e :: rest)

end

mutual

/-- Whether a value holds a whole number that is too long to be written. -/
def Value.hasLongNumber : Value → Bool
  | .int n => Numeral.isTooLong n
  | .list items => itemsHaveLongNumber items
  | .map entries => entriesHaveLongNumber entries
  | _ => false

/-- Whether one of several values holds such a number. -/
def itemsHaveLongNumber : List Value → Bool
  | [] => false
  | v :: rest => v.hasLongNumber || itemsHaveLongNumber rest

/-- Whether one of several entries holds such a number. -/
def entriesHaveLongNumber : List (Text × Value) → Bool
  | [] => false
  | (_, v) :: rest => v.hasLongNumber || entriesHaveLongNumber rest

end

end SpecAtlas
