import SpecAtlas.Value
import SpecAtlas.Numeral
import SpecAtlas.Text.Word
import SpecAtlas.Decimal.Notation

/-!
# Printing values, and display names

`Value.print` writes a value the way a test report shows it: texts without quotes, lists and
mappings in square brackets.

`displayName` names one iteration of a feature. If the feature's name has placeholders such as
`#a`, every placeholder that names a data variable gives way to the variable's value, all at once:
what a value brings in is not looked at again. A name without placeholders gets the list of all
variables behind it.
-/

namespace SpecAtlas

mutual

/-- A value as a report shows it. -/
def Value.print : Value → Text
  | .null => "null".toList
  | .bool b => if b then "true".toList else "false".toList
  | .int n => Numeral.ofInt n
  | .float x => x.toText
  | .text t => t
  | .moment m => m.text
  | .list items => '[' :: printItems items ++ [']']
  | .map entries => '[' :: printEntries entries ++ [']']

/-- Values with a comma between them. -/
def printItems : List Value → Text
  | [] => []
  | [v] => v.print
  | v :: w :: rest => v.print ++ ", ".toList ++ printItems (w :: rest)

/-- Entries `key: value` with a comma between them. -/
def printEntries : List (Text × Value) → Text
  | [] => []
  | [(key, v)] => key ++ ": ".toList ++ v.print
  | (key, v) :: e :: rest => key ++ ": ".toList ++ v.print ++ ", ".toList ++ printEntries (e :: rest)

end

/-! ## Display names -/

namespace DisplayName

/-- Whether a text begins with a placeholder: a hash sign before a letter or an underscore. -/
def atPlaceholder : Text → Bool
  | '#' :: c :: _ => Text.isIdentStart c
  | _ => false

/-- Whether a name has a placeholder. -/
def hasPlaceholder : Text → Bool
  | [] => false
  | c :: text => atPlaceholder (c :: text) || hasPlaceholder text

/-- What stands for a placeholder: the value of the variable, or the placeholder itself if there is
no such variable. -/
def replacement (values : Mapping Value) (key : Text) : Text :=
  match Mapping.get? values key with
  | some v => v.print
  | none => '#' :: key

/-- A name with its placeholders replaced. -/
def fill (values : Mapping Value) (name : Text) : Text :=
  match name with
  | [] => []
  | c :: text =>
    if atPlaceholder (c :: text) then
      replacement values (text.takeWhile Text.isWord) ++ fill values (text.dropWhile Text.isWord)
    else c :: fill values text
termination_by name.length
decreasing_by
  · have := (List.dropWhile_sublist Text.isWord (l := text)).length_le
    simp; omega
  · simp

end DisplayName

/-- The display name of the iteration of a feature with the given data. -/
def displayName (name : Text) (values : Mapping Value) : Text :=
  if DisplayName.hasPlaceholder name then DisplayName.fill values name
  else name ++ " [".toList ++ printEntries values ++ [']']

end SpecAtlas
