import SpecAtlas.Value

/-!
# Kinds of values

The name of what a value is, for messages, and the values that count as nothing: null, false, zero,
and what has no characters, items or entries.
-/

namespace SpecAtlas

/-- The kind of a value. -/
def Value.kind : Value → Text
  | .null => "NoneType".toList
  | .bool _ => "bool".toList
  | .int _ => "int".toList
  | .float _ => "float".toList
  | .text _ => "str".toList
  | .moment (.date _) => "datetime.date".toList
  | .moment (.time _) => "datetime.time".toList
  | .moment (.dateTime ..) => "datetime.datetime".toList
  | .list _ => "list".toList
  | .map _ => "dict".toList

/-- Whether a value counts as nothing. -/
def Value.isNothing : Value → Bool
  | .null => true
  | .bool b => !b
  | .int n => n == 0
  | .float x => x.isZero
  | .text t => t.isEmpty
  | .moment _ => false
  | .list items => items.isEmpty
  | .map entries => entries.isEmpty

end SpecAtlas
