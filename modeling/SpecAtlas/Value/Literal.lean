import SpecAtlas.Value
import SpecAtlas.Value.Split
import SpecAtlas.Numeral
import SpecAtlas.Decimal.Reader

/-!
# Scalar literals and parameters

A scalar token is a whole number, a number with a point, `true`, `false`, `null`, or a text between
two equal quotes. Any other token stands for its own trimmed text.

A printed parameter is read by the same rules, but for `null`: there the word stays a text, since a
report prints the null value and the text alike.
-/

namespace SpecAtlas

namespace Literal

/-- Whether a token is a whole number: digits with an optional minus sign. -/
def isWhole (token : Text) : Bool :=
  match Numeral.takeSigned? token with
  | some (_, []) => true
  | _ => false

/-- Whether a token is a number with a point: digits on both sides of it and an optional minus sign
in front. -/
def isFixed (token : Text) : Bool :=
  match Numeral.takeSigned? token with
  | some (_, '.' :: fraction) =>
    match Numeral.takeDigits? fraction with
    | some (_, []) => true
    | _ => false
  | _ => false

/-- The text between the quotes of a token that begins and ends with the same quote. -/
def unquote? (token : Text) : Option Text :=
  match token with
  | q :: rest => if isQuote q && rest.getLast? = some q then some rest.dropLast else none
  | [] => none

/-- The value of a trimmed token. -/
def ofTrimmed (token : Text) : Except LongNumeral Value :=
  if isWhole token then (Numeral.readInt token).map .int
  else if isFixed token then .ok (.float (Decimal.readFixed token))
  else if token = "true".toList then .ok (.bool true)
  else if token = "false".toList then .ok (.bool false)
  else if token = "null".toList then .ok .null
  else .ok (.text ((unquote? token).getD token))

end Literal

/-- The value that a literal token stands for. -/
def coerce (token : Text) : Except LongNumeral Value := Literal.ofTrimmed (Text.trim token)

/-- The value that a printed parameter stands for: `null` stays a text. -/
def coerceParameter (token : Text) : Except LongNumeral Value :=
  if Text.trim token = "null".toList then .ok (.text "null".toList) else coerce token

namespace Parameters

/-- The key of a `key: value` piece and the text behind the colon. A piece without a colon, or with
nothing in front of it, is no parameter. -/
def entry? (piece : Text) : Option (Text × Text) :=
  match (Text.trim piece).span (· != ':') with
  | ([], _) => none
  | (_, []) => none
  | (key, _ :: value) => some (Text.trim key, value)

/-- The parameters of a list such as `a: 1, b: "x"`, in order. A repeated key keeps its first place
and takes its last value. -/
def read (text : Text) : Except LongNumeral (Mapping Value) := do
  let entries ← ((splitCommas text).filterMap entry?).mapM fun (key, token) => do
    return (key, ← coerceParameter token)
  return Mapping.ofList entries

end Parameters

end SpecAtlas
