import SpecAtlas.Value
import SpecAtlas.Config.Toml.Flaw
import SpecAtlas.Numeral.Radix

/-!
# Numbers of a configuration file

A number stands alone between blanks and separators. Its digits may be grouped by single underscores.
It has no leading zeros and no point without digits on both sides; only base ten allows a sign. A
whole number that has too many digits to be read counts as one with a point.
-/

namespace SpecAtlas.Toml

open Text

/-- A number without the underscores between two of its digits. -/
def ungroup (isDigit : Char → Bool) : Text → Text
  | a :: '_' :: b :: rest =>
    if isDigit a && isDigit b then a :: ungroup isDigit (b :: rest) else a :: '_' :: ungroup isDigit (b :: rest)
  | c :: rest => c :: ungroup isDigit rest
  | [] => []

/-- Whether a character is an ASCII digit below `base`. -/
def isDigitBelow (base : Nat) (c : Char) : Bool := (Json.hexDigit? c).any (· < base)

/-- The sign at the front of a number, and what follows it. -/
def splitSign : Text → Text × Text
  | '+' :: rest => (['+'], rest)
  | '-' :: rest => (['-'], rest)
  | rest => ([], rest)

/-- The base that a number has by its mark, unless it is ten. -/
def radixOf? (body : Text) : Option Numeral.Radix :=
  let start := body.take 2
  if start = "0b".toList then some .two
  else if start = "0o".toList then some .eight
  else if start = "0x".toList then some .sixteen
  else none

/-- Whether a number in base ten has a zero in front of further digits. -/
def isZeroLed (body : Text) : Bool :=
  1 < body.length && body.head? == some '0' && body.take 2 != "0.".toList && body.take 2 != "0e".toList

/-- A number in base ten: a whole one if it has the form and a length that is read, else one with a
point. -/
def ofTen? (text : Text) : Option Value :=
  match Decimal.readCount? text with
  | some (.ok n) => some (.int n)
  | _ => (Decimal.readFloat? text).map .float

/-- Reads a number that stands alone. -/
def readNumber? (raw : Text) : Option Value :=
  let (sign, body) := splitSign raw
  let radix := radixOf? body
  let isRefused :=
    match radix with
    | some _ => !sign.isEmpty
    | none => isZeroLed body || (!sign.isEmpty && 1 < body.length && body.head? == some '.')
  if isRefused then none
  else
    let clean := (ungroup (isDigitBelow ((radix.map Numeral.Radix.base).getD 10)) body).map Char.toLower
    if clean.elem '_' || (clean.takeWhile (· != 'e')).getLast? = some '.' then none
    else
      match radix with
      | some r => (r.read? clean).map .int
      | none => ofTen? (sign ++ clean)

end SpecAtlas.Toml
