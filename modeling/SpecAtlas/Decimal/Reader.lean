import SpecAtlas.Text.Basic
import SpecAtlas.Text.Word
import SpecAtlas.Numeral
import SpecAtlas.Decimal.Binary64

/-!
# Reading numbers

Three grammars share one ending, the rounding of a decimal to the nearest binary number.

* `readFixed`: digits, a point, digits, with an optional minus sign.
* `readFloat?`: what a number may look like in a report. White space around it is dropped; a sign,
  a point at either end of the digits, an exponent, single underscores between digits, and the
  names `inf`, `infinity` and `nan` in any case are all allowed. Digits may be of any script.
* `readCount?`: the same liberties for whole numbers.
-/

namespace SpecAtlas.Decimal

open Text

/-- The number that the digits before and after a point write, with a further power of ten. -/
def ofParts (negative : Bool) (whole fraction : Text) (exponent : Int) : Binary64 :=
  .ofDecimal negative (Numeral.value (whole ++ fraction)) (exponent - fraction.length)

/-- The number of the form `-12.34`: an optional minus sign, digits, a point and digits. -/
def readFixed (token : Text) : Binary64 :=
  let (negative, body) :=
    match token with
    | '-' :: rest => (true, rest)
    | rest => (false, rest)
  let (whole, rest) := body.span (· != '.')
  ofParts negative whole (rest.drop 1) 0

/-- Whether a character may stand around a number: the information separators may not. -/
def isPadding (c : Char) : Bool := isBlank c && !(0x1C ≤ c.toNat && c.toNat ≤ 0x1F)

/-- A text without the padding around it. -/
def unpad (text : Text) : Text := dropRight isPadding (text.dropWhile isPadding)

/-- An optional sign: whether it is a minus, and what follows. -/
def takeSign : Text → Bool × Text
  | '-' :: rest => (true, rest)
  | '+' :: rest => (false, rest)
  | rest => (false, rest)

/-- A possibly empty run of digits, in which a single underscore may stand between two digits. The
run ends before an underscore that has no digit behind it; `joined` says that a digit stands just
before the text. -/
def takeGrouped (joined : Bool) : Text → Text × Text
  | [] => ([], [])
  | '_' :: c :: rest =>
    if joined && isDigit c then
      let (digits, rest) := takeGrouped true rest
      (c :: digits, rest)
    else ([], '_' :: c :: rest)
  | c :: rest =>
    if isDigit c then
      let (digits, rest) := takeGrouped true rest
      (c :: digits, rest)
    else ([], c :: rest)

/-- The exponent at the end of a number; without one it is zero. -/
def readExponent? (text : Text) : Option Int :=
  match text with
  | [] => some 0
  | e :: rest =>
    if e = 'e' || e = 'E' then
      let (negative, rest) := takeSign rest
      match takeGrouped false rest with
      | ([], _) => none
      | (digits, []) =>
        let n := (Numeral.value digits : Int)
        some (if negative then -n else n)
      | _ => none
    else none

/-- An unsigned number with point and exponent. -/
def readUnsigned? (negative : Bool) (text : Text) : Option Binary64 :=
  let (whole, rest) := takeGrouped false text
  let (fraction, rest) :=
    match rest with
    | '.' :: rest => takeGrouped false rest
    | _ => ([], rest)
  if whole.isEmpty && fraction.isEmpty then none
  else (readExponent? rest).map (ofParts negative whole fraction)

/-- A number in the liberal grammar. -/
def readFloat? (text : Text) : Option Binary64 :=
  let (negative, body) := takeSign (unpad text)
  let name := body.map Char.toLower
  if name = "inf".toList || name = "infinity".toList then some (.infinite negative)
  else if name = "nan".toList then some .nan
  else readUnsigned? negative body

/-- A whole number in the liberal grammar: `none` if the text is none. -/
def readCount? (text : Text) : Option (Except LongNumeral Int) :=
  let (negative, body) := takeSign (unpad text)
  match takeGrouped false body with
  | ([], _) => none
  | (digits, []) => some ((Numeral.readNat digits).map fun n => if negative then -n else n)
  | _ => none

end SpecAtlas.Decimal
