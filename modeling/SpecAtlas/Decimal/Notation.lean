import SpecAtlas.Text.Basic
import SpecAtlas.Numeral
import SpecAtlas.Decimal.Shortest

/-!
# How binary numbers are written

A number is written with the fewest digits that read back, positionally while the exponent of its
first digit is at least -4 and below 16, otherwise with a signed exponent of two digits or more. A
whole number keeps one zero behind the point, and zero keeps its sign.

Durations for people have three places behind the point, rounded from the exact value; a tie goes
to the even neighbour.
-/

namespace SpecAtlas.Binary64

/-- The names of the values that are not numbers of the line. -/
structure SpecialNames where
  nan : Text
  infinity : Text

/-- The names in texts for people. -/
def plainNames : SpecialNames := ⟨"nan".toList, "inf".toList⟩

/-- The sign in front of a number. -/
def sign (negative : Bool) : Text := if negative then ['-'] else []

/-- Digits without the zeros at their end, and how many of those there were. -/
def dropZeros (digits : Text) : Text := Text.dropRight (· == '0') digits

/-- The exponent part: a mark, a sign and at least two digits. -/
def exponentPart (e : Int) : Text :=
  let digits := Numeral.ofNat e.natAbs
  'e' :: (if e < 0 then '-' else '+') :: (if digits.length < 2 then '0' :: digits else digits)

/-- The layout of the digits `d₁d₂…dₙ` of the number `0.d₁d₂…dₙ * 10 ^ point`. -/
def layout (digits : Text) (point : Int) : Text :=
  if point ≤ -4 || 16 < point then
    match digits with
    | [] => []
    | [d] => d :: exponentPart (point - 1)
    | d :: rest => d :: '.' :: rest ++ exponentPart (point - 1)
  else if point ≤ 0 then
    "0.".toList ++ List.replicate (-point).toNat '0' ++ digits
  else
    let whole := digits.take point.toNat
    let fraction := digits.drop point.toNat
    whole ++ List.replicate (point.toNat - digits.length) '0' ++ '.' ::
      (if fraction.isEmpty then ['0'] else fraction)

/-- A number with the fewest digits, under the given names for the special values. -/
def write (names : SpecialNames) : Binary64 → Text
  | nan => names.nan
  | infinite negative => sign negative ++ names.infinity
  | finite negative 0 _ => sign negative ++ "0.0".toList
  | finite negative significand exponent =>
    let d := Decimal.shortest ⟨significand, exponent⟩
    let digits := Numeral.ofNat d.digits
    sign negative ++ layout (dropZeros digits) (digits.length + d.scale)

/-- A number as text. -/
def toText (x : Binary64) : Text := x.write plainNames

/-- A number with three places behind the point. -/
def toThousandths : Binary64 → Text
  | nan => plainNames.nan
  | infinite negative => sign negative ++ plainNames.infinity
  | finite negative significand exponent =>
    let digits := Numeral.ofNat (roundDiv (significand * pow2 exponent * 1000) (pow2 1074))
    let padded := List.replicate (4 - digits.length) '0' ++ digits
    sign negative ++ padded.take (padded.length - 3) ++ '.' :: padded.drop (padded.length - 3)

end SpecAtlas.Binary64
