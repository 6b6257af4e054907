import SpecAtlas.Decimal.Reader
import SpecAtlas.Json.Reader

/-!
# Whole numbers in other bases

A number in base 2, 8 or 16. White space around it is dropped; a sign and a mark such as `0x` may
stand in front of the digits, and a single underscore behind the mark and between two digits. Digits
below ten may be of any script.
-/

namespace SpecAtlas.Numeral

/-- A base other than ten. -/
inductive Radix where
  | two
  | eight
  | sixteen
  deriving DecidableEq, Repr

namespace Radix

/-- The base as a number. -/
def base : Radix → Nat
  | two => 2
  | eight => 8
  | sixteen => 16

/-- The letter of the mark. -/
def letter : Radix → Char
  | two => 'b'
  | eight => 'o'
  | sixteen => 'x'

/-- The value of a digit. -/
def digit? (r : Radix) (c : Char) : Option Nat :=
  ((Text.digit? c).or (Json.hexDigit? c)).filter (· < r.base)

/-- The number that digits write behind `n`. An underscore stands between two of them. -/
def readBehind? (r : Radix) (n : Nat) : Text → Option Nat
  | [] => some n
  | '_' :: c :: rest => do r.readBehind? (r.base * n + (← r.digit? c)) rest
  | c :: rest => do r.readBehind? (r.base * n + (← r.digit? c)) rest

/-- What follows the mark, and an underscore behind it; the whole text if there is no mark. -/
def behindMark (r : Radix) (text : Text) : Text :=
  match text with
  | '0' :: m :: rest =>
    if m.toLower = r.letter then
      match rest with
      | '_' :: rest => rest
      | rest => rest
    else text
  | _ => text

/-- The number that a text writes. -/
def read? (r : Radix) (text : Text) : Option Int :=
  let (negative, body) := Decimal.takeSign (Decimal.unpad text)
  match r.behindMark body with
  | [] => none
  | c :: rest => do
    let n ← r.readBehind? (← r.digit? c) rest
    return if negative then -n else n

end Radix

end SpecAtlas.Numeral
