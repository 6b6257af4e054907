import SpecAtlas.Text.Basic
import SpecAtlas.Text.Digit

/-!
# Whole numbers

Whole numbers are read from the decimal digits of any script and written in ASCII. A numeral of
more than `Numeral.limit` digits is refused, leading zeros counted: the time to read it grows with
the square of its length. The settings alone can hold a longer number, since other bases have no
limit, and it is not written either.

Reading is the fold `value`, writing is `ofNat`; `value` does not look at the script of a digit.
-/

namespace SpecAtlas

/-- The refusal of a whole number that is written with too many digits. -/
structure LongNumeral where
  digits : Nat
  deriving DecidableEq, Repr

namespace Numeral

/-- The greatest number of digits of a whole number that is read. -/
def limit : Nat := 4300

/-- The value of a run of decimal digits; other characters count nothing. -/
def value (digits : Text) : Nat :=
  digits.foldl (fun n c => 10 * n + (Text.digit? c).getD 0) 0

/-- The natural number that a run of digits writes. -/
def readNat (digits : Text) : Except LongNumeral Nat :=
  if digits.length ≤ limit then .ok (value digits) else .error ⟨digits.length⟩

/-- The whole number that digits with an optional minus sign in front write. -/
def readInt (token : Text) : Except LongNumeral Int :=
  match token with
  | '-' :: digits => (readNat digits).map fun n => -(n : Int)
  | digits => (readNat digits).map fun n => (n : Int)

/-- A run of digits, at least one, and what follows it. -/
def takeDigits? (text : Text) : Option (Text × Text) :=
  match text.span Text.isDigit with
  | ([], _) => none
  | (digits, rest) => some (digits, rest)

/-- Digits with an optional minus sign in front, and what follows them. -/
def takeSigned? (text : Text) : Option (Text × Text) :=
  match text with
  | '-' :: rest => (takeDigits? rest).map fun (digits, rest) => ('-' :: digits, rest)
  | _ => takeDigits? text

/-- Whether a whole number has more digits than are written. -/
def isTooLong (n : Int) : Bool := Nat.pow 10 limit ≤ n.natAbs

/-- The wording where a number is too long to be written. -/
def tooLongMessage : Text :=
  "Exceeds the limit (4300 digits) for integer string conversion; ".toList
    ++ "use sys.set_int_max_str_digits() to increase the limit".toList

/-- The digits of a natural number. -/
def ofNat (n : Nat) : Text := Nat.toDigits 10 n

/-- A whole number as text. -/
def ofInt : Int → Text
  | .ofNat n => ofNat n
  | .negSucc n => '-' :: ofNat (n + 1)

end Numeral

namespace LongNumeral

/-- The wording of the refusal. -/
def message (e : LongNumeral) : Text :=
  "Exceeds the limit (4300 digits) for integer string conversion: value has ".toList
    ++ Numeral.ofNat e.digits
    ++ " digits; use sys.set_int_max_str_digits() to increase the limit".toList

end LongNumeral

end SpecAtlas
