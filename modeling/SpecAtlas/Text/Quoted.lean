import SpecAtlas.Text.Basic
import SpecAtlas.Text.Printable

/-!
# Quoted texts

A quoted text stands between single quotes, or between double quotes if it holds single quotes and
no double ones. The quote around it, backslashes and what cannot be printed are escaped: line feed,
carriage return and tab by their letters, other characters by their hexadecimal code with two, four
or eight digits, the fewest of these that suffice.
-/

namespace SpecAtlas.Text

/-- A number with hexadecimal digits in lower case, filled up with zeros to a width. -/
def hex (width n : Nat) : Text :=
  let digits := Nat.toDigits 16 n
  List.replicate (width - digits.length) '0' ++ digits

/-- A character between two quotes `q`. -/
def quoteChar (q c : Char) : Text :=
  if c = q || c = '\\' then ['\\', c]
  else if c = '\n' then ['\\', 'n']
  else if c = '\r' then ['\\', 'r']
  else if c = '\t' then ['\\', 't']
  else if isPrintable c then [c]
  else if c.toNat < 0x100 then '\\' :: 'x' :: hex 2 c.toNat
  else if c.toNat < 0x10000 then '\\' :: 'u' :: hex 4 c.toNat
  else '\\' :: 'U' :: hex 8 c.toNat

/-- A text in quotes. -/
def quoted (text : Text) : Text :=
  let q := if text.contains '\'' && !text.contains '"' then '"' else '\''
  q :: text.flatMap (quoteChar q) ++ [q]

end SpecAtlas.Text
