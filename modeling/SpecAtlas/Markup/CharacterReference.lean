import SpecAtlas.Numeral
import SpecAtlas.Markup.NamedReferences

/-!
# Character references

In the values and the text of markup an ampersand may begin a reference to a character: by number,
`&#38;` or `&#x26;`, or by name, `&amp;`. The reading is lenient:

* the semicolon may be missing;
* of a name that is not known, the longest known name at its front counts, and what is left over
  stays as it is;
* numbers for which there is no character give the replacement character, those of the C1 controls
  the characters that old documents meant by them, and other controls nothing;
* an ampersand that begins no reference stands for itself.
-/

namespace SpecAtlas.Markup

open Text

/-! ## By number -/

/-- The characters that the numbers 0x80 to 0x9F stand for. -/
def c1Characters : List Nat :=
  [0x20AC, 0x81, 0x201A, 0x192, 0x201E, 0x2026, 0x2020, 0x2021, 0x2C6, 0x2030, 0x160, 0x2039, 0x152,
    0x8D, 0x17D, 0x8F, 0x90, 0x2018, 0x2019, 0x201C, 0x201D, 0x2022, 0x2013, 0x2014, 0x2DC, 0x2122,
    0x161, 0x203A, 0x153, 0x9D, 0x17E, 0x178]

/-- Whether a number belongs to a control or to no character at all, so that its reference stands
for nothing. -/
def isVoid (n : Nat) : Bool :=
  (1 ≤ n && n ≤ 8) || n == 0xB || (0xE ≤ n && n ≤ 0x1F) || n == 0x7F || (0xFDD0 ≤ n && n ≤ 0xFDEF)
    || n % 0x10000 ≥ 0xFFFE

/-- What a numeric reference stands for. -/
def ofNumber (n : Nat) : Text :=
  if n = 0 || (0xD800 ≤ n && n ≤ 0xDFFF) || 0x10FFFF < n then [Char.ofNat 0xFFFD]
  else if 0x80 ≤ n && n ≤ 0x9F then [Char.ofNat (c1Characters.getD (n - 0x80) n)]
  else if isVoid n then []
  else [Char.ofNat n]

/-- The value of a hexadecimal digit. -/
def hexDigit? (c : Char) : Option Nat :=
  if '0' ≤ c && c ≤ '9' then some (c.toNat - '0'.toNat)
  else if 'a' ≤ c && c ≤ 'f' then some (c.toNat - 'a'.toNat + 10)
  else if 'A' ≤ c && c ≤ 'F' then some (c.toNat - 'A'.toNat + 10)
  else none

/-- The value of a run of hexadecimal digits. -/
def hexValue (digits : Text) : Nat := digits.foldl (fun n c => 16 * n + (hexDigit? c).getD 0) 0

/-! ## By name -/

/-- The five names that every markup document may use. -/
def predefined? (name : Text) : Option Text :=
  if name = "amp;".toList then some ['&']
  else if name = "lt;".toList then some ['<']
  else if name = "gt;".toList then some ['>']
  else if name = "quot;".toList then some ['"']
  else if name = "apos;".toList then some ['\'']
  else none

/-- What a name stands for. -/
def ofName? (name : Text) : Option Text :=
  (predefined? name).or <|
    (referencesAt (name.headD ' ')).findSome? fun (known, points) =>
      if known.toList = name then some (points.map Char.ofNat) else none

/-- What a name stands for that may have more behind it: the meaning of the longest known front of
two characters or more, at most `size` characters long, and what is left over. Without a known
front the ampersand stays. -/
def ofFront (name : Text) : Nat → Text
  | 0 => '&' :: name
  | size + 1 =>
    if size + 1 < 2 then '&' :: name
    else
      match ofName? (name.take (size + 1)) with
      | some meaning => meaning ++ name.drop (size + 1)
      | none => ofFront name size

/-- Whether a character may belong to a name. -/
def isNameChar (c : Char) : Bool :=
  !(c == '\t' || c == '\n' || c.toNat == 0xC || c == ' ' || c == '<' || c == '&' || c == '#' || c == ';')

/-! ## Reading -/

/-- The semicolon at the front of a text, if there is one. -/
def semicolon (text : Text) : Text := if text.head? = some ';' then [';'] else []

/-- The reference behind an ampersand: what it stands for, and how many characters it takes. -/
def reference? (text : Text) : Option (Except LongNumeral Text × Nat) :=
  match text with
  | '#' :: x :: rest =>
    let digits := (x :: rest).takeWhile Char.isDigit
    if digits.isEmpty then
      let digits := rest.takeWhile fun c => (hexDigit? c).isSome
      if (x = 'x' || x = 'X') && !digits.isEmpty then
        some (.ok (ofNumber (hexValue digits)),
          2 + digits.length + (semicolon (rest.drop digits.length)).length)
      else none
    else
      some ((Numeral.readNat digits).map ofNumber,
        1 + digits.length + (semicolon ((x :: rest).drop digits.length)).length)
  | _ =>
    let run := (text.take 32).takeWhile isNameChar
    if run.isEmpty then none
    else
      let name := run ++ semicolon (text.drop run.length)
      some (.ok (ofFront name name.length), name.length)

/-- A text with its character references resolved. -/
def unescape (text : Text) : Except LongNumeral Text :=
  match text with
  | [] => .ok []
  | c :: rest =>
    if c = '&' then
      match reference? rest with
      | some (meaning, size) => do
        let meaning ← meaning
        return meaning ++ (← unescape (rest.drop size))
      | none => (unescape rest).map ('&' :: ·)
    else (unescape rest).map (c :: ·)
termination_by text.length
decreasing_by all_goals simp only [List.length_drop, List.length_cons]; omega

end SpecAtlas.Markup
