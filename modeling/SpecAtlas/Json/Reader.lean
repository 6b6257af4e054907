import SpecAtlas.Value
import SpecAtlas.Numeral
import SpecAtlas.Decimal.Reader

/-!
# Reading JSON

A strict reader with three liberties: the names `NaN`, `Infinity` and `-Infinity` are numbers, a
repeated key keeps its first place and takes its last value, and a number without point and exponent
is a whole number of any size up to the limit of `Numeral`.

A lone half of a surrogate pair is no character; it becomes the replacement character.

Every value takes at least one character, so the length of the text bounds the recursion.
-/

namespace SpecAtlas.Json

open Text

/-- Why a text is not read. -/
inductive Problem where
  | malformed
  | longNumeral (e : LongNumeral)
  deriving DecidableEq, Repr

/-- A reader takes what it reads from the front of a text. -/
abbrev Reader (α : Type) := Text → Except Problem (α × Text)

/-- A text without the white space of the format at its front. -/
def skipBlank (text : Text) : Text :=
  text.dropWhile fun c => c == ' ' || c == '\t' || c == '\n' || c == '\r'

/-! ## Texts -/

/-- The value of a hexadecimal digit. -/
def hexDigit? (c : Char) : Option Nat :=
  if '0' ≤ c && c ≤ '9' then some (c.toNat - '0'.toNat)
  else if 'a' ≤ c && c ≤ 'f' then some (c.toNat - 'a'.toNat + 10)
  else if 'A' ≤ c && c ≤ 'F' then some (c.toNat - 'A'.toNat + 10)
  else none

/-- The number that four hexadecimal digits write. -/
def hex4? : Text → Option (Nat × Text)
  | a :: b :: c :: d :: rest => do
    return (4096 * (← hexDigit? a) + 256 * (← hexDigit? b) + 16 * (← hexDigit? c) + (← hexDigit? d), rest)
  | _ => none

/-- The character of a code unit, or the replacement character if it is half of a pair. -/
def ofUnit (n : Nat) : Char := if 0xD800 ≤ n && n < 0xE000 then Char.ofNat 0xFFFD else Char.ofNat n

/-- The character behind `\u`, which may be written as a pair. -/
def unicodeEscape? (text : Text) : Option (Char × Text) := do
  let (high, rest) ← hex4? text
  if 0xD800 ≤ high && high < 0xDC00 then
    match rest with
    | '\\' :: 'u' :: more =>
      match hex4? more with
      | some (low, more) =>
        if 0xDC00 ≤ low && low < 0xE000 then
          return (Char.ofNat (0x10000 + (high - 0xD800) * 0x400 + (low - 0xDC00)), more)
        else return (ofUnit high, rest)
      | none => return (ofUnit high, rest)
    | _ => return (ofUnit high, rest)
  else return (ofUnit high, rest)

/-- The character that a letter behind a backslash stands for. -/
def simpleEscape? : Char → Option Char
  | '"' => some '"'
  | '\\' => some '\\'
  | '/' => some '/'
  | 'b' => some (Char.ofNat 8)
  | 'f' => some (Char.ofNat 12)
  | 'n' => some '\n'
  | 'r' => some '\r'
  | 't' => some '\t'
  | _ => none

/-- Reads a text from behind its opening quote to behind its closing one. -/
def readText : Nat → Reader Text
  | 0, _ => .error .malformed
  | _ + 1, [] => .error .malformed
  | _ + 1, '"' :: rest => .ok ([], rest)
  | fuel + 1, '\\' :: 'u' :: rest =>
    match unicodeEscape? rest with
    | some (c, rest) => (readText fuel rest).map fun (t, rest) => (c :: t, rest)
    | none => .error .malformed
  | fuel + 1, '\\' :: e :: rest =>
    match simpleEscape? e with
    | some c => (readText fuel rest).map fun (t, rest) => (c :: t, rest)
    | none => .error .malformed
  | fuel + 1, c :: rest =>
    if c.toNat < 0x20 || c == '\\' then .error .malformed
    else (readText fuel rest).map fun (t, rest) => (c :: t, rest)

/-! ## Numbers -/

/-- The ASCII digits at the front of a text. -/
def takeDigits (text : Text) : Text × Text := text.span Char.isDigit

/-- The fraction at the front of a text, if a point and a digit begin it. -/
def takeFraction? (text : Text) : Option (Text × Text) :=
  match text with
  | '.' :: rest =>
    match takeDigits rest with
    | ([], _) => none
    | (digits, rest) => some (digits, rest)
  | _ => none

/-- The exponent at the front of a text, if a mark, an optional sign and a digit begin it. -/
def takeExponent? (text : Text) : Option (Int × Text) :=
  match text with
  | e :: rest =>
    if e = 'e' || e = 'E' then
      let (negative, rest) := Decimal.takeSign rest
      match takeDigits rest with
      | ([], _) => none
      | (digits, rest) =>
        let n := (Numeral.value digits : Int)
        some (if negative then -n else n, rest)
    else none
  | [] => none

/-- Reads a number. A zero stands alone before the point. -/
def readNumber (text : Text) : Except Problem (Value × Text) :=
  let (negative, body) := match text with
    | '-' :: rest => (true, rest)
    | rest => (false, rest)
  let (whole, rest) := match body with
    | '0' :: rest => (['0'], rest)
    | rest => takeDigits rest
  if whole.isEmpty then .error .malformed
  else
    match takeFraction? rest, takeExponent? ((takeFraction? rest).elim rest Prod.snd) with
    | none, none =>
      match Numeral.readNat whole with
      | .ok n => .ok (.int (if negative then -(n : Int) else n), rest)
      | .error e => .error (.longNumeral e)
    | fraction, exponent =>
      let digits := fraction.elim [] Prod.fst
      let behind := fraction.elim rest Prod.snd
      .ok (.float (Decimal.ofParts negative whole digits (exponent.elim 0 Prod.fst)),
        exponent.elim behind Prod.snd)

/-- The values that have names. -/
def names : List (Text × Value) :=
  [("null".toList, .null), ("true".toList, .bool true), ("false".toList, .bool false),
    ("NaN".toList, .float .nan), ("Infinity".toList, .float (.infinite false)),
    ("-Infinity".toList, .float (.infinite true))]

/-- The named value at the front of a text. -/
def named? (text : Text) : Option (Value × Text) :=
  names.findSome? fun (name, value) => (after? name text).map (value, ·)

/-! ## Values -/

mutual

/-- Reads a value. -/
def readValue : Nat → Reader Value
  | 0, _ => .error .malformed
  | fuel + 1, text =>
    match text with
    | '"' :: rest => (readText (rest.length + 1) rest).map fun (t, rest) => (.text t, rest)
    | '[' :: rest =>
      match skipBlank rest with
      | ']' :: rest => .ok (.list [], rest)
      | rest => (readItems fuel rest).map fun (items, rest) => (.list items, rest)
    | '{' :: rest =>
      match skipBlank rest with
      | '}' :: rest => .ok (.map [], rest)
      | rest =>
        (readEntries fuel rest).map fun (entries, rest) => (.map (Mapping.ofList entries), rest)
    | _ =>
      match named? text with
      | some found => .ok found
      | none => readNumber text

/-- Reads the items of a list up to behind its closing bracket. -/
def readItems : Nat → Reader (List Value)
  | 0, _ => .error .malformed
  | fuel + 1, text => do
    let (item, rest) ← readValue fuel text
    match skipBlank rest with
    | ']' :: rest => return ([item], rest)
    | ',' :: rest =>
      let (items, rest) ← readItems fuel (skipBlank rest)
      return (item :: items, rest)
    | _ => .error .malformed

/-- Reads the entries of a mapping up to behind its closing brace. -/
def readEntries : Nat → Reader (List (Text × Value))
  | 0, _ => .error .malformed
  | fuel + 1, text =>
    match text with
    | '"' :: rest => do
      let (key, rest) ← readText (rest.length + 1) rest
      match skipBlank rest with
      | ':' :: rest =>
        let (value, rest) ← readValue fuel (skipBlank rest)
        match skipBlank rest with
        | '}' :: rest => return ([(key, value)], rest)
        | ',' :: rest =>
          let (entries, rest) ← readEntries fuel (skipBlank rest)
          return ((key, value) :: entries, rest)
        | _ => .error .malformed
      | _ => .error .malformed
    | _ => .error .malformed

end

/-- The value that a text writes, white space around it apart. -/
def read (text : Text) : Except Problem Value := do
  let (value, rest) ← readValue (2 * text.length + 2) (skipBlank text)
  if (skipBlank rest).isEmpty then return value else .error .malformed

end SpecAtlas.Json
