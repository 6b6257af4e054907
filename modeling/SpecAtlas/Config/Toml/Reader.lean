import SpecAtlas.Config.Toml.Moment
import SpecAtlas.Config.Toml.Number
import SpecAtlas.Config.Toml.Quoted
import SpecAtlas.Config.Toml.Table

/-!
# Keys and values of a configuration file

A key is a list of parts with points between them; a value is a text, a number, a truth value, a date
or a time, an array, or a table on one line.

An array ends at the first closing bracket that stands where no value can go on. If a value inside it
is cut off there, the array loses that value and nothing else.

Every value takes at least one character, so the length of the text bounds the recursion.
-/

namespace SpecAtlas.Toml

open Text

/-! ## Keys -/

/-- Whether a character may stand in a key without quotes. -/
def isBareChar (c : Char) : Bool := c.isAlphanum || c == '-' || c == '_'

/-- Reads a part of a key that stands between quotes: a text of one line. -/
def takeQuotedPart (quote : Char) (text : Text) : Except Flaw (Text × Text) := do
  let (part, rest) ← orMalformed (takeText? quote text)
  if (afterTriple? quote text).isSome then .error (.unexpected rest) else return (part, rest)

/-- Reads a part of a key that stands without quotes. Blanks around it do not belong to it, and there
are none inside. -/
def takeBarePart (text : Text) : Except Flaw (Text × Text) :=
  let run := text.takeWhile fun c => isBareChar c || isSpace c
  let part := dropRight isSpace run
  if part.isEmpty || part.elem ' ' then .error .malformed else .ok (part, text.drop run.length)

/-- Reads a dotted key: its parts, with blanks around them, and what follows. -/
def takePath : Nat → Text → Except Flaw (List Text × Text)
  | 0, _ => .error .malformed
  | fuel + 1, text => do
    let text := skipSpaces text
    let (part, rest) ←
      match text with
      | '"' :: _ => takeQuotedPart '"' text
      | '\'' :: _ => takeQuotedPart '\'' text
      | _ => takeBarePart text
    match skipSpaces rest with
    | '.' :: rest => do
      let (parts, rest) ← takePath fuel rest
      return (part :: parts, rest)
    | rest => return ([part], rest)

/-- Reads a dotted key. -/
def takeKey (text : Text) : Except Flaw (List Text × Text) := takePath (text.length + 1) text

/-- Reads a key and the equals sign behind it; a second one must not follow. -/
def takeKeySign (text : Text) : Except Flaw (List Text × Text) := do
  let (path, rest) ← takeKey text
  match rest with
  | '=' :: rest =>
    let rest := skipSpaces rest
    if rest.head? = some '=' then .error (.unexpected rest) else return (path, rest)
  | _ => .error (.unexpected rest)

/-! ## Values -/

/-- What follows the blanks, line ends and comments at the front of a text. -/
def skipFiller : Nat → Text → Except Flaw Text
  | 0, _ => .error .malformed
  | fuel + 1, text =>
    match text.dropWhile fun c => isSpace c || isLineEnd c with
    | '#' :: rest => do skipFiller fuel (← afterComment rest)
    | rest => .ok rest

/-- Reads one of the two truth values. -/
def takeTruth (word : String) (b : Bool) (text : Text) : Except Flaw (Value × Text) :=
  match after? word.toList text with
  | some rest => .ok (.bool b, rest)
  | none => .error (.unexpected text)

/-- Whether a text begins with a number by its sign or its name. -/
def beginsNumber (text : Text) : Bool :=
  let word := text.takeWhile (!endsWord ·)
  word.head?.any (fun c => c == '+' || c == '-') || word == "inf".toList || word == "nan".toList

/-- Reads the number at the front of a text. -/
def takeNumber? (text : Text) : Option (Value × Text) :=
  let word := text.takeWhile (!endsWord ·)
  (readNumber? word).map (·, text.drop word.length)

/-- Reads a number, a date or a time. -/
def takeScalar (text : Text) : Except Flaw (Value × Text) :=
  if beginsNumber text then orMalformed (takeNumber? text)
  else if text.head?.any Char.isDigit then
    orMalformed ((takeNumber? text).or ((takeMoment? text).map fun (m, rest) => (.moment m, rest)))
  else .error (.unexpected text)

mutual

/-- Reads a value. -/
def takeValue : Nat → Text → Except Flaw (Value × Text)
  | 0, _ => .error .malformed
  | fuel + 1, text =>
    match text with
    | '"' :: _ => (orMalformed (takeText? '"' text)).map fun (t, rest) => (.text t, rest)
    | '\'' :: _ => (orMalformed (takeText? '\'' text)).map fun (t, rest) => (.text t, rest)
    | 't' :: _ => takeTruth "true" true text
    | 'f' :: _ => takeTruth "false" false text
    | '[' :: rest => (takeItems fuel rest).map fun (items, rest) => (.list items, rest)
    | '{' :: rest => do
      let rest := skipSpaces rest
      let (entries, rest) ←
        match rest with
        | '}' :: rest => .ok ([], rest)
        | _ => takeEntries fuel [] rest
      return (.map (← Entries.values entries), rest)
    | _ => takeScalar text

/-- Reads the items of an array up to behind its closing bracket. -/
def takeItems : Nat → Text → Except Flaw (List Value × Text)
  | 0, _ => .error .malformed
  | fuel + 1, text => do
    let text ← skipFiller (text.length + 1) text
    match takeValue fuel text with
    | .error (.unexpected (']' :: rest)) => return ([], rest)
    | .error flaw => .error flaw
    | .ok (item, rest) => do
      match ← skipFiller (rest.length + 1) rest with
      | ']' :: rest => return ([item], rest)
      | ',' :: rest => do
        let (items, rest) ← takeItems fuel rest
        return (item :: items, rest)
      | rest => .error (.unexpected rest)

/-- Reads the entries of a table on one line, of which there is at least one more, up to behind its
closing brace. -/
def takeEntries : Nat → Entries → Text → Except Flaw (Entries × Text)
  | 0, _, _ => .error .malformed
  | fuel + 1, entries, text => do
    if text.head?.any fun c => c == ',' || c == '}' then .error (.unexpected text)
    else do
      let (path, rest) ← takeKeySign text
      let (v, rest) ← takeValue fuel rest
      let entries ← entries.put true path v
      let rest := skipSpaces rest
      match rest with
      | '}' :: rest => return (entries, rest)
      | ',' :: rest => takeEntries fuel entries (skipSpaces rest)
      | _ => .error (.unexpected rest)

end

/-- Reads a key with its value. -/
def takeEntry (text : Text) : Except Flaw ((List Text × Value) × Text) := do
  let (path, rest) ← takeKeySign text
  let (v, rest) ← takeValue (text.length + 1) rest
  return ((path, v), rest)

end SpecAtlas.Toml
