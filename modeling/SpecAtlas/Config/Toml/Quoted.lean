import SpecAtlas.Config.Toml.Flaw
import SpecAtlas.Numeral.Radix

/-!
# Quoted texts of a configuration file

Texts stand between quotes. Double quotes allow escapes, single quotes take everything as it is;
three quotes allow line ends, and the line end right behind them does not count.

An escape by code takes four or eight characters, whatever they are, and reads them as a number in
base sixteen, so blanks, a sign and underscores are allowed among them.

A reader returns what it reads and what follows, or nothing if the text is not valid.
-/

namespace SpecAtlas.Toml

open Text

/-! ## Escapes -/

/-- The character that a letter behind a backslash stands for. -/
def simpleEscape? : Char → Option Char
  | 'b' => some (Char.ofNat 8)
  | 't' => some '\t'
  | 'n' => some '\n'
  | 'f' => some (Char.ofNat 12)
  | 'r' => some '\r'
  | '"' => some '"'
  | '\\' => some '\\'
  | _ => none

/-- Whether a code begins like one of the surrogates: a `d` with something behind it that is no digit
below eight. -/
def beginsSurrogate : Text → Bool
  | c :: d :: _ => c.toLower == 'd' && !('0' ≤ d && d ≤ '7')
  | _ => false

/-- The character whose code a text writes, if there is one. -/
def ofCode? (text : Text) : Option Char := do
  if beginsSurrogate text then none
  else
    let n ← Numeral.Radix.sixteen.read? text
    if 0 ≤ n && (n < 0xD800 || (0xE000 ≤ n && n < 0x110000)) then some (Char.ofNat n.toNat) else none

/-- The character of an escape from behind its backslash, and what follows. -/
def takeEscape? : Text → Option (Char × Text)
  | 'u' :: rest => if rest.length < 4 then none else (ofCode? (rest.take 4)).map (·, rest.drop 4)
  | 'U' :: rest => if rest.length < 8 then none else (ofCode? (rest.take 8)).map (·, rest.drop 8)
  | c :: rest => (simpleEscape? c).map (·, rest)
  | [] => none

/-! ## Texts -/

/-- Reads a text of one line up to behind its closing quote. -/
def takeLine? (quote : Char) : Nat → Text → Option (Text × Text)
  | 0, _ => none
  | _ + 1, [] => none
  | fuel + 1, c :: rest =>
    if c = quote then some ([], rest)
    else if isControl c then none
    else if c = '\\' && quote = '"' then do
      let (e, rest) ← takeEscape? rest
      let (text, rest) ← takeLine? quote fuel rest
      return (e :: text, rest)
    else do
      let (text, rest) ← takeLine? quote fuel rest
      return (c :: text, rest)

/-- Reads a text of several lines up to behind its closing quotes. One or two more quotes in front
of those belong to the text. -/
def takeLines? (quote : Char) : Nat → Text → Option (Text × Text)
  | 0, _ => none
  | _ + 1, [] => none
  | fuel + 1, c :: rest =>
    let run := (c :: rest).takeWhile (· == quote)
    if 3 ≤ run.length then
      if 6 ≤ run.length then none
      else some (run.drop 3, (c :: rest).drop run.length)
    else if isControl c && !isLineEnd c then none
    else if c = '\\' && quote = '"' then
      let blank := rest.takeWhile fun c => isSpace c || isLineEnd c
      if blank.isEmpty then do
        let (e, rest) ← takeEscape? rest
        let (text, rest) ← takeLines? quote fuel rest
        return (e :: text, rest)
      else if blank.elem '\n' then takeLines? quote fuel (rest.drop blank.length)
      else none
    else do
      let (text, rest) ← takeLines? quote fuel rest
      return (c :: text, rest)

/-- A text without the line end at its front. -/
def dropLineEnd : Text → Text
  | '\n' :: rest => rest
  | '\r' :: '\n' :: rest => rest
  | text => text

/-- What follows three quotes at the front of a text. -/
def afterTriple? (quote : Char) (text : Text) : Option Text := after? [quote, quote, quote] text

/-- Reads a text from its opening quote on. -/
def takeText? (quote : Char) (text : Text) : Option (Text × Text) :=
  match afterTriple? quote text with
  | some rest => takeLines? quote (rest.length + 1) (dropLineEnd rest)
  | none => do
    let rest ← after? [quote] text
    takeLine? quote (rest.length + 1) rest

end SpecAtlas.Toml
