import SpecAtlas.Moment
import SpecAtlas.Config.Toml.Flaw

/-!
# Dates and times of a configuration file

A date is `1979-05-27`, its year with any number of digits, and a time `07:32:00`, perhaps with a
fraction of the second, of which six digits count. Both together stand with a `T` or a blank between
them, and perhaps a zone behind them: `Z`, or a sign with hours and minutes. A bar counts as a plus.
-/

namespace SpecAtlas.Toml

open Text

/-- Reads two digits whose number is at most `high`. -/
def takeTwo? (high : Nat) (text : Text) : Option (Nat × Text) :=
  let digits := (text.take 2).takeWhile Char.isDigit
  if digits.length = 2 && Numeral.value digits ≤ high then some (Numeral.value digits, text.drop 2) else none

/-- Reads a date. -/
def takeDate? (text : Text) : Option (Date × Text) := do
  let year := text.takeWhile Char.isDigit
  let (month, rest) ← takeTwo? 12 (← after? ['-'] (text.drop year.length))
  let (day, rest) ← takeTwo? 31 (← after? ['-'] rest)
  let d : Date := ⟨Numeral.value year, month, day⟩
  if d.isValid then some (d, rest) else none

/-- The microseconds that the digits of a fraction write. -/
def microseconds (digits : Text) : Nat := Numeral.value ((digits ++ List.replicate 6 '0').take 6)

/-- Reads a time of day. -/
def takeTime? (text : Text) : Option (TimeOfDay × Text) := do
  let (hour, rest) ← takeTwo? 23 text
  let (minute, rest) ← takeTwo? 59 (← after? [':'] rest)
  let (second, rest) ← takeTwo? 59 (← after? [':'] rest)
  match rest with
  | '.' :: fraction =>
    let digits := fraction.takeWhile Char.isDigit
    if digits.isEmpty then none
    else some (⟨hour, minute, second, microseconds digits⟩, fraction.drop digits.length)
  | _ => some (⟨hour, minute, second, 0⟩, rest)

/-- The zone that a text writes, which may be empty: then there is none. -/
def zone? (text : Text) : Option (Option Zone) :=
  match text with
  | [] => some none
  | sign :: rest =>
    if rest.isEmpty && sign.toLower = 'z' then some (some ⟨"UTC".toList, 0⟩)
    else if sign = '+' || sign = '|' || sign = '-' then do
      let (hours, rest) ← takeTwo? 23 rest
      let (minutes, rest) ← takeTwo? 59 (← after? [':'] rest)
      let ahead : Int := 60 * hours + minutes
      if rest.isEmpty then some (some ⟨text, if sign = '-' then -ahead else ahead⟩) else none
    else none

/-- The date, the time or both that a text writes. -/
def moment? (text : Text) : Option Moment :=
  match takeDate? text with
  | some (d, []) => some (.date d)
  | some (d, mark :: rest) => do
    if mark = 'T' || mark = 't' || mark = ' ' then
      let (t, rest) ← takeTime? rest
      return .dateTime d t (← zone? rest)
    else none
  | none => do
    let (t, rest) ← takeTime? text
    if rest.isEmpty then some (.time t) else none

/-- Reads a date or a time from the word at the front of a text. Behind a date stands nothing more
up to a tab, a separator or the end of the line, or else the time that belongs to it. -/
def takeMoment? (text : Text) : Option (Moment × Text) := do
  let word := text.takeWhile (!endsWord ·)
  let rest := text.drop word.length
  match ← moment? word with
  | .date d =>
    let more := rest.takeWhile fun c => c == ' ' || !endsWord c
    let time := dropRight isBlank more
    let rest := rest.drop more.length
    if time.isEmpty then some (.date d, rest) else some (← moment? (word ++ time), rest)
  | m => some (m, rest)

end SpecAtlas.Toml
