import SpecAtlas.Value.Split

/-!
# Rows of data tables

The cells of a row stand between bars or between semicolons, single or doubled. The separator that
occurs most often divides the row; of equally frequent ones the first of `separators` is taken. A
doubled separator also divides at its single form, so `a | b || c` has three cells. A row without
any separator is divided at its top-level commas.

A trailing comment ends a line unless it begins inside a quote.
-/

namespace SpecAtlas.Source

open Text

/-- What stands between two cells: one character, or two of it. -/
structure Separator where
  char : Char
  isDouble : Bool
  deriving DecidableEq, Repr

namespace Separator

/-- A separator as it is written. -/
def text (s : Separator) : Text := if s.isDouble then [s.char, s.char] else [s.char]

/-- How often a separator occurs in a row; the two halves of a doubled one do not count as single
ones. -/
def occurrences (s : Separator) (row : Text) : Nat :=
  if s.isDouble then Text.occurrences s.text row else countAlone s.char false row

/-- The parts of a row between the occurrences of a separator. -/
def split (s : Separator) (row : Text) : List Text :=
  if s.isDouble then (splitText s.text row).flatMap (pieces s.char) else pieces s.char row

end Separator

/-- The separators, those first that win a tie. -/
def separators : List Separator := [⟨'|', true⟩, ⟨';', true⟩, ⟨'|', false⟩, ⟨';', false⟩]

/-- The most frequent of some separators, and how often it occurs; none if no separator occurs. -/
def mostFrequent (row : Text) : List Separator → Option (Separator × Nat)
  | [] => none
  | s :: rest =>
    match mostFrequent row rest with
    | some (t, n) => if n ≤ s.occurrences row then some (s, s.occurrences row) else some (t, n)
    | none => if s.occurrences row = 0 then none else some (s, s.occurrences row)

/-- The separator that divides a row. -/
def separator? (row : Text) : Option Separator := (mostFrequent row separators).map Prod.fst

/-- The parts of a row that are not blank, trimmed. -/
def filled (parts : List Text) : List Text := (parts.map trim).filter (· ≠ [])

/-- The cells of a row. -/
def cells (row : Text) : List Text :=
  match separator? row with
  | some s => filled (s.split row)
  | none => filled (splitCommas row)

/-! ## Trailing comments -/

/-- The part of a text in front of the first `//` that stands outside quotes; `quote` is the quote
that is open. -/
def beforeComment? (quote : Option Char) : Text → Option Text
  | [] => none
  | c :: text =>
    match quote with
    | some q => (beforeComment? (if c = q then none else quote) text).map (c :: ·)
    | none =>
      if isQuote c then (beforeComment? (some c) text).map (c :: ·)
      else if c = '/' && text.head? == some '/' then some []
      else (beforeComment? none text).map (c :: ·)

/-- A text without its trailing comment and without the white space in front of that. -/
def stripComment (text : Text) : Text :=
  match beforeComment? none text with
  | some before => trimRight before
  | none => text

end SpecAtlas.Source
