import SpecAtlas.Text.Basic

/-!
# Dividing outside quotes and brackets

A scanner walks over a text and remembers the quote that is open, if any, and the brackets that
wait to be closed. A separator divides only where neither is open.

Inside a quote only the same quote counts. A closing bracket that does not fit the innermost open
one is an ordinary character. Since every character goes into a piece or is a separator, the pieces
joined by the separators are the text.
-/

namespace SpecAtlas

/-- What is open at a place of a text: a quote, and the closing brackets that are waited for,
innermost first. -/
structure Nesting where
  quote : Option Char := none
  closers : List Char := []
  deriving DecidableEq, Repr

/-- Whether a character is a quote. -/
def isQuote (c : Char) : Bool := c == '\'' || c == '"'

/-- The bracket that closes an opening one. -/
def closerOf? : Char → Option Char
  | '(' => some ')'
  | '[' => some ']'
  | '{' => some '}'
  | _ => none

namespace Nesting

/-- Whether nothing is open. -/
def isTop (s : Nesting) : Bool := s.quote.isNone && s.closers.isEmpty

/-- What is open behind a character. -/
def step (s : Nesting) (c : Char) : Nesting :=
  match s.quote with
  | some q => if c = q then { s with quote := none } else s
  | none =>
    if isQuote c then { s with quote := some c }
    else
      match closerOf? c with
      | some closer => { s with closers := closer :: s.closers }
      | none =>
        match s.closers with
        | closer :: rest => if c = closer then { s with closers := rest } else s
        | [] => s

/-- What is open at the end of a text that begins with `s` open. -/
def after (s : Nesting) (text : Text) : Nesting := text.foldl step s

/-- Whether a character divides the text where `s` is open. Quotes and opening brackets never do. -/
def separates (isSep : Char → Bool) (s : Nesting) (c : Char) : Bool :=
  s.isTop && isSep c && !isQuote c && (closerOf? c).isNone

end Nesting

/-- The pieces of a text that begins with `s` open; there is always one. -/
def splitFrom (isSep : Char → Bool) (s : Nesting) : Text → List Text
  | [] => [[]]
  | c :: text =>
    if s.separates isSep c then [] :: splitFrom isSep s text
    else
      match splitFrom isSep (s.step c) text with
      | [] => [[c]]
      | first :: rest => (c :: first) :: rest

theorem splitFrom_ne_nil (isSep : Char → Bool) (s : Nesting) (text : Text) : splitFrom isSep s text ≠ [] := by
  cases text with
  | nil => simp [splitFrom]
  | cons c text =>
    simp only [splitFrom]
    split
    · simp
    · split <;> simp

/-- A division at one separator loses nothing. -/
theorem join_splitFrom (sep : Char) (s : Nesting) (text : Text) :
    Text.join [sep] (splitFrom (· == sep) s text) = text := by
  induction text generalizing s with
  | nil => simp [splitFrom, Text.join]
  | cons c text ih =>
    simp only [splitFrom]
    split
    · rename_i h
      have hc : c = sep := by simp [Nesting.separates] at h; exact h.1.1.2
      rw [Text.join_cons_of_ne_nil _ _ (splitFrom_ne_nil _ s text), ih, hc]
      rfl
    · split
      · rename_i he
        exact absurd he (splitFrom_ne_nil _ _ text)
      · rename_i first rest he
        have := ih (s.step c)
        rw [he] at this
        cases rest with
        | nil => simpa [Text.join] using this
        | cons next rest => simpa [Text.join] using this

/-- The pieces of a text between the separators that stand outside quotes and brackets. The empty
text has no pieces. -/
def splitTopLevel (isSep : Char → Bool) (text : Text) : List Text :=
  if text.isEmpty then [] else splitFrom isSep {} text

/-- The pieces between top-level commas. -/
def splitCommas (text : Text) : List Text := splitTopLevel (· == ',') text

end SpecAtlas
