import SpecAtlas.Text.Basic

/-!
# Flaws of a configuration file

What can be wrong with the text of a file, and the classes of characters that its lines are made of.

A text that is not well formed is one flaw, whatever stands in it; but the place of a character that
is unexpected is remembered, since a list may end there.
-/

namespace SpecAtlas.Toml

/-- What is wrong with a text. -/
inductive Flaw where
  /-- A character cannot stand in its place; `rest` is the text from there on. -/
  | unexpected (rest : Text)
  | malformed
  /-- A key is written twice. -/
  | repeated (key : Text)
  /-- A table that dotted keys opened gets a header. -/
  | reopened
  deriving DecidableEq, Repr

/-- What was found, or else a text that is not well formed. -/
def orMalformed {α : Type} : Option α → Except Flaw α
  | some a => .ok a
  | none => .error .malformed

/-! ## Classes of characters -/

/-- Whether a character is a blank inside a line. -/
def isSpace (c : Char) : Bool := c == ' ' || c == '\t'

/-- Whether a character ends a line. -/
def isLineEnd (c : Char) : Bool := c == '\n' || c == '\r'

/-- Whether a character is a control other than the tab. -/
def isControl (c : Char) : Bool := (c.toNat < 0x20 && c != '\t') || c.toNat == 0x7F

/-- Whether a character ends a number, or a word that stands for a value. -/
def endsWord (c : Char) : Bool := isSpace c || isLineEnd c || c == '#' || c == ',' || c == ']' || c == '}'

/-! ## Blanks and comments -/

/-- A text without the blanks at its front. -/
def skipSpaces (text : Text) : Text := text.dropWhile isSpace

/-- What follows a comment at the front of a text, the line end excluded; controls are not allowed
in it. -/
def afterComment (text : Text) : Except Flaw Text :=
  let comment := text.takeWhile (!isLineEnd ·)
  if comment.any isControl then .error .malformed else .ok (text.drop comment.length)

/-- What follows the end of a line, which may have a carriage return, a line feed or both. -/
def afterLineEnd (text : Text) : Text :=
  let rest := match text with
    | '\r' :: rest => rest
    | rest => rest
  match rest with
  | '\n' :: rest => rest
  | rest => rest

end SpecAtlas.Toml
