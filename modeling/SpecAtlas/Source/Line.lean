import SpecAtlas.Text.Basic
import SpecAtlas.Value.Split

/-!
# Lines of a specification file

A specification file is read line by line, and every rule looks at the trimmed line. This module
holds the rules that need one line only: what a comment is, how the braces of a line count, and
which lines are block labels.
-/

namespace SpecAtlas.Source

open Text

/-- Whether a trimmed line is a comment, or a line inside one. -/
def isComment (line : Text) : Bool :=
  startsWith "//".toList line || startsWith "/*".toList line || startsWith "*".toList line

/-- The opening braces of a line less its closing ones, wherever they stand. -/
def braceDelta (line : Text) : Int := (line.count '{' : Int) - line.count '}'

/-- Whether a trimmed line is nothing but a closing brace. -/
def isClosing (line : Text) : Bool := line == ['}']

/-- The labels that divide the body of a feature. -/
def blockLabels : List Text :=
  ["given".toList, "when".toList, "then".toList, "expect".toList, "where".toList]

/-- Whether a text is a description: one text between equal quotes, on one line. -/
def isDescription (text : Text) : Bool :=
  match trim text with
  | [] => false
  | q :: rest => isQuote q && rest.getLast? == some q && !rest.dropLast.elem '\n'

/-- Whether what follows a label's name makes the line a label: a colon, and then nothing or a
description. -/
def isLabelEnd (text : Text) : Bool :=
  match trimLeft text with
  | ':' :: rest => allBlank rest || isDescription rest
  | _ => false

/-- Whether a trimmed line is a block label. -/
def isBlockLabel (line : Text) : Bool :=
  blockLabels.any fun label =>
    match after? label line with
    | some rest => isLabelEnd rest
    | none => false

/-- The line that begins a where-block. -/
def whereLabel : Text := "where:".toList

end SpecAtlas.Source
