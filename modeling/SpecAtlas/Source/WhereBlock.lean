import SpecAtlas.Source.Line

/-!
# Where a where-block stands

The where-block of a feature begins at the first line that is exactly `where:`, and ends at the
next line that is exactly a closing brace, or at the end of the file. The search for its label goes
on until the braces of the method balance out.
-/

namespace SpecAtlas.Source

open Text

/-- A where-block: the index of the label's line, and the index of the line that closes the block,
or the number of lines if none does. -/
structure BlockSpan where
  label : Nat
  close : Nat
  deriving DecidableEq, Repr

/-- The index of the first line that is nothing but a closing brace, or the index behind the last
line; the list begins with line number `index`. -/
def closingLine (index : Nat) : List Text → Nat
  | [] => index
  | line :: rest => if isClosing (trim line) then index else closingLine (index + 1) rest

/-- Looks for the label in lines that begin with number `index`. `balance` is the balance of the
braces so far, and `opened` says that a line with more opening than closing braces has been seen. -/
def seekBlock (index : Nat) (balance : Int) (opened : Bool) : List Text → Option BlockSpan
  | [] => none
  | line :: rest =>
    if trim line = whereLabel then some ⟨index, closingLine (index + 1) rest⟩
    else
      let opened := opened || 0 < braceDelta line
      let balance := balance + braceDelta line
      if opened && balance ≤ 0 then none else seekBlock (index + 1) balance opened rest

/-- The where-block of the method whose heading has index `start`. -/
def findBlock? (lines : List Text) (start : Nat) : Option BlockSpan :=
  seekBlock start 0 false (lines.drop start)

end SpecAtlas.Source
