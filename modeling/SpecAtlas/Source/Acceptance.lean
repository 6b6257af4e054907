import SpecAtlas.Source.Heading

/-!
# Which methods are features

A method heading is only a candidate. It is a feature of its class when

1. its name is not one of the four lifecycle hooks;
2. its name is quoted, or one of the next lines is a block label, with no line between that is
   nothing but a closing brace;
3. the heading ends with an opening brace, or the first line of code below it begins with one.

Both looks ahead are bounded, so whether a method is a feature depends on a fixed number of lines
below its heading.
-/

namespace SpecAtlas.Source

open Text

/-- The hooks that the test framework calls by itself. -/
def lifecycleHooks : List Text :=
  ["setup".toList, "setupSpec".toList, "cleanup".toList, "cleanupSpec".toList]

/-- The rule that turns a candidate down. -/
inductive Rejection where
  | lifecycle
  | noBlockLabel
  | noOpeningBrace
  deriving DecidableEq, Repr

/-- The name of a rule. -/
def Rejection.name : Rejection → Text
  | lifecycle => "lifecycle".toList
  | noBlockLabel => "no-block-label".toList
  | noOpeningBrace => "no-opening-brace".toList

/-- The heading of a feature without a quoted name and its first block label are less than this many
lines apart. -/
def labelReach : Nat := 50

/-- The opening brace stands at most this many lines below the heading. -/
def braceReach : Nat := 4

/-- Whether a block label comes before a line that is nothing but a closing brace. -/
def labelFirst : List Text → Bool
  | [] => false
  | line :: rest =>
    if isBlockLabel (trim line) then true
    else if isClosing (trim line) then false
    else labelFirst rest

/-- Whether the first line of code begins with an opening brace. -/
def braceFirst : List Text → Bool
  | [] => false
  | line :: rest =>
    let line := trim line
    if line.isEmpty || isComment line then braceFirst rest else line.head? == some '{'

/-- Whether a block label stands less than `reach` lines behind a heading, in the lines below it. -/
def labelWithin (reach : Nat) (below : List Text) : Bool := labelFirst (below.take (reach - 1))

/-- Whether the opening brace stands at most `reach` lines behind a heading, in the lines below it. -/
def braceWithin (reach : Nat) (below : List Text) : Bool := braceFirst (below.take reach)

/-- The rule that turns a method down, given the lines below its heading; `none` for a feature. -/
def rejection? (heading : MethodHeading) (below : List Text) : Option Rejection :=
  if lifecycleHooks.contains heading.name then some .lifecycle
  else if !heading.isQuoted && !labelWithin labelReach below then some .noBlockLabel
  else if !heading.opens && !braceWithin braceReach below then some .noOpeningBrace
  else none

end SpecAtlas.Source
