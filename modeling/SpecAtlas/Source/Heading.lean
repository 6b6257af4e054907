import SpecAtlas.Source.Line
import SpecAtlas.Text.Word

/-!
# Headings

Three kinds of headings matter. All are read from a trimmed line.

1. A *specification heading* declares a class that extends `Specification`, by its plain name or
   by a dotted one with `Specification` among its components:
   `abstract class A extends spock.lang.Specification {`.
2. A *type heading* declares any class, interface, enumeration or trait.
3. A *method heading* begins with `def` or `void`; its name is a quoted text or an identifier, and
   behind it stand at most a parameter list and an opening brace.
-/

namespace SpecAtlas.Source

open Text

/-! ## Classes -/

/-- The heading of a specification class. -/
structure ClassHeading where
  name : Text
  isAbstract : Bool
  deriving DecidableEq, Repr

/-- Whether a character may stand in a dotted name. -/
def isDotted (c : Char) : Bool := isWord c || c == '.'

/-- Whether a word names the base class of specifications: one component of the dotted name at its
front is `Specification`. -/
def namesSpecification (word : Text) : Bool :=
  (pieces '.' (word.takeWhile isDotted)).contains "Specification".toList

/-- The class that the words of a heading declare, from the word `class` on. -/
def declaredClass? (heading : List Text) : Option Text :=
  match heading with
  | keyword :: name :: ext :: base :: _ =>
    if keyword = "class".toList && name.all isWord && ext = "extends".toList && namesSpecification base
    then some name else none
  | _ => none

/-- Reads a specification heading. -/
def ClassHeading.read? (line : Text) : Option ClassHeading :=
  match words line with
  | [] => none
  | first :: rest =>
    if first = "abstract".toList then (declaredClass? rest).map (⟨·, true⟩)
    else (declaredClass? (first :: rest)).map (⟨·, false⟩)

/-- The modifiers that may stand in front of a type heading. -/
def modifiers : List Text :=
  ["public".toList, "protected".toList, "private".toList, "static".toList, "final".toList,
    "abstract".toList]

/-- The words that declare a type. -/
def typeKeywords : List Text :=
  ["class".toList, "interface".toList, "enum".toList, "trait".toList]

/-- Whether the words of a line declare a type: modifiers, a keyword, and the start of a name. -/
def declaresType : List Text → Bool
  | keyword :: name :: rest =>
    if modifiers.contains keyword then declaresType (name :: rest)
    else typeKeywords.contains keyword && (name.take 1).any isWord
  | _ => false

/-- Whether a trimmed line is a type heading. -/
def isTypeHeading (line : Text) : Bool := declaresType (words line)

/-! ## Methods -/

/-- The heading of a method. -/
structure MethodHeading where
  name : Text
  isQuoted : Bool
  /-- The heading ends with the opening brace of the body. -/
  opens : Bool
  deriving DecidableEq, Repr

/-- What follows the white space at the front of a text; there must be some. -/
def afterBlank? (text : Text) : Option Text :=
  match text with
  | [] => none
  | c :: rest => if isBlank c then some (trimLeft rest) else none

/-- The text between two equal quotes that holds no quote of either kind and is not empty, and what
follows it. -/
def takeQuotedName? (text : Text) : Option (Text × Text) :=
  match text with
  | [] => none
  | q :: rest =>
    if isQuote q then
      match rest.span (fun c => !isQuote c) with
      | ([], _) => none
      | (_, []) => none
      | (name, closing :: rest) => if closing = q then some (name, rest) else none
    else none

/-- The ASCII identifier at the front of a text, and what follows it. -/
def takeIdentifier? (text : Text) : Option (Text × Text) :=
  match text with
  | [] => none
  | c :: _ => if isIdentStart c then some (text.span isAsciiWord) else none

/-- A text without the parameter list at its front, if there is one. -/
def dropParameters (text : Text) : Text :=
  match text with
  | '(' :: rest =>
    match cut? [')'] rest with
    | some (_, after) => after
    | none => text
  | _ => text

/-- Reads what may stand behind the name of a method: whether it ends with an opening brace. -/
def headingEnd? (text : Text) : Option Bool :=
  match trimLeft (dropParameters (trimLeft text)) with
  | '{' :: rest => if allBlank rest then some true else none
  | [] => some false
  | _ => none

/-- Reads a method heading. -/
def MethodHeading.read? (line : Text) : Option MethodHeading := do
  let rest ← (after? "def".toList line).or (after? "void".toList line)
  let rest ← afterBlank? rest
  let (isQuoted, name, rest) ←
    match takeQuotedName? rest with
    | some (name, rest) => some (true, name, rest)
    | none => (takeIdentifier? rest).map fun (name, rest) => (false, name, rest)
  return ⟨name, isQuoted, ← headingEnd? rest⟩

/-! ## Either kind -/

/-- A heading that the scan of a file reports. -/
inductive Heading where
  | specification (heading : ClassHeading)
  | method (heading : MethodHeading)
  deriving DecidableEq, Repr

end SpecAtlas.Source
