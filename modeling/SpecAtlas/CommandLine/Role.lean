import SpecAtlas.CommandLine.Grammar
import SpecAtlas.Text.Digit

/-!
# The roles of arguments

Before a command line is read, each of its arguments is given a role by itself:

1. `--` stands for itself, and makes every argument behind it plain.
2. An argument that does not begin with a hyphen, or is only a hyphen, is plain.
3. The full name of an option, or a name with `=` and an argument behind it, is that option.
4. The beginning of a long name stands for it if no other name begins so; otherwise it is an error.
5. A short name with further characters behind it is that option, with these as its argument.
6. A negative number, or anything with a blank in it, is plain.
7. Anything else is an option that the grammar does not know.
-/

namespace SpecAtlas.CommandLine

open Text

/-- An option as it is written: the name, and perhaps an argument in the same word. -/
structure Given where
  rule : OptionRule
  name : Text
  argument : Option Text
  deriving DecidableEq, Repr

/-- What an argument is. -/
inductive Role where
  | dashes
  | plain
  | option (given : Given)
  /-- An option that the grammar does not know. -/
  | unknown
  deriving DecidableEq, Repr

/-- An argument with its role. -/
structure Argument where
  text : Text
  role : Role
  deriving DecidableEq, Repr

/-- An argument divided at its first equals sign. -/
def atEquals (text : Text) : Text × Option Text :=
  match cut? ['='] text with
  | some (name, argument) => (name, some argument)
  | none => (text, none)

/-- Whether a text is a negative number: a hyphen and digits, perhaps with a point in front of the
last of them. One line feed may follow. -/
def isNegativeNumber : Text → Bool
  | '-' :: rest =>
    let number := if rest.getLast? = some '\n' then rest.dropLast else rest
    match number.dropWhile isDigit with
    | [] => !number.isEmpty
    | '.' :: fraction => !fraction.isEmpty && fraction.all isDigit
    | _ => false
  | _ => false

/-- What an argument stands for that is not the full name of an option: the readings that its
beginning allows. -/
def Grammar.readings (g : Grammar) (text : Text) : List Given :=
  match text with
  | '-' :: '-' :: _ =>
    let (lead, argument) := atEquals text
    (g.names.filter fun (name, _) => startsWith lead name).map fun (name, rule) => ⟨rule, name, argument⟩
  | '-' :: c :: rest =>
    (g.names.filter fun (name, _) => name = ['-', c]).map fun (name, rule) => ⟨rule, name, some rest⟩
  | _ => []

/-- The role of an argument that begins with a hyphen and names no option. -/
def unnamedRole (text : Text) : Role :=
  if isNegativeNumber text || text.elem ' ' then .plain else .unknown

/-- The role of an argument other than `--`. -/
def Grammar.role (g : Grammar) (text : Text) : Except Misuse Role :=
  match text with
  | '-' :: _ :: _ =>
    match g.option? text with
    | some rule => .ok (.option ⟨rule, text, none⟩)
    | none =>
      let (name, argument) := atEquals text
      match argument, g.option? name with
      | some argument, some rule => .ok (.option ⟨rule, name, some argument⟩)
      | _, _ =>
        match g.readings text with
        | [] => .ok (unnamedRole text)
        | [given] => .ok (.option given)
        | several => .error (.ambiguous text (several.map Given.name))
  | _ => .ok .plain

/-- Arguments with their roles. -/
def Grammar.roles (g : Grammar) : List Text → Except Misuse (List Argument)
  | [] => .ok []
  | text :: rest =>
    if text = "--".toList then .ok (⟨text, .dashes⟩ :: rest.map (⟨·, .plain⟩))
    else do return ⟨text, ← g.role text⟩ :: (← g.roles rest)

end SpecAtlas.CommandLine
