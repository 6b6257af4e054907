import SpecAtlas.Mapping
import SpecAtlas.Text.Quoted

/-!
# The grammar of a command line

A command line is a list of arguments. A grammar says which options may stand there, and what the
plain arguments among them are: nothing, a list, or the name of a command with everything behind it.

An option has one or more names, short ones with one hyphen and long ones with two. It either
stands alone or takes one argument.
-/

namespace SpecAtlas.CommandLine

open Text

/-- What the argument of an option may be. -/
inductive ArgumentForm where
  | text
  | whole
  | oneOf (choices : List Text)
  deriving DecidableEq, Repr

/-- What an option does. -/
inductive OptionKind where
  | flag
  | help
  | version
  | takes (form : ArgumentForm)
  deriving DecidableEq, Repr

/-- An option. -/
structure OptionRule where
  names : List Text
  kind : OptionKind
  required : Bool
  deriving DecidableEq, Repr

/-- An option as messages name it. -/
def OptionRule.title (o : OptionRule) : Text := join ['/'] o.names

/-- Whether an option takes an argument. -/
def OptionRule.takesArgument (o : OptionRule) : Bool :=
  match o.kind with
  | .takes _ => true
  | _ => false

/-- What the plain arguments are. -/
inductive PlainRule where
  | none
  | list
  /-- The name of a command; everything behind it belongs to the command. -/
  | command (names : List Text)
  deriving DecidableEq, Repr

/-- A grammar, with the name under which the program reports its errors. -/
structure Grammar where
  program : Text
  options : List OptionRule
  plain : PlainRule
  deriving DecidableEq, Repr

/-- The names of all options, each with its option. -/
def Grammar.names (g : Grammar) : List (Text × OptionRule) :=
  g.options.flatMap fun o => o.names.map (·, o)

/-- The option with a name. -/
def Grammar.option? (g : Grammar) (name : Text) : Option OptionRule := Mapping.get? g.names name

/-! ## Errors -/

/-- What is wrong with a command line. -/
inductive Misuse where
  /-- An abbreviation fits several options. -/
  | ambiguous (given : Text) (names : List Text)
  | missingArgument (title : Text)
  /-- An option that stands alone was given an argument. -/
  | surplusArgument (title argument : Text)
  | noWhole (title argument : Text)
  | noChoice (title argument : Text) (choices : List Text)
  | missingOptions (titles : List Text)
  | unrecognized (arguments : List Text)
  deriving DecidableEq, Repr

/-- A list with commas. -/
def commas (items : List Text) : Text := join ", ".toList items

/-- The message of an error that concerns one argument. -/
def about (title message : Text) : Text := "argument ".toList ++ title ++ ": ".toList ++ message

/-- The message for a misuse. -/
def Misuse.message : Misuse → Text
  | ambiguous given names =>
    "ambiguous option: ".toList ++ given ++ " could match ".toList ++ commas names
  | missingArgument title => about title "expected one argument".toList
  | surplusArgument title argument => about title ("ignored explicit argument ".toList ++ quoted argument)
  | noWhole title argument => about title ("invalid int value: ".toList ++ quoted argument)
  | noChoice title argument choices =>
    about title
      ("invalid choice: ".toList ++ quoted argument ++ " (choose from ".toList
        ++ commas (choices.map quoted) ++ [')'])
  | missingOptions titles => "the following arguments are required: ".toList ++ commas titles
  | unrecognized arguments => "unrecognized arguments: ".toList ++ join [' '] arguments

/-- Why the reading of a command line ends early. -/
inductive Stop where
  | help
  | version
  | misuse (program : Text) (problem : Misuse)
  deriving DecidableEq, Repr

end SpecAtlas.CommandLine
