import SpecAtlas.CommandLine.Request

/-!
# Help

The help lists the commands and their options. It is drawn from the grammars, so it names exactly
what is read.
-/

namespace SpecAtlas.CommandLine

open Text

/-- An option in the help: its names, and a mark for its argument. -/
def OptionRule.help (o : OptionRule) : Text :=
  let argument := match o.kind with
    | .takes (.oneOf choices) => ' ' :: join ['|'] choices
    | .takes .whole => " NUMBER".toList
    | .takes .text => " TEXT".toList
    | _ => []
  let whole := join ", ".toList o.names ++ argument
  if o.required then whole else '[' :: whole ++ [']']

/-- The options of a grammar in the help. -/
def Grammar.helpLines (g : Grammar) : List Text :=
  (g.program ++ (if g.plain = .list then " [FILE ...]".toList else []))
    :: g.options.map fun o => "    ".toList ++ o.help

/-- The commands of the program. -/
def commandNames : List Text :=
  match programGrammar.plain with
  | .command names => names
  | _ => []

/-- The help of the program. -/
def helpText : Text :=
  (programGrammar.helpLines ++ commandNames.flatMap fun name => (commandGrammar name).helpLines).flatMap
    (· ++ ['\n'])

end SpecAtlas.CommandLine
