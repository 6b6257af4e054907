import SpecAtlas.CommandLine.Role
import SpecAtlas.Mapping
import SpecAtlas.Value
import SpecAtlas.Decimal.Reader

/-!
# Reading a command line

The arguments are read from left to right. An option that takes an argument finds it in its own word
or takes the plain argument behind it. Short options that stand alone may share a word. Of an option
that is given twice the last argument counts.

A list of plain arguments must stand together: what is plain behind a later option is not
recognised. `--` at the front of the list, or inside it, is left out. So it is as the argument of an
option, which is then an empty list. The name of a command takes everything behind it, whatever it
looks like.

What is not recognised is collected, since an error in a command's own arguments is reported first.
-/

namespace SpecAtlas.CommandLine

open Text

/-- What has been read. -/
structure Reading where
  /-- The options that stand alone, by their titles. -/
  flags : List Text := []
  /-- The arguments of options, by their titles. -/
  arguments : Mapping Value := []
  plain : List Text := []
  /-- The command's own arguments, its name first. -/
  command : List Text := []
  unrecognized : List Text := []

/-! ## One option -/

/-- The value of an option's argument. -/
def argumentValue (title : Text) (form : ArgumentForm) (text : Text) : Except Misuse Value :=
  if text = "--".toList then .ok (.list [])
  else
    match form with
    | .text => .ok (.text text)
    | .whole =>
      match Decimal.readCount? text with
      | some (.ok n) => .ok (.int n)
      | _ => .error (.noWhole title text)
    | .oneOf choices =>
      if choices.contains text then .ok (.text text) else .error (.noChoice title text choices)

/-- An option with the argument that its own word holds. -/
abbrev Occurrence := OptionRule × Option Text

/-- The options that share a word: `rule`, which stands alone, and those whose short names stand
behind it. An option that takes an argument takes what is left of the word. Each of the others must
be known, or else all that is left is an argument that nobody takes. -/
def takeShared (g : Grammar) (rule : OptionRule) : Text → Except Misuse (List Occurrence)
  | [] => .error (.surplusArgument rule.title [])
  | c :: more =>
    match g.option? ['-', c] with
    | none => .error (.surplusArgument rule.title (c :: more))
    | some next =>
      if more.isEmpty then .ok [(rule, none), (next, none)]
      else if next.takesArgument then .ok [(rule, none), (next, some more)]
      else (takeShared g next more).map ((rule, none) :: ·)

/-- The options that the word of an option holds. -/
def Given.occurrences (g : Grammar) (given : Given) : Except Misuse (List Occurrence) :=
  match given.argument with
  | none => .ok [(given.rule, none)]
  | some argument =>
    if given.rule.takesArgument then .ok [(given.rule, some argument)]
    else if startsWith "--".toList given.name then .error (.surplusArgument given.rule.title argument)
    else takeShared g given.rule argument

/-- What an option with its argument does. -/
def Reading.occur (g : Grammar) (r : Reading) (o : Occurrence) : Except Stop Reading :=
  match o.1.kind with
  | .flag => .ok { r with flags := r.flags ++ [o.1.title] }
  | .help => .error .help
  | .version => .error .version
  | .takes form =>
    (argumentValue o.1.title form (o.2.getD [])).map
      (fun v => { r with arguments := Mapping.put r.arguments o.1.title v }) |>.mapError (.misuse g.program)

/-! ## The whole line -/

/-- Where the list of plain arguments stands: not begun, begun, or ended. -/
inductive ListPhase where
  | ahead
  | inside
  | ended
  deriving DecidableEq, Repr

/-- The phase behind an option. -/
def ListPhase.afterOption : ListPhase → ListPhase
  | ahead => ahead
  | _ => ended

/-- The last option of a word, if it still needs an argument. -/
def openOption? (found : List Occurrence) : Option OptionRule :=
  match found.getLast? with
  | some (rule, none) => if rule.takesArgument then some rule else none
  | _ => none

/-- What the options of a word do. -/
def Reading.occurAll (g : Grammar) (r : Reading) (found : List Occurrence) : Except Stop Reading :=
  found.foldlM (Reading.occur g) r

/-- Reads the arguments that are left. -/
def readFrom (g : Grammar) (phase : ListPhase) (r : Reading) : List Argument → Except Stop Reading
  | [] => .ok r
  | ⟨text, .unknown⟩ :: rest =>
    readFrom g phase.afterOption { r with unrecognized := r.unrecognized ++ [text] } rest
  | ⟨_, .option given⟩ :: rest => do
    let found ← (given.occurrences g).mapError (.misuse g.program)
    match openOption? found with
    | none => readFrom g phase.afterOption (← r.occurAll g found) rest
    | some rule =>
      match rest with
      | ⟨argument, .plain⟩ :: rest =>
        readFrom g phase.afterOption (← r.occurAll g (found.dropLast ++ [(rule, some argument)])) rest
      | _ => .error (.misuse g.program (.missingArgument rule.title))
  | ⟨text, role⟩ :: rest =>
    match g.plain with
    | .none => readFrom g phase { r with unrecognized := r.unrecognized ++ [text] } rest
    | .list =>
      if phase = .ended then readFrom g phase { r with unrecognized := r.unrecognized ++ [text] } rest
      else if role = .dashes then readFrom g .inside r rest
      else readFrom g .inside { r with plain := r.plain ++ [text] } rest
    | .command names =>
      if role = .dashes && rest.isEmpty then .ok { r with unrecognized := r.unrecognized ++ [text] }
      else if names.contains text then .ok { r with command := text :: rest.map Argument.text }
      else .error (.misuse g.program (.noChoice "command".toList text names))

/-- The titles of the required options that are missing. -/
def Reading.missing (r : Reading) (g : Grammar) : List Text :=
  (g.options.filter fun o => o.required && !r.arguments.keys.contains o.title).map OptionRule.title

/-- Reads a command line. -/
def Grammar.read (g : Grammar) (arguments : List Text) : Except Stop Reading := do
  let arguments ← (g.roles arguments).mapError (.misuse g.program)
  let r ← readFrom g .ahead {} arguments
  if (r.missing g).isEmpty then return r
  else .error (.misuse g.program (.missingOptions (r.missing g)))

end SpecAtlas.CommandLine
