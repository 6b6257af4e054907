import SpecAtlas.CommandLine.Reading

/-!
# What the user asks for

The program has four commands. `discover` lists specifications, `results` shows what the iterations
of a feature came to, `command` prints the command line that runs a test, and `version` tells the
version. Options for the program as a whole stand in front of the command.
-/

namespace SpecAtlas.CommandLine

open Text

/-- The name of the program. -/
def programName : Text := "spockscan".toList

/-- What an option names: a text, or nothing but an empty list. -/
inductive Named where
  | text (t : Text)
  | empty
  deriving DecidableEq, Repr

/-- What is named, as it shows inside a text. -/
def Named.shown : Named → Text
  | text t => t
  | empty => "[]".toList

/-- What is named, as a value. -/
def Named.value : Named → Value
  | text t => .text t
  | empty => .list []

/-- Options for every command. -/
structure Common where
  configFile : Option Named
  verbose : Bool
  quiet : Bool
  deriving DecidableEq, Repr

/-- Lists the specifications in some files, or in the workspace if there are none. -/
structure DiscoverRequest where
  files : List Text
  workspace : Option Text
  withData : Bool
  json : Bool
  deriving DecidableEq, Repr

/-- Shows the results of a feature. -/
structure ResultsRequest where
  className : Named
  feature : Named
  /-- The file with the console output; `-` is the standard input. -/
  console : Text
  workspace : Option Text
  tool : Option Text
  json : Bool
  deriving DecidableEq, Repr

/-- Prints the command line that runs a class, or a feature of it. -/
structure RunRequest where
  className : Named
  feature : Text
  workspace : Option Text
  tool : Option Text
  debug : Bool
  port : Option Int
  deriving DecidableEq, Repr

/-- What the user asks for. -/
inductive Request where
  | discover (r : DiscoverRequest)
  | results (r : ResultsRequest)
  | command (r : RunRequest)
  | version
  deriving DecidableEq, Repr

/-! ## The grammars -/

/-- An option that stands alone. -/
def flag (names : List String) : OptionRule := ⟨names.map String.toList, .flag, false⟩

/-- An option with an argument. -/
def takes (name : String) (form : ArgumentForm) (required : Bool) : OptionRule := ⟨[name.toList], .takes form, required⟩

/-- The option for help. -/
def helpOption : OptionRule := ⟨["-h".toList, "--help".toList], .help, false⟩

/-- The option for the build tool. -/
def toolOption : OptionRule :=
  takes "--build-tool" (.oneOf ["auto".toList, "gradle".toList, "maven".toList]) false

/-- The grammar in front of the command. -/
def programGrammar : Grammar where
  program := programName
  options := [helpOption, ⟨["--version".toList], .version, false⟩, takes "--config" .text false,
    flag ["-v", "--verbose"], flag ["-q", "--quiet"]]
  plain := .command ["discover".toList, "results".toList, "command".toList, "version".toList]

/-- The options of a command. -/
def commandOptions (name : Text) : List OptionRule :=
  if name = "discover".toList then
    [takes "--workspace" .text false, flag ["--no-data"], flag ["-j", "--json"]]
  else if name = "results".toList then
    [takes "--class" .text true, takes "--test" .text true, takes "--console" .text false,
      takes "--workspace" .text false, toolOption, flag ["-j", "--json"]]
  else if name = "command".toList then
    [takes "--class" .text true, takes "--test" .text false, takes "--workspace" .text false, toolOption,
      flag ["--debug"], takes "--port" .whole false]
  else []

/-- The grammar of a command. -/
def commandGrammar (name : Text) : Grammar where
  program := programName ++ ' ' :: name
  options := helpOption :: commandOptions name
  plain := if name = "discover".toList then .list else .none

/-! ## From arguments to requests -/

/-- Whether an option that stands alone was given. -/
def Reading.has (r : Reading) (title : String) : Bool := r.flags.contains title.toList

/-- The text that was given to an option. -/
def Reading.text? (r : Reading) (title : String) : Option Text :=
  match Mapping.get? r.arguments title.toList with
  | some (.text t) => some t
  | _ => none

/-- What an option that was given names. -/
def Reading.named? (r : Reading) (title : String) : Option Named :=
  (Mapping.get? r.arguments title.toList).map fun
    | .text t => .text t
    | _ => .empty

/-- The whole number that was given to an option. -/
def Reading.whole? (r : Reading) (title : String) : Option Int :=
  match Mapping.get? r.arguments title.toList with
  | some (.int n) => some n
  | _ => none

/-- The request that a command's own arguments make. -/
def Request.of (name : Text) (r : Reading) : Request :=
  let text (title : String) : Text := (r.text? title).getD []
  let named (title : String) : Named := (r.named? title).getD .empty
  if name = "discover".toList then
    .discover ⟨r.plain, r.text? "--workspace", !r.has "--no-data", r.has "-j/--json"⟩
  else if name = "results".toList then
    .results ⟨named "--class", named "--test", text "--console", r.text? "--workspace",
      r.text? "--build-tool", r.has "-j/--json"⟩
  else if name = "command".toList then
    .command ⟨named "--class", text "--test", r.text? "--workspace", r.text? "--build-tool", r.has "--debug",
      r.whole? "--port"⟩
  else .version

/-- Reads the arguments of the program. Without a command there is nothing to do but to help. -/
def Request.read (arguments : List Text) : Except Stop (Common × Request) := do
  let outer ← programGrammar.read arguments
  let common : Common := ⟨outer.named? "--config", outer.has "-v/--verbose", outer.has "-q/--quiet"⟩
  let (request, unrecognized) ←
    match outer.command with
    | [] => Except.ok (none, outer.unrecognized)
    | name :: own => do
      let inner ← (commandGrammar name).read own
      Except.ok (some (Request.of name inner), outer.unrecognized ++ inner.unrecognized)
  if unrecognized.isEmpty then
    match request with
    | some request => return (common, request)
    | none => .error .help
  else .error (.misuse programName (.unrecognized unrecognized))

end SpecAtlas.CommandLine
