import SpecAtlas.Config.Merge
import SpecAtlas.Json.Reader
import SpecAtlas.Text.Case

/-!
# Settings from the environment

The variable `SPOCKSCAN_<SECTION>_<KEY>` sets a key in a section of the configuration. Both names
are written in lower case there, and the section ends at the first underscore. A section that is no
mapping stays as it is.

A value that begins with a bracket or a brace is read as JSON, `true` and `false` in any case are
truth values, and everything else is a text, just as it stands.
-/

namespace SpecAtlas.Config

open Text

/-- How the names of the variables begin. -/
def variableLead : Text := "SPOCKSCAN_".toList

/-- The section and the key that a variable sets. -/
def variableTarget? (name : Text) : Option (Text × Text) := do
  let (tableName, key) ← cut? ['_'] (lower (← after? variableLead name))
  if tableName.isEmpty || key.isEmpty then none else some (tableName, key)

/-- The value that a variable gives. -/
def variableValue (text : Text) : Except LongNumeral Value :=
  let inner := trim text
  if inner.head? = some '[' || inner.head? = some '{' then
    match Json.read inner with
    | .ok v => .ok v
    | .error .malformed => .ok (.text text)
    | .error (.longNumeral e) => .error e
  else if lower inner = "true".toList then .ok (.bool true)
  else if lower inner = "false".toList then .ok (.bool false)
  else .ok (.text text)

/-- The configuration with what one variable sets. A value is not looked at where it sets nothing. -/
def applyVariable (settings : Settings) (entry : Text × Text) : Except LongNumeral Settings :=
  match variableTarget? entry.1 with
  | none => .ok settings
  | some (tableName, key) =>
    match (Mapping.get? settings tableName).getD (.map []) with
    | .map entries => do
      let v ← variableValue entry.2
      return Mapping.put settings tableName (.map (Mapping.put entries key v))
    | _ => .ok settings

/-- The configuration with what the variables set, one after the other. -/
def applyEnvironment (settings : Settings) (environment : List (Text × Text)) : Except LongNumeral Settings :=
  environment.foldlM applyVariable settings

end SpecAtlas.Config
