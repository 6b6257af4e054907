import SpecAtlas.Value
import SpecAtlas.Mapping

/-!
# Merging configurations

A configuration is a mapping of sections, which are mappings themselves. `merge` lays one over
another: where both have a mapping their entries are merged, and everywhere else the upper one wins.
-/

namespace SpecAtlas.Config

/-- A configuration. -/
abbrev Settings := Mapping Value

mutual

/-- The entries of `upper` laid over `base`, one after the other. -/
def merge (base : Mapping Value) (upper : List (Text × Value)) : Mapping Value :=
  match upper with
  | [] => base
  | (key, v) :: rest => merge (Mapping.put base key (mergeValue (Mapping.get? base key) v)) rest

/-- A value laid over what is in its place. -/
def mergeValue (base : Option Value) (upper : Value) : Value :=
  match upper with
  | .map entries =>
    match base with
    | some (.map under) => .map (merge under entries)
    | _ => .map entries
  | v => v

end

end SpecAtlas.Config
