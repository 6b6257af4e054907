import SpecAtlas.Mapping
import SpecAtlas.Moment
import SpecAtlas.Decimal.Binary64

/-!
# Values

The values that data tables and pipes hold, that a report prints as parameters, that events carry
as details and that settings have. They are dynamic because the sources they come from are: a cell
of a table may hold anything that a test author can write down.
-/

namespace SpecAtlas

/-- A value of a literal, a parameter, an event detail or a setting. -/
inductive Value where
  | null
  | bool (b : Bool)
  | int (n : Int)
  | float (x : Binary64)
  | text (t : Text)
  | moment (m : Moment)
  | list (items : List Value)
  | map (entries : List (Text × Value))
  deriving Repr, Inhabited, BEq

end SpecAtlas
