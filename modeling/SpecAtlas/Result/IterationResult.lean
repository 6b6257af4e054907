import SpecAtlas.Value
import SpecAtlas.Event

/-!
# Results of iterations

What one executed iteration came to. It failed if there is an error text, and only then.
-/

namespace SpecAtlas.Result

/-- The result of one executed iteration. -/
structure IterationResult where
  index : Nat
  displayName : Text
  parameters : Mapping Value
  /-- Seconds; zero if they are not known. -/
  duration : Binary64
  /-- The line of the console, or the name in the report, that the result was read from. -/
  output : Text
  error : Option Text

/-- Whether an iteration succeeded. -/
def IterationResult.success (r : IterationResult) : Bool := r.error.isNone

end SpecAtlas.Result
