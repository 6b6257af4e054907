/-!
# Ranges of code points

A character class of the Unicode standard is given by the closed ranges of its code points, in
ascending order. The tables of this folder follow version 14.0 of the standard.
-/

namespace SpecAtlas.Text

/-- Whether `n` lies in one of the closed ranges. The ranges ascend, so the search stops at the first
one that begins above `n`. -/
def inRanges : List (Nat × Nat) → Nat → Bool
  | [], _ => false
  | (low, high) :: rest, n => if n < low then false else n ≤ high || inRanges rest n

/-- The ranges ascend and keep apart. -/
def ascending : List (Nat × Nat) → Bool
  | [] => true
  | [r] => r.1 ≤ r.2
  | r :: s :: rest => r.1 ≤ r.2 && r.2 + 1 < s.1 && ascending (s :: rest)

end SpecAtlas.Text
