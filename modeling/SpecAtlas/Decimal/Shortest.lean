import SpecAtlas.Decimal.Binary64

/-!
# The shortest decimal of a binary number

The decimals that read back to one member of the binary format form an interval: from halfway to
the member below to halfway to the member above, the ends included exactly when the significand is
even. Below a power of two the members lie twice as dense, so there the lower half is narrower.

`shortest` tries the grids of one digit, two digits and so on. If any point of a grid lies in the
interval, one of the value's two neighbours on that grid does, so the first grid with a hit gives
the fewest digits. Of two hits the nearer is taken, and of two equally near the one that ends in an
even digit.
-/

namespace SpecAtlas.Decimal

open Binary64 (pow2 pow10)

/-- The decimal `digits * 10 ^ scale`. -/
structure Dec where
  digits : Nat
  scale : Int
  deriving DecidableEq, Repr

/-- A positive member of the binary format in units of a quarter of its last place: the member is
`4 * significand` units of `2 ^ exponent / 2 ^ 1076`. -/
structure Quarters where
  significand : Nat
  exponent : Nat

namespace Quarters

/-- The value as a quotient of natural numbers. -/
def num (x : Quarters) : Nat := 4 * x.significand * pow2 x.exponent

/-- The common denominator of all members. -/
def den : Nat := pow2 1076

/-- The distance to the lower end of the interval, in quarters: half of a place, and half of that
below a power of two. -/
def below (x : Quarters) : Nat :=
  if x.significand = pow2 52 && 0 < x.exponent then 1 else 2

/-- The lower end of the interval over `den`. -/
def low (x : Quarters) : Nat := (4 * x.significand - x.below) * pow2 x.exponent

/-- The upper end of the interval over `den`. -/
def high (x : Quarters) : Nat := (4 * x.significand + 2) * pow2 x.exponent

/-- Whether a decimal lies in the interval, so that it reads back to this member. -/
def readsBack (x : Quarters) (d : Dec) : Bool :=
  let value := d.digits * pow10 d.scale.toNat * den
  let unit := pow10 (-d.scale).toNat
  if x.significand % 2 = 0 then x.low * unit ≤ value && value ≤ x.high * unit
  else x.low * unit < value && value < x.high * unit

end Quarters

/-- The number of decimal digits of a natural number; zero has none. -/
def width (n : Nat) : Nat := if n = 0 then 0 else (Nat.toDigits 10 n).length

/-- The least `k` with `num / den < 10 ^ k`, for a positive quotient. -/
def magnitude (num den : Nat) : Int :=
  if den ≤ num then width (num / den)
  else
    -- Here `10 ^ (d - 1) ≤ den / num < 10 ^ d`, and the lower bound is met only by a power of ten.
    let d := width (den / num)
    if den = num * pow10 (d - 1) then 2 - d else 1 - d

/-- The hit on the grid of spacing `10 ^ scale`, if there is one. -/
def onGrid (x : Quarters) (scale : Int) : Option Dec :=
  let num := x.num * pow10 (-scale).toNat
  let den := Quarters.den * pow10 scale.toNat
  let floor := num / den
  let lower := Dec.mk floor scale
  let upper := Dec.mk (floor + 1) scale
  match x.readsBack lower, x.readsBack upper with
  | false, false => none
  | true, false => some lower
  | false, true => some upper
  | true, true =>
    let r := 2 * (num % den)
    if r < den || (r = den && floor % 2 = 0) then some lower else some upper

/-- The first hit on the grids with `n`, `n + 1`, … digits, at most `fuel` of them. -/
def search (x : Quarters) (top : Int) : Nat → Nat → Option Dec
  | _, 0 => none
  | n, fuel + 1 =>
    match onGrid x (top - n) with
    | some d => some d
    | none => search x top (n + 1) fuel

/-- The decimal with the fewest digits that reads back to a positive member of the format. Seventeen
digits always suffice; the exact value stands in if they should not. -/
def shortest (x : Quarters) : Dec :=
  match search x (magnitude x.num Quarters.den) 1 17 with
  | some d => d
  | none => ⟨x.num * Nat.pow 5 1076, -1076⟩

end SpecAtlas.Decimal
