/-!
# Binary64 numbers

The numbers of the 64-bit binary format, as data: a finite number is a sign, a significand and an
exponent, and its value is

  `significand * 2 ^ exponent / 2 ^ 1074`.

The library reads and prints such numbers and never computes with them, so two operations are
enough: rounding a quotient of natural numbers to the nearest member of the format, and the same
for a decimal. A tie goes to the even significand; what is at least half a unit beyond the greatest
member becomes infinite.
-/

namespace SpecAtlas

/-- A number of the 64-bit binary format. -/
inductive Binary64 where
  | nan
  | infinite (negative : Bool)
  | finite (negative : Bool) (significand exponent : Nat)
  deriving DecidableEq, Repr

namespace Binary64

/-- A power of two. -/
def pow2 (n : Nat) : Nat := Nat.pow 2 n

/-- A power of ten. -/
def pow10 (n : Nat) : Nat := Nat.pow 10 n

/-- The quotient of two natural numbers, rounded to the nearest; a tie goes to the even neighbour. -/
def roundDiv (num den : Nat) : Nat :=
  let q := num / den
  let r := num % den
  if 2 * r < den then q else if den < 2 * r then q + 1 else q + q % 2

/-- A rounded quotient is at most half a unit away. -/
theorem roundDiv_near (num den : Nat) (h : 0 < den) :
    2 * (roundDiv num den * den) ≤ 2 * num + den ∧ 2 * num ≤ 2 * (roundDiv num den * den) + den := by
  have e : den * (num / den) + num % den = num := Nat.div_add_mod num den
  have l : num % den < den := Nat.mod_lt _ h
  have c : num / den * den = den * (num / den) := Nat.mul_comm ..
  have s : (num / den + 1) * den = den * (num / den) + den := by rw [Nat.add_mul, c, Nat.one_mul]
  simp only [roundDiv]
  generalize num % den = r at *
  split
  · omega
  · split
    · omega
    · rcases Nat.mod_two_eq_zero_or_one (num / den) with h | h <;> rw [h]
      · rw [Nat.add_zero]; omega
      · omega

/-- Zero, with its sign. -/
def zero (negative : Bool) : Binary64 := finite negative 0 0

/-- The member of the format nearest to `num / den`. -/
def ofRatio (negative : Bool) (num den : Nat) : Binary64 :=
  let scaled := num * pow2 1074
  let exponent := Nat.log2 (scaled / den) - 52
  let significand := roundDiv scaled (den * pow2 exponent)
  let (significand, exponent) :=
    if significand = pow2 53 then (pow2 52, exponent + 1) else (significand, exponent)
  if 2045 < exponent then infinite negative else finite negative significand exponent

/-- The member of the format nearest to `digits * 10 ^ scale`. Decimals far outside the format are
told by the place of their first digit, so no power of ten is built for them. -/
def ofDecimal (negative : Bool) (digits : Nat) (scale : Int) : Binary64 :=
  let top := ((Nat.toDigits 10 digits).length : Int) + scale
  if digits = 0 || top < -340 then zero negative
  else if 320 < top then infinite negative
  else
    match scale with
    | .ofNat n => ofRatio negative (digits * pow10 n) 1
    | .negSucc n => ofRatio negative digits (pow10 (n + 1))

/-- Whether a number is a zero of either sign. -/
def isZero : Binary64 → Bool
  | finite _ 0 _ => true
  | _ => false

end Binary64

end SpecAtlas
