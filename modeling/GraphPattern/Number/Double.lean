/-!
# Double-precision numbers, exactly

Every finite double is a whole multiple of `2^-1074`, the smallest positive
one. A double is kept as that multiple, so equality of numbers is equality of
integers and no step of a comparison rounds. Only reading a decimal rounds: to
the nearest double, and a tie to the one with an even significand.
-/

namespace GraphPattern

/-- A double-precision number. Zero carries a sign; a number too large to be finite is infinite. A
text may also name a double that is no number; it is only the same as itself. -/
inductive Double where
  /-- The magnitude is `units * 2^-1074`. -/
  | finite (negative : Bool) (units : Nat)
  /-- A magnitude of at least `2^1024` after rounding. -/
  | infinite (negative : Bool)
  /-- No number. -/
  | undefined
  deriving DecidableEq, Inhabited

namespace Double

/-- A power of two. -/
def twoTo (exponent : Nat) : Nat := Nat.pow 2 exponent

/-- A power of ten. -/
def tenTo (exponent : Nat) : Nat := Nat.pow 10 exponent

/-- How many units make one: a whole number is this many times as many units. -/
def unitsPerOne : Nat := twoTo 1074

/-- The first magnitude that is no longer finite, in units. -/
def unitsLimit : Nat := twoTo (1024 + 1074)

/-- The exponent of the gap between a magnitude and the next larger one: a significand has 53
bits, and no gap is below one unit. -/
def gapExponent (units : Nat) : Nat := units.log2 + 1 - 53

/-- The whole number nearest to a quotient, a tie going to the even neighbour. -/
def divideToEven (numerator denominator : Nat) : Nat :=
  let quotient := numerator / denominator
  let remainder := numerator % denominator
  if 2 * remainder < denominator then quotient
  else if 2 * remainder = denominator then quotient + quotient % 2
  else quotient + 1

/-- The double nearest to a quotient of units. -/
def ofUnits (negative : Bool) (numerator denominator : Nat) : Double :=
  let gap := twoTo (gapExponent (numerator / denominator))
  let units := divideToEven numerator (denominator * gap) * gap
  if units < unitsLimit then .finite negative units else .infinite negative

/-- The double nearest to `digits * 10^exponent`. Beyond 400 places on either side of the point
every magnitude is infinite or zero, so no larger power of ten is built. -/
def ofDecimal (negative : Bool) (digits : Nat) (exponent : Int) : Double :=
  let places := exponent + (Nat.toDigits 10 digits).length
  if digits = 0 || places < -400 then .finite negative 0
  else if 400 < places then .infinite negative
  else if 0 ≤ exponent then ofUnits negative (digits * tenTo exponent.toNat * unitsPerOne) 1
  else ofUnits negative (digits * unitsPerOne) (tenTo (-exponent).toNat)

/-- A tie goes to the even neighbour, above it or below it. -/
theorem divideToEven_tie (quotient half : Nat) (positive : 0 < half) :
    divideToEven (quotient * (2 * half) + half) (2 * half) = quotient + quotient % 2 := by
  have remainder : (quotient * (2 * half) + half) % (2 * half) = half := by
    rw [Nat.mul_comm, Nat.mul_add_mod]
    exact Nat.mod_eq_of_lt (by omega)
  have whole : (quotient * (2 * half) + half) / (2 * half) = quotient := by
    rw [Nat.mul_comm quotient, Nat.mul_add_div (by omega), Nat.div_eq_of_lt (by omega)]
    rfl
  unfold divideToEven
  rw [whole, remainder, if_neg (by omega), if_pos rfl]

end Double

/-- An exact number, as comparisons see it: a whole number, a finite double that is none, an
infinity, or no number. Each number has one form only. -/
inductive Magnitude where
  /-- A whole number, however it is written. -/
  | whole (number : Int)
  /-- A number of units of `2^-1074` that do not make a whole number. -/
  | fraction (units : Int)
  /-- One of the two infinities. -/
  | infinite (negative : Bool)
  /-- No number. -/
  | undefined
  deriving DecidableEq, Inhabited

/-- The exact number that a double stands for; both zeros are zero. -/
def Double.magnitude : Double → Magnitude
  | .finite negative units =>
    let sign : Int := if negative then -1 else 1
    if units % unitsPerOne = 0 then .whole (sign * (units / unitsPerOne : Nat))
    else .fraction (sign * units)
  | .infinite negative => .infinite negative
  | .undefined => .undefined

end GraphPattern
