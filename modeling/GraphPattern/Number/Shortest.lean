import GraphPattern.Number.Double

/-!
# Shortest decimal text of a double

The digits shown are the fewest that read back as the same double, and of those
the nearest to it, a tie going to the even last digit. They are searched for on
decimal grids of one, two, and so on up to seventeen digits, in exact arithmetic:
a grid that meets the interval of numbers rounding to the double does so at one
of the double's two neighbours on the grid.
-/

namespace GraphPattern

/-- The number `digits * 10^exponent`. -/
structure Decimal where
  /-- The significant digits. -/
  digits : Nat
  /-- The power of ten that scales them. -/
  exponent : Int

namespace Double

/-- Compares `candidate * 10^exponent` with `quarters` quarters of a unit, as the two sides of a
comparison of whole numbers. -/
def onGrid (candidate : Nat) (exponent : Int) (quarters : Nat) : Nat × Nat :=
  if 0 ≤ exponent then (candidate * tenTo exponent.toNat * (4 * unitsPerOne), quarters)
  else (candidate * (4 * unitsPerOne), quarters * tenTo (-exponent).toNat)

/-- Whether a point of a decimal grid rounds to the given magnitude. Half the gap lies on either
side, a quarter below a power of two; the ends belong to an even significand. -/
def reads (units candidate : Nat) (exponent : Int) : Bool :=
  let gap := twoTo (gapExponent units)
  let below := if units = twoTo 52 * gap ∧ 1 < gap then gap else 2 * gap
  let (point, low) := onGrid candidate exponent (4 * units - below)
  let (_, high) := onGrid candidate exponent (4 * units + 2 * gap)
  if units / gap % 2 = 0 then decide (low ≤ point ∧ point ≤ high)
  else decide (low < point ∧ point < high)

/-- The power of ten just above a positive magnitude: the least exponent with
`units < 10^exponent` units of one. -/
def decimalPlace (units : Nat) : Int :=
  if unitsPerOne ≤ units then (Nat.toDigits 10 (units / unitsPerOne)).length
  else
    let leading := (List.range 324).find? fun zeros => unitsPerOne ≤ units * tenTo (zeros + 1)
    Int.neg (leading.getD 324 : Nat)

/-- The neighbours of a magnitude on the grid of `10^exponent` that read back as it, the nearer
one first; of two that are equally near, the even one. -/
def neighbours (units : Nat) (exponent : Int) : List Nat :=
  let (one, quarters) := onGrid 1 exponent (4 * units)
  let lower := quarters / one
  let ordered :=
    if divideToEven quarters one = lower then [lower, lower + 1] else [lower + 1, lower]
  ordered.filter fun candidate => reads units candidate exponent

/-- The shortest decimal that reads back as a positive magnitude. -/
def shortest (units : Nat) : Decimal :=
  let place := decimalPlace units
  let grids := (List.range 17).filterMap fun (count : Nat) =>
    let exponent : Int := place - (count + 1 : Nat)
    (neighbours units exponent).head?.map fun digits => Decimal.mk digits exponent
  grids.headD ⟨units, 0⟩

end Double

/-- How digits become text. -/
structure DecimalLayout where
  /-- The least exponent of the leading digit written without an exponent mark. -/
  leastPositional : Int
  /-- The greatest exponent of the leading digit written without an exponent mark. -/
  greatestPositional : Int
  /-- The least number of digits of a written exponent. -/
  exponentWidth : Nat

/-- A decimal point always shows when there is no exponent, and the exponent, when there is one,
has a sign and at least two digits. -/
def Double.layout : DecimalLayout := ⟨-4, 15, 2⟩

/-- Digits without the zeros at their end. -/
def withoutTrailingZeros (digits : List Char) : List Char :=
  (digits.reverse.dropWhile (· == '0')).reverse

/-- The text of a positive decimal under a layout. -/
def Decimal.render (decimal : Decimal) (layout : DecimalLayout) : List Char :=
  let all := Nat.toDigits 10 decimal.digits
  let digits := withoutTrailingZeros all
  let leading := decimal.exponent + all.length - 1
  if leading < layout.leastPositional || layout.greatestPositional < leading then
    let mantissa := match digits with
      | first :: second :: rest => first :: '.' :: second :: rest
      | short => short
    let exponent := Nat.toDigits 10 leading.natAbs
    let padding := List.replicate (layout.exponentWidth - exponent.length) '0'
    mantissa ++ 'e' :: (if leading < 0 then '-' else '+') :: padding ++ exponent
  else if leading < 0 then
    '0' :: '.' :: List.replicate (leading.natAbs - 1) '0' ++ digits
  else
    let whole := digits.take (leading.toNat + 1)
    let fraction := digits.drop (leading.toNat + 1)
    whole ++ List.replicate (leading.toNat + 1 - digits.length) '0' ++
      '.' :: (if fraction.isEmpty then ['0'] else fraction)

/-- The text of a double. -/
def Double.render : Double → String
  | .finite negative units =>
    let magnitude :=
      if units = 0 then ['0', '.', '0'] else (shortest units).render layout
    String.ofList (if negative then '-' :: magnitude else magnitude)
  | .infinite negative => if negative then "-inf" else "inf"
  | .undefined => "nan"

end GraphPattern
