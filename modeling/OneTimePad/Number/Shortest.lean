import OneTimePad.Number.Binary64

/-!
# Shortest decimals

The decimal that a double-precision number is shown as: of all decimals that
are nearer to this number than to any other, one with the fewest digits, and of
those the nearest.  Everything is exact: a number is compared with points of a
decimal grid by cross-multiplication.
-/

namespace OneTimePad

/-- The decimal `digits * 10 ^ exponent`. -/
structure Decimal where
  digits : Nat
  exponent : Int
deriving DecidableEq, Repr

namespace Binary64

/-- A ratio of two naturals, the second one positive. -/
structure Ratio where
  above : Nat
  below : Nat
deriving DecidableEq, Repr

/-- A power of ten, which may be negative. -/
def powerOfTen (exponent : Int) : Ratio :=
  if exponent < 0 then ⟨1, Nat.pow 10 exponent.natAbs⟩ else ⟨Nat.pow 10 exponent.natAbs, 1⟩

/-- The number itself and the ends of the interval of reals that round to it,
as multiples of a quarter of its last place. -/
structure Interval where
  low : Nat
  value : Nat
  high : Nat
  /-- Whether the ends round to the number too. -/
  closed : Bool
  /-- A quarter of the last place. -/
  unit : Ratio
deriving Repr

/-- The interval of reals that round to a finite positive number.  Below a
power of two the numbers lie twice as close. -/
def interval (number : Binary64) : Interval :=
  let value := number.scaled
  let low := if value.mantissa = leadingOne ∧ value.exponent ≠ 0 then 1 else 2
  { low := 4 * value.mantissa - low, value := 4 * value.mantissa, high := 4 * value.mantissa + 2
    closed := value.mantissa % 2 = 0, unit := ⟨1 <<< value.exponent, 1 <<< 1076⟩ }

/-- Whether a multiple of a power of ten lies in an interval. -/
def Interval.holds (range : Interval) (multiple : Nat) (step : Ratio) : Bool :=
  let point := multiple * step.above * range.unit.below
  let low := range.low * range.unit.above * step.below
  let high := range.high * range.unit.above * step.below
  if range.closed then low ≤ point && point ≤ high else low < point && point < high

/-- The point of a decimal grid that stands for a number, if one of the two
points around it lies in its interval.  Of two such points the nearer one is
taken, and the upper one at equal distances. -/
def onGrid (range : Interval) (exponent : Int) : Option Nat :=
  let step := powerOfTen exponent
  let value := range.value * range.unit.above * step.below
  let grid := step.above * range.unit.below
  let lower := value / grid
  let upper := lower + 1
  match range.holds lower step, range.holds upper step with
  | true, true => some (if 2 * (value % grid) < grid then lower else upper)
  | true, false => some lower
  | false, true => some upper
  | false, false => none

/-- The exponent of the highest digit of a finite positive number: the greatest
one of `candidates` for which the power of ten is not above it. -/
def highestDigit (range : Interval) (candidates : List Int) : Int :=
  let reaches (exponent : Int) : Bool :=
    let step := powerOfTen exponent
    step.above * range.unit.below ≤ range.value * range.unit.above * step.below
  (candidates.find? reaches).getD (-324)

/-- All exponents that the highest digit of a finite number can have, from the
greatest one. -/
def digitExponents : List Int :=
  (List.range 633).map fun (index : Nat) => 308 - (index : Int)

/-- Take zeros off the end of a decimal, at most `turns` of them. -/
def dropZeros : (turns : Nat) → Decimal → Decimal
  | 0, decimal => decimal
  | turns + 1, decimal =>
      if decimal.digits % 10 = 0 then dropZeros turns ⟨decimal.digits / 10, decimal.exponent + 1⟩
      else decimal

/-- The shortest decimal of a finite positive number.  Seventeen digits always
suffice. -/
def shortest (number : Binary64) : Decimal :=
  let range := number.interval
  let highest := highestDigit range digitExponents
  let attempt (index : Nat) : Option Decimal :=
    let exponent := highest - (index : Int)
    (onGrid range exponent).map fun digits => ⟨digits, exponent⟩
  dropZeros 17 (((List.range 17).findSome? attempt).getD ⟨0, 0⟩)

/-! ## Layout -/

/-- The exponents of the highest digit for which a number is written without an
exponent. -/
def isPositional (highest : Int) : Bool :=
  -5 < highest && highest < 16

/-- Digits with a point after the first `whole` of them.  One digit at least
stands on either side. -/
def placePoint (digits : List Char) (whole : Int) : List Char :=
  if whole ≤ 0 then '0' :: '.' :: List.replicate whole.natAbs '0' ++ digits
  else
    let front := digits.take whole.toNat ++ List.replicate (whole.toNat - digits.length) '0'
    let back := digits.drop whole.toNat
    front ++ '.' :: (if back = [] then ['0'] else back)

/-- Digits with a point after the first one, if there are more, and an
exponent. -/
def withExponent (digits : List Char) (highest : Int) : List Char :=
  let point := if digits.length ≤ 1 then [] else ['.']
  digits.take 1 ++ point ++ digits.drop 1 ++ 'e' :: (toString highest).toList

/-- A finite magnitude as text. -/
def describeMagnitude (number : Binary64) : List Char :=
  if number.magnitude = 0 then ['0', '.', '0']
  else
    let decimal := number.shortest
    let digits := Nat.toDigits 10 decimal.digits
    let highest := decimal.exponent + (digits.length : Int) - 1
    if isPositional highest then placePoint digits (highest + 1)
    else withExponent digits highest

/-- A number as text. -/
def describe (number : Binary64) : String :=
  if infinity < number.magnitude then "NaN"
  else
    let sign := if number.isNegative then ['-'] else []
    let magnitude :=
      if number.magnitude = infinity then ['i', 'n', 'f'] else number.describeMagnitude
    String.ofList (sign ++ magnitude)

end Binary64

end OneTimePad
