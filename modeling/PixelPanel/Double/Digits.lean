import PixelPanel.Double

/-!
# Decimal digits of doubles

`shortest` finds the fewest digits that still read back as the same double, and of those the nearest
to it. `rounded` gives a fixed number of digits. Both work on exact quotients.
-/

namespace PixelPanel.Double

/-- Decimal digits and the power of ten of the first one: 1.25 is `⟨[1, 2, 5], 0⟩`. -/
structure Digits where
  digits : List Nat
  exponent : Int
  deriving DecidableEq, Repr

/-- The number of decimal digits of a natural number; zero has none. -/
def placeCount (n : Nat) : Nat :=
  if n = 0 then 0 else (Nat.toDigits 10 n).length

/-- The exponent of the greatest power of ten that is not above a quotient of positive numbers. -/
def leadingExponent (num den : Nat) : Int :=
  if den ≤ num then placeCount (num / den) - 1
  else -(placeCount ((den + num - 1) / num - 1) : Int)

/-- A quotient divided by a power of ten, as a quotient. -/
def shiftDecimal (num den : Nat) (exponent : Int) : Nat × Nat :=
  if 0 ≤ exponent then (num, den * Nat.pow 10 exponent.toNat)
  else (num * Nat.pow 10 (-exponent).toNat, den)

/-- The digits of a whole number of units of ten to the `unit`, without zeros at the end. -/
def trimmed (whole : Nat) (unit : Int) : Digits :=
  let digits := (Nat.toDigits 10 whole).map fun c => c.toNat - '0'.toNat
  ⟨(digits.reverse.dropWhile (· == 0)).reverse, unit + digits.length - 1⟩

/-- A quotient with `count` digits, a tie to the even one. -/
def rounded (count num den : Nat) : Digits :=
  let unit := leadingExponent num den - count + 1
  let (num, den) := shiftDecimal num den unit
  trimmed (roundQuotient num den) unit

/-- The bounds of the reals that round to a double, in quarters of its last place: the double itself,
the lower and the upper bound. Below a power of two the numbers lie closer. -/
def quarterBounds (mantissa : Nat) (exponent : Int) : Nat × Nat × Nat :=
  let lower :=
    if mantissa = Nat.pow 2 52 ∧ -1074 < exponent then 4 * mantissa - 1 else 4 * mantissa - 2
  (4 * mantissa, lower, 4 * mantissa + 2)

/-- The whole number of units that reads back as the double, of the two next to it; the nearer one
if both do. -/
def readsBack? (mantissa : Nat) (exponent unit : Int) : Option Nat :=
  let (value, lower, upper) := quarterBounds mantissa exponent
  let (num, den) := quotient value (exponent - 2)
  let (num, den) := shiftDecimal num den unit
  let below := num / den
  let above := below + 1
  -- A candidate is compared in quarters of the last place, times what makes both sides whole.
  let inside (candidate : Nat) : Bool :=
    let position := candidate * den * value
    let (low, high) := (num * lower, num * upper)
    if mantissa % 2 = 0 then decide (low ≤ position) && decide (position ≤ high)
    else decide (low < position) && decide (position < high)
  match inside below && 0 < below, inside above with
  | true, true =>
    let down := num - below * den
    let up := above * den - num
    if down < up ∨ (down = up ∧ below % 2 = 0) then some below else some above
  | true, false => some below
  | false, true => some above
  | false, false => none

/-- The first of `counts` of digits that reads back. -/
def firstReadingBack (mantissa : Nat) (exponent leading : Int) : List Nat → Digits
  | [] => ⟨[], 0⟩
  | count :: rest =>
    let unit := leading - count + 1
    match readsBack? mantissa exponent unit with
    | some whole => trimmed whole unit
    | none => firstReadingBack mantissa exponent leading rest

/-- The fewest digits that read back as a positive double, and of those the nearest. -/
def shortest (mantissa : Nat) (exponent : Int) : Digits :=
  let (num, den) := quotient mantissa exponent
  firstReadingBack mantissa exponent (leadingExponent num den) ((List.range 17).map (· + 1))

end PixelPanel.Double
