/-!
# Double precision numbers

A finite number is a mantissa below 2 ^ 53 times a power of two with an exponent from -1074 to 971. A
quotient that lies between two such numbers goes to the nearer one, a tie to the even mantissa.
-/

namespace PixelPanel

/-- A number of double precision. -/
inductive Double
  | nan
  | infinite (negative : Bool)
  | finite (negative : Bool) (mantissa : Nat) (exponent : Int)
  deriving DecidableEq, Repr

namespace Double

/-- Zero without a sign. -/
def zero : Double := .finite false 0 (-1074)

/-- The quotient of two natural numbers, to the nearest, a tie to the even one. -/
def roundQuotient (num den : Nat) : Nat :=
  let quotient := num / den
  let rest := 2 * (num % den)
  if rest < den ∨ (rest = den ∧ quotient % 2 = 0) then quotient else quotient + 1

/-- A quotient times a power of two, as a quotient. -/
def scale (num den : Nat) (exponent : Int) : Nat × Nat :=
  if 0 ≤ exponent then (num * Nat.pow 2 exponent.toNat, den)
  else (num, den * Nat.pow 2 (-exponent).toNat)

/-- The double nearest to a quotient. -/
def ofQuotient (negative : Bool) (num den : Nat) : Double :=
  if num = 0 then .finite negative 0 (-1074)
  else
    let guess : Int := num.log2 - den.log2 - 52
    let (scaledNum, scaledDen) := scale num den (-guess)
    let exponent := max (if scaledNum < scaledDen * Nat.pow 2 52 then guess - 1 else guess) (-1074)
    let (scaledNum, scaledDen) := scale num den (-exponent)
    let mantissa := roundQuotient scaledNum scaledDen
    let (mantissa, exponent) :=
      if mantissa = Nat.pow 2 53 then (Nat.pow 2 52, exponent + 1) else (mantissa, exponent)
    if 971 < exponent then .infinite negative else .finite negative mantissa exponent

/-- The double nearest to `digits` times a power of ten. -/
def ofDecimal (negative : Bool) (digits : Nat) (exponent : Int) : Double :=
  if digits = 0 then .finite negative 0 (-1074)
  else
    let places := (Nat.toDigits 10 digits).length
    if 310 < places + exponent then .infinite negative
    else if places + exponent < -330 then .finite negative 0 (-1074)
    else if 0 ≤ exponent then ofQuotient negative (digits * Nat.pow 10 exponent.toNat) 1
    else ofQuotient negative digits (Nat.pow 10 (-exponent).toNat)

/-- Whether a number is greater than zero. -/
def isPositive : Double → Bool
  | .nan => false
  | .infinite negative => !negative
  | .finite negative mantissa _ => !negative && mantissa != 0

/-- Whether a number is less than zero. -/
def isNegative : Double → Bool
  | .nan => false
  | .infinite negative => negative
  | .finite negative mantissa _ => negative && mantissa != 0

/-- Whether a number is zero, with or without a sign. -/
def isZero : Double → Bool
  | .finite _ mantissa _ => mantissa == 0
  | _ => false

/-- The size of a number as a quotient. -/
def quotient (mantissa : Nat) (exponent : Int) : Nat × Nat :=
  scale mantissa 1 exponent

/-- Whether one number is less than another. Nothing is less than `nan`, and it is less than
nothing. -/
def lt : Double → Double → Bool
  | .nan, _ => false
  | _, .nan => false
  | .infinite negative, .infinite other => negative && !other
  | .infinite negative, .finite .. => negative
  | .finite .., .infinite negative => !negative
  | .finite negative mantissa exponent, .finite negative' mantissa' exponent' =>
    let signed (negative : Bool) (size : Nat) : Int := if negative then -(size : Int) else size
    let (num, den) := quotient mantissa exponent
    let (num', den') := quotient mantissa' exponent'
    signed negative num * den' < signed negative' num' * den

end Double
end PixelPanel
