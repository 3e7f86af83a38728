import PixelPanel.Double.Digits

/-!
# Doubles as text

A number is written with its digits in place, or with one digit before the point and an exponent if
it is very large or very small. `plain` writes the shortest digits and always shows a point,
`general` writes up to six digits and no point without need.
-/

namespace PixelPanel.Double

/-- How a number is written. -/
structure Style where
  /-- The least exponent written in place. -/
  lowest : Int
  /-- The first exponent that is not written in place. -/
  highest : Int
  /-- Whether a whole number shows a point and a zero. -/
  pointed : Bool

/-- The style of exact numbers. -/
def Style.plain : Style := ⟨-4, 16, true⟩

/-- The style of rounded numbers. -/
def Style.general : Style := ⟨-4, 6, false⟩

/-- Digits as text. -/
def digitText (digits : List Nat) : String :=
  String.ofList (digits.map fun digit => Char.ofNat ('0'.toNat + digit))

/-- An exponent with its sign and at least two digits. -/
def exponentText (exponent : Int) : String :=
  let size := toString exponent.natAbs
  (if exponent < 0 then "e-" else "e+") ++ (if exponent.natAbs < 10 then "0" else "") ++ size

/-- Writes digits in a style. -/
def Style.write (style : Style) (number : Digits) : String :=
  let count : Int := number.digits.length
  if number.exponent < style.lowest ∨ style.highest ≤ number.exponent then
    let head := number.digits.take 1
    let tail := number.digits.drop 1
    digitText head ++ (if tail.isEmpty then "" else "." ++ digitText tail) ++
      exponentText number.exponent
  else if number.exponent < 0 then
    "0." ++ digitText (List.replicate (-number.exponent - 1).toNat 0 ++ number.digits)
  else if count ≤ number.exponent + 1 then
    digitText (number.digits ++ List.replicate (number.exponent + 1 - count).toNat 0) ++
      (if style.pointed then ".0" else "")
  else
    digitText (number.digits.take (number.exponent + 1).toNat) ++ "." ++
      digitText (number.digits.drop (number.exponent + 1).toNat)

/-- Writes a number in a style, with the digits that `digitsOf` finds. -/
def write (style : Style) (digitsOf : Nat → Int → Digits) : Double → String
  | .nan => "nan"
  | .infinite negative => if negative then "-inf" else "inf"
  | .finite negative mantissa exponent =>
    let digits := if mantissa = 0 then ⟨[0], 0⟩ else digitsOf mantissa exponent
    (if negative then "-" else "") ++ style.write digits

/-- The shortest text that reads back as the same number. -/
def plainText (number : Double) : String :=
  number.write .plain shortest

/-- A number with six digits at most. -/
def generalText (number : Double) : String :=
  number.write .general fun mantissa exponent =>
    let (num, den) := quotient mantissa exponent
    rounded 6 num den

end PixelPanel.Double
