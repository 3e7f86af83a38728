import PixelPanel.Double
import PixelPanel.Text.Blank
import PixelPanel.Text.Digit

/-!
# Numbers as people write them

White space may stand around a number, a sign before it, and single low lines between its digits. The
digits can be those of any script.
-/

namespace PixelPanel.Text

/-- Whether white space may stand around a number. The separators of ASCII may not. -/
def isNumberBlank (c : Char) : Bool :=
  isBlank c && !(0x1C ≤ c.toNat && c.toNat ≤ 0x1F)

/-- A text without the white space around a number. -/
def stripNumber (text : List Char) : List Char :=
  ((text.dropWhile isNumberBlank).reverse.dropWhile isNumberBlank).reverse

/-- The digits of all scripts become those of ASCII. -/
def plainDigits (text : List Char) : List Char :=
  text.map fun c =>
    match digit? c with
    | some value => Char.ofNat ('0'.toNat + value)
    | none => c

/-- A sign and what follows it; `true` stands for minus. -/
def splitSign : List Char → Bool × List Char
  | '-' :: rest => (true, rest)
  | '+' :: rest => (false, rest)
  | rest => (false, rest)

/-- Whether every low line stands between two digits. -/
def linesBetweenDigits : List Char → Bool
  | [] => true
  | c :: rest =>
    match rest with
    | '_' :: after =>
      c.isDigit && (after.head?.map Char.isDigit).getD false && linesBetweenDigits rest
    | _ => linesBetweenDigits rest

/-- A text without its low lines, if all of them may be there. -/
def dropLines (text : List Char) : Option (List Char) :=
  if text.head? = some '_' then none
  else if linesBetweenDigits text then some (text.filter (· ≠ '_'))
  else none

/-- Reads an integer. -/
def readInteger? (text : String) : Option Int := do
  let (negative, body) := splitSign (plainDigits (stripNumber text.toList))
  let digits ← dropLines body
  if digits.isEmpty ∨ !digits.all Char.isDigit ∨ maxIntegerDigits < digits.length then none
  else
    let size : Int := digitsValue digits
    some (if negative then -size else size)

/-- Reads the exponent of a number, from its letter on. -/
def readExponent? : List Char → Option Int
  | [] => some 0
  | mark :: rest =>
    if mark = 'e' ∨ mark = 'E' then
      let (negative, digits) := splitSign rest
      if digits.isEmpty ∨ !digits.all Char.isDigit then none
      else some (if negative then -(digitsValue digits : Int) else digitsValue digits)
    else none

/-- Reads the digits of a number, a point among them or beside them, and its exponent. -/
def readDecimal? (negative : Bool) (text : List Char) : Option Double := do
  let (whole, rest) := text.span Char.isDigit
  let (fraction, rest) :=
    match rest with
    | '.' :: rest => rest.span Char.isDigit
    | rest => ([], rest)
  if whole.isEmpty ∧ fraction.isEmpty then none
  else
    let exponent ← readExponent? rest
    some (.ofDecimal negative (digitsValue (whole ++ fraction)) (exponent - fraction.length))

/-- Reads a number, which may also be infinite or none at all. -/
def readNumber? (text : String) : Option Double := do
  let body ← dropLines (plainDigits (stripNumber text.toList))
  let (negative, body) := splitSign body
  let word := String.ofList (lowerAscii body)
  if word = "inf" ∨ word = "infinity" then some (.infinite negative)
  else if word = "nan" then some .nan
  else readDecimal? negative body

end PixelPanel.Text
