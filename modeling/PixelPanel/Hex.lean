import PixelPanel.Octets

/-!
# Hexadecimal text

Two digits an octet, in either case for reading, and with blanks allowed between the octets but not
inside of one.
-/

namespace PixelPanel.Hex

/-- The digit for a value below sixteen, in lower case. -/
def digit (value : Nat) : Char :=
  if value < 10 then Char.ofNat ('0'.toNat + value) else Char.ofNat ('a'.toNat + (value - 10))

/-- The digit for a value below sixteen, in upper case. -/
def upperDigit (value : Nat) : Char :=
  if value < 10 then Char.ofNat ('0'.toNat + value) else Char.ofNat ('A'.toNat + (value - 10))

/-- The value of a digit of either case. -/
def value? (c : Char) : Option Nat :=
  if '0' ≤ c ∧ c ≤ '9' then some (c.toNat - '0'.toNat)
  else if 'a' ≤ c ∧ c ≤ 'f' then some (c.toNat - 'a'.toNat + 10)
  else if 'A' ≤ c ∧ c ≤ 'F' then some (c.toNat - 'A'.toNat + 10)
  else none

/-- The two digits of an octet. -/
def ofOctet (digitOf : Nat → Char) (octet : UInt8) : List Char :=
  [digitOf (octet.toNat / 16), digitOf (octet.toNat % 16)]

/-- Octets in lower case digits. -/
def encode (octets : Octets) : String :=
  String.ofList (octets.flatMap (ofOctet digit))

/-- Octets in upper case digits. -/
def encodeUpper (octets : Octets) : String :=
  String.ofList (octets.flatMap (ofOctet upperDigit))

/-- The digits of a number with at least `width` of them, in lower case. -/
def padded (width value : Nat) : String :=
  let digits := (Nat.toDigits 16 value)
  String.ofList (List.replicate (width - digits.length) '0' ++ digits)

/-- The blanks that may stand between two octets. -/
def isBlank (c : Char) : Bool :=
  c = ' ' ∨ ('\t' ≤ c ∧ c ≤ '\r')

/-- Reads octets of two digits each, with blanks before, between and after them. -/
def decode : List Char → Option Octets
  | [] => some []
  | c :: rest =>
    if isBlank c then decode rest
    else
      match rest with
      | [] => none
      | d :: rest =>
        match value? c, value? d with
        | some high, some low => (decode rest).map (UInt8.ofNat (16 * high + low) :: ·)
        | _, _ => none

end PixelPanel.Hex
