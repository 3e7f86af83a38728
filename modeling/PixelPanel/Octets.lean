/-!
# Octet strings

What travels over the link is a list of octets. This file holds the sixteen bit words with the low
octet first, the number that a list of octets stands for, and the hexadecimal text of octets.
-/

namespace PixelPanel

/-- A string of octets in the order in which they travel. -/
abbrev Octets := List UInt8

namespace Octets

/-- The sum of all octets. -/
def total (octets : Octets) : Nat :=
  octets.foldr (fun octet rest => octet.toNat + rest) 0

/-- The two low octets of a number, low octet first. -/
def word (n : Nat) : Octets :=
  [UInt8.ofNat n, UInt8.ofNat (n / 256)]

/-- The number that two octets stand for, low octet first. -/
def ofWord (low high : UInt8) : Nat :=
  low.toNat + 256 * high.toNat

/-- The number that a list of octets stands for, low octet first. -/
def toNumber : Octets → Nat
  | [] => 0
  | octet :: rest => octet.toNat + 256 * toNumber rest

/-- The low `width` octets of a number, low octet first. -/
def ofNumber : Nat → Nat → Octets
  | 0, _ => []
  | width + 1, n => UInt8.ofNat n :: ofNumber width (n / 256)

/-- The octet that two's complement gives an integer. -/
def ofInt (n : Int) : UInt8 :=
  UInt8.ofNat (n % 256).toNat

/-- The sixteen bit word that two's complement gives an integer. -/
def wordOfInt (n : Int) : Octets :=
  word (n % 65536).toNat

/-- Integers as octets, refused if one of them is not an octet. -/
def ofInts? (values : List Int) : Option Octets :=
  values.mapM fun value =>
    if 0 ≤ value ∧ value < 256 then some (UInt8.ofNat value.toNat) else none

/-- The text of the error for integers that are not octets. -/
def refusalText : String := "byte must be in range(0, 256)"

end Octets
end PixelPanel
