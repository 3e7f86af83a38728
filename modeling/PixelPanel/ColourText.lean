import PixelPanel.Hex
import PixelPanel.Picture
import PixelPanel.Text.Blank
import PixelPanel.Text.Lower

/-!
# Colours as text

A colour is written with three or six hexadecimal digits in either case. A mark `#` may stand before
them, and after the mark `0x`. White space at both ends does not count.
-/

namespace PixelPanel.Colour

/-- The text without `start`, if it begins with it. -/
def dropStart (start text : List Char) : List Char :=
  if start.isPrefixOf text then text.drop start.length else text

/-- The colour of three or six digits. -/
def ofDigits? : List Nat → Option Colour
  | [r, g, b] => some ⟨UInt8.ofNat (17 * r), UInt8.ofNat (17 * g), UInt8.ofNat (17 * b)⟩
  | [r₁, r₂, g₁, g₂, b₁, b₂] =>
    some ⟨UInt8.ofNat (16 * r₁ + r₂), UInt8.ofNat (16 * g₁ + g₂), UInt8.ofNat (16 * b₁ + b₂)⟩
  | _ => none

/-- The colour that a text names. -/
def ofText? (text : List Char) : Option Colour := do
  let body := Text.lower (Text.strip text)
  let digits ← (dropStart ['0', 'x'] (dropStart ['#'] body)).mapM Hex.value?
  ofDigits? digits

/-- The text of the error for a text that names no colour. -/
def refusalText (text : String) : String :=
  s!"Invalid color '{text}'. Use hex like #ff0000."

/-- The components as integers. -/
def toInts (colour : Colour) : List Int :=
  [colour.red.toNat, colour.green.toNat, colour.blue.toNat]

end PixelPanel.Colour
