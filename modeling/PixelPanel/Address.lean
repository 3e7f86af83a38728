import PixelPanel.Hex
import PixelPanel.Text.Blank
import PixelPanel.Text.Quoted

/-!
# Device addresses

A device has an address of six octets. People write them from the highest octet down, with colons;
the system keeps them from the lowest octet up. `Address.ofText?` reads what people write, and
`Address.text` writes it.
-/

namespace PixelPanel.Address

/-- Whether a character only separates octets of a written address. -/
def isSeparator (c : Char) : Bool :=
  c = ':' ∨ c = '-'

/-- The octets of a written address from the lowest up. Separators may stand anywhere, and white
space at the ends and between octets. -/
def ofText? (text : List Char) : Option Octets := do
  let octets ← Hex.decode ((Text.strip text).filter fun c => !isSeparator c)
  if octets.length = 6 then some octets.reverse else none

/-- Two upper case digits an octet from the last octet down, with colons between them. -/
def text (octets : Octets) : String :=
  ":".intercalate (octets.reverse.map fun octet => Hex.encodeUpper [octet])

/-- The text of the error for a text that is no address. -/
def refusalText (text : String) : String :=
  "invalid mac " ++ Text.quoted text

end PixelPanel.Address
