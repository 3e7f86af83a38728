import PixelPanel.Picture
import PixelPanel.Raster.Indices

/-!
# Pictures for the panel

The panel shows sixteen by sixteen pixels. It takes a palette, which lists the colours of the picture
in the order in which they first occur, and a stream of indices into it, one a pixel. `encode` makes
both of a picture and `decode` gives the pixels back.
-/

namespace PixelPanel

/-- The number of pixels in a row of the panel and the number of its rows. -/
def panelSide : Nat := 16

namespace Raster

/-- Why a picture cannot be encoded or decoded. -/
inductive Fault
  | wrongSize (width height : Nat)
  | indices (fault : Indices.Fault)
  | beyondPalette
  | incompleteColour
  deriving DecidableEq, Repr

/-- The text of a fault. -/
def Fault.message : Fault → String
  | .wrongSize width height =>
    s!"image needs to be {panelSide}x{panelSide}, got: {width}x{height}"
  | .indices fault => fault.message
  | .beyondPalette => "list index out of range"
  | .incompleteColour => "color must be int, or tuple of one, three or four elements"

/-- The distinct colours of a list in the order of their first places. -/
def firstSeen (colours : List Colour) : List Colour :=
  colours.foldl (fun seen colour => if colour ∈ seen then seen else seen ++ [colour]) []

/-- The least number of bits that tells `size` things apart; one thing needs none. -/
def bitsPerIndex (size : Int) : Nat :=
  if size ≤ 1 then 0 else (size - 1).toNat.log2 + 1

/-- A picture as the panel takes it. -/
structure Encoded where
  palette : List Colour
  stream : Octets
  deriving DecidableEq, Repr

/-- The palette as it travels. -/
def Encoded.paletteOctets (encoded : Encoded) : Octets :=
  encoded.palette.flatMap Colour.toOctets

/-- Encodes a picture of the size of the panel. -/
def encode (picture : Picture) : Except Fault Encoded :=
  if picture.width = panelSide ∧ picture.height = panelSide then
    let palette := firstSeen picture.pixels
    let indices := picture.pixels.map fun colour => (palette.idxOf colour : Int)
    match Indices.pack indices (bitsPerIndex palette.length) with
    | .error fault => .error (.indices fault)
    | .ok stream => .ok ⟨palette, stream⟩
  else .error (.wrongSize picture.width picture.height)

/-- The colours of a palette, three octets each. A lone octet at the end is red, two are no colour. -/
def readPalette : Octets → List (Except Fault Colour)
  | red :: green :: blue :: rest => .ok ⟨red, green, blue⟩ :: readPalette rest
  | [red] => [.ok ⟨red, 0, 0⟩]
  | [_, _] => [.error .incompleteColour]
  | [] => []

/-- The pixels of an encoded picture, row by row. -/
def decode (palette stream : Octets) : Except Fault (List Colour) :=
  let colours := readPalette palette
  match Indices.unpack stream (bitsPerIndex colours.length) (panelSide * panelSide : Nat) with
  | .error fault => .error (.indices fault)
  | .ok indices => indices.mapM fun index => (colours[index]?).getD (.error .beyondPalette)

end Raster
end PixelPanel
