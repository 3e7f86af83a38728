import PixelPanel.Raster

/-!
# Frames

A frame is an encoded picture behind a head of seven octets: a mark, the size of the whole frame, the
time to show it in milliseconds, a fixed zero and the number of colours. Size and time are words, and
the number of colours is an octet, so that 256 colours are written as zero.
-/

namespace PixelPanel.Frame

/-- The octet that every frame begins with. -/
def mark : UInt8 := 0xAA

/-- The octet that makes the panel forget the palette of the frame before. -/
def paletteReset : UInt8 := 0x00

/-- The number of octets before the palette. -/
def headSize : Nat := 7

/-- The frame of a picture and the time to show it. A time of zero holds the picture. -/
def build (picture : Picture) (duration : Int) : Except Raster.Fault Octets :=
  match Raster.encode picture with
  | .error fault => .error fault
  | .ok encoded =>
    let palette := encoded.paletteOctets
    let size := headSize + palette.length + encoded.stream.length
    .ok (mark :: Octets.word size ++ Octets.wordOfInt duration ++
      [paletteReset, UInt8.ofNat encoded.palette.length] ++ palette ++ encoded.stream)

/-- The frames of pictures with their times, one after the other. -/
def buildAll : List (Picture × Int) → Except Raster.Fault Octets
  | [] => .ok []
  | (picture, duration) :: rest =>
    match build picture duration with
    | .error fault => .error fault
    | .ok frame =>
      match buildAll rest with
      | .error fault => .error fault
      | .ok frames => .ok (frame ++ frames)

end PixelPanel.Frame
