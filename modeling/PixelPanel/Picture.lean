import PixelPanel.Octets

/-!
# Pictures

A picture is a rectangle of colours, row by row from the top left. The samples of a file can have
other forms than red, green and blue; each form says how its samples become a colour. Transparency is
dropped, for the panel has none.
-/

namespace PixelPanel

/-- A colour of the panel. -/
structure Colour where
  red : UInt8
  green : UInt8
  blue : UInt8
  deriving DecidableEq, Repr, Inhabited

namespace Colour

/-- Darkness. -/
def black : Colour := ⟨0, 0, 0⟩

/-- All three lamps at full strength. -/
def white : Colour := ⟨255, 255, 255⟩

/-- The three components, as they travel. -/
def toOctets (colour : Colour) : Octets :=
  [colour.red, colour.green, colour.blue]

/-- The shade of grey with one strength for all components. -/
def grey (strength : UInt8) : Colour :=
  ⟨strength, strength, strength⟩

end Colour

/-- A rectangle of colours, row by row. -/
structure Picture where
  width : Nat
  height : Nat
  pixels : List Colour
  length_pixels : pixels.length = width * height

namespace Picture

/-- A picture of given colours. Missing ones are black, and those beyond the last row are dropped. -/
def ofColours (width height : Nat) (colours : List Colour) : Picture where
  width := width
  height := height
  pixels := (colours ++ List.replicate (width * height - colours.length) Colour.black).take
    (width * height)
  length_pixels := by
    simp only [List.length_take, List.length_append, List.length_replicate]
    omega

end Picture

/-- The forms in which files give the samples of a pixel. -/
inductive SampleForm
  | colour
  | colourAlpha
  | grey
  | greyAlpha
  | bilevel
  | indexed (palette : List Colour)
  deriving DecidableEq, Repr

namespace SampleForm

/-- The number of samples of a pixel. -/
def width : SampleForm → Nat
  | colour => 3
  | colourAlpha => 4
  | grey => 1
  | greyAlpha => 2
  | bilevel => 1
  | indexed _ => 1

/-- The colour of a pixel. A sample that is missing counts as zero. -/
def toColour (form : SampleForm) (samples : Octets) : Colour :=
  let sample (place : Nat) : UInt8 := samples.getD place 0
  match form with
  | colour => ⟨sample 0, sample 1, sample 2⟩
  | colourAlpha => ⟨sample 0, sample 1, sample 2⟩
  | grey => .grey (sample 0)
  | greyAlpha => .grey (sample 0)
  | bilevel => if sample 0 = 0 then .black else .white
  | indexed palette => palette.getD (sample 0).toNat .black

end SampleForm
end PixelPanel
