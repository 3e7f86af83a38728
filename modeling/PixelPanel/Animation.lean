import PixelPanel.Command

/-!
# Animations

The frames of an animation are put together and then cut into packets. Packets begin every 200 octets
and carry up to 400, so that each one repeats the second half of the one before.
-/

namespace PixelPanel.Animation

/-- The distance between the beginnings of two packets. -/
def stride : Nat := 200

/-- The greatest number of octets in a packet. -/
def window : Nat := 400

/-- Cuts octets into overlapping windows. -/
def slices (octets : Octets) : List Octets :=
  if octets.isEmpty then []
  else octets.take window :: slices (octets.drop stride)
termination_by octets.length
decreasing_by
  rename_i h
  have : octets ≠ [] := by simpa using h
  have := List.length_pos_iff.2 this
  simp only [List.length_drop, stride]
  omega

/-- The payload of the packet with a number, for an animation of `size` octets in all. -/
def packet (size number : Nat) (slice : Octets) : Octets :=
  0x49 :: Octets.word size ++ [UInt8.ofNat number] ++ slice

/-- The packets of frames that are put together already. -/
def packets (frames : Octets) : List Octets :=
  (slices frames).mapIdx fun number slice => Envelope.wrap (packet frames.length number slice)

/-- The packets that show pictures, each for its time. -/
def encode (pictures : List Picture) (durations : List Int) :
    Except Command.Refusal (List Octets) :=
  if pictures.length ≠ durations.length then
    .error (.durationCount pictures.length durations.length)
  else
    match Frame.buildAll (pictures.zip durations) with
    | .error fault => .error (.picture fault)
    | .ok frames => .ok (packets frames)

end PixelPanel.Animation
