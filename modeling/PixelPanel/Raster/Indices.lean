import PixelPanel.Octets

/-!
# Streams of indices

Indices of `width` bits each are packed into octets from the low bits up, so that the whole stream is
one number with the low octet first. `pack` writes it with a cursor that moves by at most one octet an
index; `unpack` reads it from the number.
-/

namespace PixelPanel.Raster.Indices

/-- Why indices cannot be packed or unpacked: a width below zero, a width so large that the cursor
falls behind, or a cursor beyond the last octet. -/
inductive Fault
  | negativeCount
  | negativeShift
  | beyondEnd
  deriving DecidableEq, Repr

/-- The text of a fault. -/
def Fault.message : Fault → String
  | .negativeCount => "negative count"
  | .negativeShift => "negative shift count"
  | .beyondEnd => "bytearray index out of range"

/-- The number of octets for `count` indices of `width` bits. -/
def octetCount (width : Int) (count : Nat) : Int :=
  (width * count + 7).fdiv 8

/-- Sets bits of one octet. -/
def setBits (octets : Octets) (place : Nat) (bits : UInt8) : Octets :=
  octets.modify place (· ||| bits)

/-- Writes an index at a cursor: `offset` bits of the octet at `place` are taken already. What does not
fit goes to the next octet, if there is one. -/
def write (octets : Octets) (place offset : Nat) (index : Int) : Except Fault Octets :=
  if octets.length ≤ place then .error .beyondEnd
  else
    let octets := setBits octets place (Octets.ofInt (index * Nat.pow 2 offset))
    if octets.length ≤ place + 1 then .ok octets
    else if 8 < offset then .error .negativeShift
    else .ok (setBits octets (place + 1) (Octets.ofInt (index / Nat.pow 2 (8 - offset))))

/-- Writes indices from a cursor on. The cursor moves by one octet at most. -/
def packFrom (width : Nat) (octets : Octets) (place offset : Nat) :
    List Int → Except Fault Octets
  | [] => .ok octets
  | index :: rest =>
    match write octets place offset index with
    | .error fault => .error fault
    | .ok octets =>
      if 8 < offset + width then packFrom width octets (place + 1) (offset + width - 8) rest
      else packFrom width octets place (offset + width) rest

/-- Packs indices of `width` bits each. -/
def pack (indices : List Int) (width : Int) : Except Fault Octets :=
  let count := octetCount width indices.length
  if count < 0 then .error .negativeCount
  else if count = 0 then .ok []
  else packFrom width.toNat (List.replicate count.toNat 0) 0 0 indices

/-- Reads `count` indices of `width` bits each. Bits beyond the last octet are zero. -/
def unpack (octets : Octets) (width count : Int) : Except Fault (List Nat) :=
  if width = 0 then .ok (List.replicate count.toNat 0)
  else if width < 0 then .error .negativeShift
  else
    let stream := octets.toNumber
    .ok ((List.range count.toNat).map fun i =>
      stream / Nat.pow 2 (i * width.toNat) % Nat.pow 2 width.toNat)

end PixelPanel.Raster.Indices
