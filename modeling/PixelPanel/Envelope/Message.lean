import PixelPanel.Envelope
import PixelPanel.Hex

/-!
# Texts of envelope faults
-/

namespace PixelPanel.Envelope

/-- An octet as it is named in texts. -/
def octetText (octet : UInt8) : String :=
  "0x" ++ Hex.padded 2 octet.toNat

/-- The text of a fault. -/
def Fault.message : Fault → String
  | .startMissing offset found =>
    s!"expected prefix {octetText startMark} at offset {offset}, got {octetText found}"
  | .lengthMissing offset => s!"truncated envelope at offset {offset}: no length field"
  | .lengthTooSmall offset length =>
    s!"invalid length {length} at offset {offset}, expected at least 2"
  | .truncated offset length available =>
    s!"truncated envelope at offset {offset}: length {length} needs " ++
      s!"{length + 4} bytes, {available} available"
  | .endMissing offset found =>
    s!"expected postfix {octetText endMark} at offset {offset}, got {octetText found}"
  | .checksumMismatch offset computed received =>
    s!"invalid checksum at offset {offset}, expected {computed}, got {received}"

end PixelPanel.Envelope
