import PixelPanel.Octets
import PixelPanel.Hex

/-!
# UTF-8

Octets as text. The first octet of a character tells how many follow and, for a few, narrows the
bounds of the second one, so that there is one form for each character and none for half of a
surrogate pair. Reading stops at the first octet that no text can go on with.
-/

namespace PixelPanel.Text.Utf8

/-- Why octets are no text. -/
inductive Problem
  | start
  | continuation
  | unexpectedEnd
  deriving DecidableEq, Repr

/-- What is wrong, the first octet of the wrong character, its position, and how many octets of the
character are concerned. -/
structure Fault where
  problem : Problem
  octet : UInt8
  position : Nat
  count : Nat
  deriving DecidableEq, Repr

/-- The text of a problem. -/
def Problem.text : Problem → String
  | .start => "invalid start byte"
  | .continuation => "invalid continuation byte"
  | .unexpectedEnd => "unexpected end of data"

/-- The text of a fault. -/
def Fault.message (fault : Fault) : String :=
  let place :=
    if fault.count = 1 then
      s!"byte 0x{Hex.padded 2 fault.octet.toNat} in position {fault.position}"
    else s!"bytes in position {fault.position}-{fault.position + fault.count - 1}"
  s!"'utf-8' codec can't decode {place}: {fault.problem.text}"

/-- What the first octet of a character tells: its part of the number, the bounds of the second
octet, and how many octets follow after that one. -/
structure Lead where
  value : Nat
  low : Nat
  high : Nat
  later : Nat
  deriving DecidableEq, Repr

/-- What an octet tells that begins a character of several octets. -/
def lead? (octet : Nat) : Option Lead :=
  if octet < 0xC2 then none
  else if octet < 0xE0 then some ⟨octet - 0xC0, 0x80, 0xBF, 0⟩
  else if octet = 0xE0 then some ⟨0, 0xA0, 0xBF, 1⟩
  else if octet = 0xED then some ⟨0xD, 0x80, 0x9F, 1⟩
  else if octet < 0xF0 then some ⟨octet - 0xE0, 0x80, 0xBF, 1⟩
  else if octet = 0xF0 then some ⟨0, 0x90, 0xBF, 2⟩
  else if octet < 0xF4 then some ⟨octet - 0xF0, 0x80, 0xBF, 2⟩
  else if octet = 0xF4 then some ⟨4, 0x80, 0x8F, 2⟩
  else none

/-- A character some octets of which have been read. -/
structure Begun where
  octet : UInt8
  start : Nat
  lead : Lead
  deriving DecidableEq, Repr

/-- Reads octets from a position on, perhaps inside of a character. -/
def decodeFrom (position : Nat) : Option Begun → Octets → Except Fault (List Char)
  | none, [] => .ok []
  | some begun, [] =>
    .error ⟨.unexpectedEnd, begun.octet, begun.start, position - begun.start⟩
  | none, octet :: rest =>
    if octet < 0x80 then
      (decodeFrom (position + 1) none rest).map (Char.ofNat octet.toNat :: ·)
    else
      match lead? octet.toNat with
      | none => .error ⟨.start, octet, position, 1⟩
      | some lead => decodeFrom (position + 1) (some ⟨octet, position, lead⟩) rest
  | some begun, octet :: rest =>
    let lead := begun.lead
    let value := 64 * lead.value + (octet.toNat - 0x80)
    if octet.toNat < lead.low ∨ lead.high < octet.toNat then
      .error ⟨.continuation, begun.octet, begun.start, position - begun.start⟩
    else
      match lead.later with
      | 0 => (decodeFrom (position + 1) none rest).map (Char.ofNat value :: ·)
      | later + 1 =>
        decodeFrom (position + 1) (some { begun with lead := ⟨value, 0x80, 0xBF, later⟩ }) rest

/-- Octets as text. -/
def decode (octets : Octets) : Except Fault (List Char) :=
  decodeFrom 0 none octets

end PixelPanel.Text.Utf8
