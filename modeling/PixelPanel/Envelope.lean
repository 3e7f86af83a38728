import PixelPanel.Octets

/-!
# Envelopes

Every message, in both directions, travels in an envelope:

    start mark, length, payload, checksum, end mark

The length is a word and counts itself and the payload. The checksum is a word too, the sum of the
octets of the length and of the payload. `wrap` writes one envelope, `unwrap` reads a row of them.
-/

namespace PixelPanel.Envelope

/-- The octet that every envelope begins with. -/
def startMark : UInt8 := 0x01

/-- The octet that every envelope ends with. -/
def endMark : UInt8 := 0x02

/-- The octets of an envelope that are not payload: two marks and two words. -/
def overhead : Nat := 6

/-- The sum of octets in sixteen bits. -/
def checksum (octets : Octets) : Nat :=
  octets.total % 65536

/-- The envelope of a payload. The length field holds sixteen bits, so it wraps for a payload of
more than 65533 octets. -/
def wrap (payload : Octets) : Octets :=
  let body := Octets.word (payload.length + 2) ++ payload
  startMark :: body ++ Octets.word (checksum body) ++ [endMark]

/-- Why a row of envelopes cannot be read. Offsets count from the first octet of the row. -/
inductive Fault
  | startMissing (offset : Nat) (found : UInt8)
  | lengthMissing (offset : Nat)
  | lengthTooSmall (offset length : Nat)
  | truncated (offset length available : Nat)
  | endMissing (offset : Nat) (found : UInt8)
  | checksumMismatch (offset computed received : Nat)
  deriving DecidableEq, Repr

/-- Reads one envelope, which begins at `offset` of the whole, and gives its payload and the octets
that follow it. -/
def readOne (offset : Nat) (octets : Octets) : Except Fault (Octets × Octets) :=
  match octets with
  | [] => .error (.lengthMissing offset)
  | first :: tail =>
    if first ≠ startMark then .error (.startMissing offset first)
    else
      match tail with
      | low :: high :: body =>
        let length := Octets.ofWord low high
        if length < 2 then .error (.lengthTooSmall offset length)
        else
          let payload := body.take (length - 2)
          match body.drop (length - 2) with
          | sumLow :: sumHigh :: last :: rest =>
            let computed := checksum (low :: high :: payload)
            let received := Octets.ofWord sumLow sumHigh
            if last ≠ endMark then .error (.endMissing (offset + length + 3) last)
            else if received ≠ computed then
              .error (.checksumMismatch offset computed received)
            else .ok (payload, rest)
          | _ => .error (.truncated offset length octets.length)
      | _ => .error (.lengthMissing offset)

theorem length_lt_of_readOne {offset : Nat} {octets payload rest : Octets}
    (h : readOne offset octets = .ok (payload, rest)) : rest.length < octets.length := by
  unfold readOne at h
  split at h
  · cases h
  · split at h
    · cases h
    · split at h
      · dsimp only at h
        split at h
        · cases h
        · split at h
          · rename_i low high body hl _ _ _ rest' hd
            split at h
            · cases h
            · split at h
              · cases h
              · cases h
                have := congrArg List.length hd
                simp only [List.length_drop, List.length_cons] at this ⊢
                omega
          · cases h
      · cases h

/-- Reads envelopes from `offset` on until the octets end or one cannot be read: the payloads read,
and what stopped the reading. -/
def readFrom (offset : Nat) (octets : Octets) : List Octets × Option Fault :=
  if octets.isEmpty then ([], none)
  else
    match _h : readOne offset octets with
    | .error fault => ([], some fault)
    | .ok (payload, rest) =>
      let (payloads, fault) := readFrom (offset + (payload.length + overhead)) rest
      (payload :: payloads, fault)
termination_by octets.length
decreasing_by exact length_lt_of_readOne _h

/-- The payloads of a row of envelopes up to the first fault, and that fault. -/
def unwrapPartial (octets : Octets) : List Octets × Option Fault :=
  readFrom 0 octets

/-- The payloads of a row of envelopes. One fault refuses the whole row. -/
def unwrap (octets : Octets) : Except Fault (List Octets) :=
  match unwrapPartial octets with
  | (payloads, none) => .ok payloads
  | (_, some fault) => .error fault

end PixelPanel.Envelope
