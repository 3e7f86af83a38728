import PixelPanel.Envelope

/-!
# Envelopes out of chunks

The link hands out octets in pieces of any size. The assembler keeps what may still be the beginning
of an envelope, and gives every envelope in the very feed that completes it. Octets that belong to no
envelope are discarded. A start mark does not prove an envelope: the length may be impossible, the
checksum may be wrong, and a start that waits for more octets gives way to a complete envelope that
begins after it.
-/

namespace PixelPanel.Envelope

/-- The largest length field that the device ever sends. -/
def maxLength : Nat := 512

/-- What the octets from a start mark on are. -/
inductive Candidate
  | complete (size : Nat)
  | incomplete
  | invalid
  deriving DecidableEq, Repr

/-- Judges octets that begin with a start mark. -/
def candidate (octets : Octets) : Candidate :=
  match octets with
  | _ :: low :: high :: body =>
    let length := Octets.ofWord low high
    if length < 2 ∨ maxLength < length then .invalid
    else
      match body.drop (length - 2) with
      | sumLow :: sumHigh :: last :: _ =>
        if last ≠ endMark then .invalid
        else if checksum (low :: high :: body.take (length - 2)) ≠ Octets.ofWord sumLow sumHigh then
          .invalid
        else .complete (length + 4)
      | _ => .incomplete
  | _ => .incomplete

/-- The distance to the first start mark that begins a complete envelope. -/
def nextComplete? : Octets → Option Nat
  | [] => none
  | octet :: rest =>
    match octet == startMark, candidate (octet :: rest) with
    | true, .complete _ => some 0
    | _, _ => (nextComplete? rest).map (· + 1)

/-- Octets that are given up, and why. -/
inductive Discard
  | noise (count : Nat)
  | beforeStart (count : Nat)
  | falseStart (count : Nat)
  deriving DecidableEq, Repr

/-- The text of a discard. -/
def Discard.message : Discard → String
  | .noise count => s!"Discarding {count} byte(s) of noise"
  | .beforeStart count => s!"Discarding {count} byte(s) before prefix"
  | .falseStart count => s!"Discarding {count} byte(s) of false envelope start"

/-- What a feed leaves behind: the octets kept, the envelopes completed and the octets given up. -/
structure Fed where
  buffer : Octets
  envelopes : List Octets
  discards : List Discard
  deriving DecidableEq, Repr

theorem length_le_of_nextComplete? {octets : Octets} {distance : Nat}
    (h : nextComplete? octets = some distance) : distance < octets.length := by
  induction octets generalizing distance with
  | nil => cases h
  | cons octet rest ih =>
    unfold nextComplete? at h
    split at h
    · cases h
      simp
    · obtain ⟨d, hd, rfl⟩ := Option.map_eq_some_iff.1 h
      have := ih hd
      simp only [List.length_cons]
      omega

theorem length_pos_of_candidate {octets : Octets} {size : Nat}
    (h : candidate octets = .complete size) : 0 < size ∧ 0 < octets.length := by
  unfold candidate at h
  split at h
  · dsimp only at h
    split at h
    · cases h
    · split at h
      · split at h
        · cases h
        · split at h
          · cases h
          · cases h
            simp
      · cases h
  · cases h

/-- Takes envelopes from the front of the octets until none is left that is complete. -/
def assemble (octets : Octets) : Fed :=
  let noise := octets.takeWhile (· != startMark)
  match _hs : octets.dropWhile (· != startMark) with
  | [] => ⟨[], [], if noise.isEmpty then [] else [.noise noise.length]⟩
  | start :: rest =>
    let before := if noise.isEmpty then [] else [Discard.beforeStart noise.length]
    match _hc : candidate (start :: rest) with
    | .complete size =>
      let fed := assemble ((start :: rest).drop size)
      ⟨fed.buffer, (start :: rest).take size :: fed.envelopes, before ++ fed.discards⟩
    | .invalid =>
      let fed := assemble rest
      { fed with discards := before ++ fed.discards }
    | .incomplete =>
      match _hn : nextComplete? rest with
      | none => ⟨start :: rest, [], before⟩
      | some distance =>
        let fed := assemble (rest.drop distance)
        { fed with discards := before ++ .falseStart (distance + 1) :: fed.discards }
termination_by octets.length
decreasing_by
  all_goals
    have hl : (start :: rest).length ≤ octets.length := by
      rw [← _hs]
      exact (List.dropWhile_sublist _).length_le
    simp only [List.length_cons] at hl
  · have := length_pos_of_candidate _hc
    simp only [List.length_drop, List.length_cons]
    omega
  · omega
  · simp only [List.length_drop]
    omega

/-- What is kept between two feeds. -/
structure Assembler where
  buffer : Octets := []
  deriving DecidableEq, Repr

namespace Assembler

/-- Forgets what is kept. -/
def reset (_ : Assembler) : Assembler := {}

/-- Adds a chunk, and gives what it completes. -/
def feed (assembler : Assembler) (chunk : Octets) : Fed :=
  assemble (assembler.buffer ++ chunk)

/-- Feeds chunks one after the other, and gives the envelopes of each feed and what is kept at the
end. -/
def feedAll (assembler : Assembler) : List Octets → List (List Octets) × Assembler
  | [] => ([], assembler)
  | chunk :: rest =>
    let fed := assembler.feed chunk
    let (envelopes, last) := feedAll ⟨fed.buffer⟩ rest
    (fed.envelopes :: envelopes, last)

end Assembler
end PixelPanel.Envelope
