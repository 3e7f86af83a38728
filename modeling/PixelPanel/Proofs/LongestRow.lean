import PixelPanel.Envelope.Message
import PixelPanel.Proofs.EnvelopeRow

/-!
# Rows that break off

Reading keeps the longest row of envelopes at the front. What it leaves begins with no envelope, and
the fault tells where that is. If the octets are a row that was cut inside an envelope, the fault is
always that octets are missing, whatever the payloads hold.
-/

namespace PixelPanel.Envelope

/-- The place that a fault names. -/
def Fault.place : Fault → ℕ
  | .startMissing offset _ => offset
  | .lengthMissing offset => offset
  | .lengthTooSmall offset _ => offset
  | .truncated offset _ _ => offset
  | .endMissing offset _ => offset
  | .checksumMismatch offset _ _ => offset

/-- Whether a fault is that octets are missing. -/
def Fault.isTruncation : Fault → Bool
  | .lengthMissing _ | .truncated .. => true
  | _ => false

/-- The number in the length field of an envelope. -/
def lengthField (octets : Octets) : ℕ :=
  Octets.toNumber ((octets.drop 1).take 2)

/-- How far the place of a fault is behind the beginning of its envelope. A missing end mark is named by
its own place, all else by the envelope. -/
def Fault.distance (octets : Octets) : Fault → ℕ
  | .endMissing .. => lengthField octets + 3
  | _ => 0

end PixelPanel.Envelope

namespace PixelPanel.Proofs
open Envelope

/-- A text names a place. -/
def NamesPlace (text : String) (place : ℕ) : Prop :=
  ∃ lead sign detail : String, text = lead ++ s!" at offset {place}" ++ sign ++ detail ∧
    (sign = "," ∨ sign = ":")

/-- A text says that octets are missing from the envelope at a place. -/
def SaysTruncated (text : String) (place : ℕ) : Prop :=
  ∃ detail : String, text = s!"truncated envelope at offset {place}: " ++ detail

variable {offset : ℕ} {octets payload : Octets} {fault : Fault}

/-! ### Texts of faults -/

lemma namesPlace_message (fault : Fault) : NamesPlace fault.message fault.place := by
  cases fault with
  | startMissing offset found =>
    refine ⟨s!"expected prefix {octetText startMark}", ",", s!" got {octetText found}",
      String.toList_injective ?_, .inl rfl⟩
    delta Fault.message Fault.place
    simp only [String.toList_append, List.append_assoc]
    rfl
  | lengthMissing offset =>
    refine ⟨"truncated envelope", ":", " no length field", String.toList_injective ?_, .inr rfl⟩
    delta Fault.message Fault.place
    simp only [String.toList_append, List.append_assoc]
    rfl
  | lengthTooSmall offset length =>
    refine ⟨s!"invalid length {length}", ",", " expected at least 2", String.toList_injective ?_,
      .inl rfl⟩
    delta Fault.message Fault.place
    simp only [String.toList_append, List.append_assoc]
    rfl
  | truncated offset length available =>
    refine ⟨"truncated envelope", ":",
      s!" length {length} needs {length + 4} bytes, {available} available",
      String.toList_injective ?_, .inr rfl⟩
    delta Fault.message Fault.place
    simp only [String.toList_append, List.append_assoc]
    rfl
  | endMissing offset found =>
    refine ⟨s!"expected postfix {octetText endMark}", ",", s!" got {octetText found}",
      String.toList_injective ?_, .inl rfl⟩
    delta Fault.message Fault.place
    simp only [String.toList_append, List.append_assoc]
    rfl
  | checksumMismatch offset computed received =>
    refine ⟨"invalid checksum", ",", s!" expected {computed}, got {received}",
      String.toList_injective ?_, .inl rfl⟩
    delta Fault.message Fault.place
    simp only [String.toList_append, List.append_assoc]
    rfl

lemma saysTruncated_message (h : fault.isTruncation) : SaysTruncated fault.message fault.place := by
  cases fault with
  | lengthMissing offset =>
    refine ⟨"no length field", String.toList_injective ?_⟩
    delta Fault.message Fault.place
    simp only [String.toList_append, List.append_assoc]
    rfl
  | truncated offset length available =>
    refine ⟨s!"length {length} needs {length + 4} bytes, {available} available",
      String.toList_injective ?_⟩
    delta Fault.message Fault.place
    simp only [String.toList_append, List.append_assoc]
    rfl
  | _ => cases h

/-! ### Where reading stops -/

lemma lengthField_cons (first low high : UInt8) (body : Octets) :
    lengthField (first :: low :: high :: body) = Octets.ofWord low high := by
  simp [lengthField, Octets.toNumber, Octets.ofWord]

/-- A fault names the envelope that cannot be read, or the end mark that is missing from it. -/
lemma place_of_readOne (h : readOne offset octets = .error fault) :
    fault.place = offset + fault.distance octets := by
  unfold readOne at h
  split at h
  · cases h
    rfl
  rename_i first tail
  split at h
  · cases h
    rfl
  split at h
  · rename_i low high body
    dsimp only at h
    split at h
    · cases h
      rfl
    split at h
    · split at h
      · cases h
        rw [Fault.place, Fault.distance, lengthField_cons, Nat.add_assoc]
      split at h
      · cases h
        rfl
      · cases h
    · cases h
      rfl
  · cases h
    rfl

/-- What reading leaves begins with no envelope. -/
lemma not_prefix_of_readOne (h : readOne offset octets = .error fault) (payload : Octets)
    (hle : payload.length ≤ 65533) : ¬wrap payload <+: octets := by
  rintro ⟨rest, rfl⟩
  rw [readOne_wrap_append offset hle rest] at h
  cases h

/-- An envelope that was cut lacks octets, and nothing else is wrong with it. -/
lemma readOne_take_wrap (offset : ℕ) (hle : payload.length ≤ 65533) {count : ℕ} (hpos : 0 < count)
    (hlt : count < (wrap payload).length) :
    ∃ fault, readOne offset ((wrap payload).take count) = .error fault ∧ fault.isTruncation := by
  obtain ⟨low, high, body, he⟩ := exists_cons_eq_wrap_append payload []
  obtain ⟨hlength, sumLow, sumHigh, hbody, -⟩ := (cons_eq_wrap_append_iff hle).mp he.symm
  rw [List.append_nil] at he
  rw [he]
  match count, hpos with
  | 1, _ => exact ⟨_, rfl, rfl⟩
  | 2, _ => exact ⟨_, rfl, rfl⟩
  | count + 3, _ =>
    have htwo : ¬Octets.ofWord low high < 2 := by omega
    -- fewer than three octets stand behind the payload
    have hshort : ((body.take count).drop (Octets.ofWord low high - 2)).length < 3 := by
      rw [length_wrap] at hlt
      rw [List.length_drop, List.length_take]
      omega
    simp only [List.take_succ_cons, readOne, ne_eq, not_true_eq_false, if_false, htwo]
    split
    · rename_i hdrop
      rw [hdrop] at hshort
      simp only [List.length_cons] at hshort
      omega
    · exact ⟨_, rfl, rfl⟩

lemma readFrom_of_cut (before after : List Octets) (cut : Octets)
    (hall : ∀ payload ∈ before ++ cut :: after, payload.length ≤ 65533) {count : ℕ}
    (hbegun : (row before).length < count) (hcut : count < (row (before ++ [cut])).length) :
    ∃ fault, unwrapPartial ((row (before ++ cut :: after)).take count) = (before, some fault) ∧
      fault.isTruncation ∧ fault.place = (row before).length := by
  rw [List.forall_mem_append, List.forall_mem_cons] at hall
  obtain ⟨hbefore, hle, -⟩ := hall
  have hlength : (row (before ++ [cut])).length = (row before).length + (wrap cut).length := by
    rw [row_append, row_cons, List.length_append, List.length_append]
    rfl
  obtain ⟨fault, hfault, htruncated⟩ := @readOne_take_wrap cut (row before).length hle
    (count - (row before).length) (by omega) (by omega)
  have hne : (wrap cut).take (count - (row before).length) ≠ [] := by
    intro hnil
    have hlength := congrArg List.length hnil
    rw [List.length_take, length_wrap, List.length_nil] at hlength
    omega
  have htake : (row (before ++ cut :: after)).take count =
      row before ++ (wrap cut).take (count - (row before).length) := by
    rw [row_append, row_cons, List.take_append, List.take_of_length_le (Nat.le_of_lt hbegun),
      List.take_append_of_le_length (by omega)]
  refine ⟨fault, ?_, htruncated, ?_⟩
  · rw [htake, unwrapPartial, readFrom_row_append before _ 0 hbefore, Nat.zero_add,
      readFrom_of_readOne_error hne hfault, List.append_nil]
  · rw [place_of_readOne hfault]
    cases fault <;> first | rfl | cases htruncated

/-- Reading keeps the longest row of envelopes that stands at the front, and the fault names the
envelope, or the end mark, at which it stopped. A row that was cut inside an envelope is read up to
that envelope, and the fault is that octets are missing. -/
theorem unwrapPartial_keeps_longest (octets : Octets) :
    (∃ rest, octets = row (unwrapPartial octets).1 ++ rest ∧
      (∀ payload ∈ (unwrapPartial octets).1, payload.length ≤ 65533) ∧
      ((unwrapPartial octets).2 = none ↔ rest = []) ∧
      (rest ≠ [] →
        (∀ payload : Octets, payload.length ≤ 65533 → ¬wrap payload <+: rest) ∧
        ∃ fault, (unwrapPartial octets).2 = some fault ∧
          fault.place = octets.length - rest.length + fault.distance rest ∧
          NamesPlace fault.message fault.place)) ∧
    ∀ before cut after, (∀ payload ∈ before ++ cut :: after, payload.length ≤ 65533) →
      ∀ count, (row before).length < count → count < (row (before ++ [cut])).length →
        octets = (row (before ++ cut :: after)).take count →
          ∃ fault, unwrapPartial octets = (before, some fault) ∧ fault.isTruncation ∧
            SaysTruncated fault.message (row before).length := by
  constructor
  · obtain ⟨rest, he, hall, hnone, hsome⟩ := exists_rest_of_readFrom 0 octets
    have hlength : octets.length - rest.length = (row (unwrapPartial octets).1).length := by
      have hparts : octets.length = (row (unwrapPartial octets).1).length + rest.length :=
        (congrArg List.length he).trans List.length_append
      omega
    refine ⟨rest, he, hall, ⟨hnone, fun hnil => ?_⟩, fun hne => ?_⟩
    · cases hfault : (unwrapPartial octets).2 with
      | none => rfl
      | some fault => exact ((hsome fault hfault).1 hnil).elim
    · obtain ⟨fault, hfault⟩ := Option.ne_none_iff_exists'.mp fun h => hne (hnone h)
      obtain ⟨-, hread⟩ := hsome fault hfault
      refine ⟨not_prefix_of_readOne hread, fault, hfault, ?_, namesPlace_message fault⟩
      rw [place_of_readOne hread, Nat.zero_add, hlength]
      rfl
  · rintro before cut after hall count hbegun hcut rfl
    obtain ⟨fault, hread, htruncated, hplace⟩ := readFrom_of_cut before after cut hall hbegun hcut
    exact ⟨fault, hread, htruncated, hplace ▸ saysTruncated_message htruncated⟩

/-- A row of two envelopes is cut behind the length field of the second, whose payload looks like the end
of an envelope. -/
theorem unwrapPartial_keeps_longest_cut :
    ∃ fault, unwrapPartial ((row [[0x09], [0x02, 0x00, 0x02]]).take 10) = ([[0x09]], some fault) ∧
      SaysTruncated fault.message 7 := by
  obtain ⟨fault, hread, -, htext⟩ :=
    (unwrapPartial_keeps_longest ((row [[0x09], [0x02, 0x00, 0x02]]).take 10)).2 [[0x09]]
      [0x02, 0x00, 0x02] [] (by decide) 10 (by decide) (by decide) rfl
  exact ⟨fault, hread, htext⟩

end PixelPanel.Proofs
