import Mathlib.Data.List.Basic
import PixelPanel.Envelope.Assembler
import PixelPanel.Proofs.Words

/-!
# The form of an envelope

What stands at the front of some octets is decided by comparing them with `wrap`: `readOne` takes a
payload off the front exactly if the octets begin with the envelope of that payload, `candidate`
finds a complete envelope exactly if they begin with the envelope of a payload of at most 510
octets, and it waits exactly if the length field allows such an envelope and octets are missing.
-/

namespace PixelPanel.Proofs
open Envelope

/-- The envelopes of payloads, one behind the other. -/
def row (payloads : List Octets) : Octets :=
  (payloads.map wrap).flatten

@[simp] lemma row_cons (payload : Octets) (payloads : List Octets) :
    row (payload :: payloads) = wrap payload ++ row payloads := rfl

@[simp] lemma row_append (first second : List Octets) :
    row (first ++ second) = row first ++ row second := by
  rw [row, List.map_append, List.flatten_append, row, row]

/-- An envelope that the assembler may hand out: its payload has at most 510 octets. -/
def IsEnvelope (octets : Octets) : Prop :=
  ∃ payload : Octets, payload.length ≤ 510 ∧ octets = wrap payload

/-- The octets begin with a complete envelope. -/
def Begins (octets : Octets) : Prop :=
  ∃ envelope, IsEnvelope envelope ∧ envelope <+: octets

/-- The octets begin with a start mark whose envelope is still incomplete: the length field is not
there yet, or it is possible and says that octets are missing. -/
def Waiting : Octets → Prop
  | first :: low :: high :: body =>
    first = startMark ∧ 2 ≤ Octets.ofWord low high ∧ Octets.ofWord low high ≤ maxLength ∧
      (first :: low :: high :: body).length < Octets.ofWord low high + 4
  | first :: _ => first = startMark
  | [] => False

@[simp] lemma length_wrap (payload : Octets) : (wrap payload).length = payload.length + 6 := by
  simp only [wrap, Octets.word, List.length_append, List.length_cons, List.length_nil]
  omega

lemma checksum_lt (octets : Octets) : checksum octets < 65536 :=
  Nat.mod_lt _ (by decide)

/-- The octets after a start mark and a length field continue as an envelope. -/
lemma cons_eq_wrap_append_iff {low high : UInt8} {body payload rest : Octets}
    (h : payload.length ≤ 65533) :
    startMark :: low :: high :: body = wrap payload ++ rest ↔
      Octets.ofWord low high = payload.length + 2 ∧ ∃ sumLow sumHigh : UInt8,
        body = payload ++ sumLow :: sumHigh :: endMark :: rest ∧
        Octets.ofWord sumLow sumHigh = checksum (low :: high :: payload) := by
  have hlength := word_eq_iff (payload.length + 2) (by omega)
  have hsum := fun octets => word_eq_iff (checksum octets) (checksum_lt octets)
  constructor
  · intro he
    obtain ⟨l, u, hlu⟩ : ∃ l u, Octets.word (payload.length + 2) = [l, u] := ⟨_, _, rfl⟩
    obtain ⟨sumLow, sumHigh, hs⟩ :
        ∃ sumLow sumHigh, Octets.word (checksum (l :: u :: payload)) = [sumLow, sumHigh] :=
      ⟨_, _, rfl⟩
    simp only [wrap, hlu, List.cons_append, List.nil_append, hs, List.append_assoc,
      List.cons.injEq, true_and] at he
    obtain ⟨rfl, rfl, hbody⟩ := he
    exact ⟨(hlength _ _).mp hlu, sumLow, sumHigh, hbody, (hsum _ _ _).mp hs⟩
  · rintro ⟨hl, sumLow, sumHigh, rfl, hs⟩
    simp only [wrap, (hlength _ _).mpr hl, List.cons_append, List.nil_append,
      (hsum _ _ _).mpr hs, List.append_assoc]

/-- Every envelope shows a start mark and a length field. -/
lemma exists_cons_eq_wrap_append (payload rest : Octets) :
    ∃ low high body, wrap payload ++ rest = startMark :: low :: high :: body :=
  ⟨_, _, _, rfl⟩

/-- The tests that a reader makes after the length field find an envelope. -/
lemma cons_eq_wrap_take_append {low high sumLow sumHigh : UInt8} {body rest : Octets}
    (htwo : 2 ≤ Octets.ofWord low high)
    (hdrop : body.drop (Octets.ofWord low high - 2) = sumLow :: sumHigh :: endMark :: rest)
    (hsum : Octets.ofWord sumLow sumHigh =
      checksum (low :: high :: body.take (Octets.ofWord low high - 2))) :
    (body.take (Octets.ofWord low high - 2)).length + 2 = Octets.ofWord low high ∧
      startMark :: low :: high :: body =
        wrap (body.take (Octets.ofWord low high - 2)) ++ rest := by
  have hlt := ofWord_lt low high
  have hlen : (body.take (Octets.ofWord low high - 2)).length + 2 = Octets.ofWord low high := by
    have hd := congrArg List.length hdrop
    simp only [List.length_drop, List.length_cons] at hd
    rw [List.length_take]
    omega
  refine ⟨hlen, (cons_eq_wrap_append_iff (by omega)).mpr ⟨hlen.symm, sumLow, sumHigh, ?_, hsum⟩⟩
  rw [← hdrop, List.take_append_drop]

/-! ### Reading one envelope -/

lemma readOne_wrap_append (offset : ℕ) {payload : Octets} (h : payload.length ≤ 65533)
    (rest : Octets) : readOne offset (wrap payload ++ rest) = .ok (payload, rest) := by
  obtain ⟨low, high, body, he⟩ := exists_cons_eq_wrap_append payload rest
  obtain ⟨hl, sumLow, sumHigh, hbody, hs⟩ := (cons_eq_wrap_append_iff h).mp he.symm
  rw [he, hbody]
  simp [readOne, hl, hs]

lemma eq_wrap_append_of_readOne {offset : ℕ} {octets payload rest : Octets}
    (h : readOne offset octets = .ok (payload, rest)) :
    payload.length ≤ 65533 ∧ octets = wrap payload ++ rest := by
  unfold readOne at h
  split at h
  · cases h
  rename_i first tail
  split at h
  · cases h
  rename_i hfirst
  split at h
  · rename_i low high body
    dsimp only at h
    split at h
    · cases h
    rename_i htwo
    split at h
    · rename_i sumLow sumHigh last rest' hdrop
      split at h
      · cases h
      rename_i hlast
      split at h
      · cases h
      rename_i hsum
      rw [not_not] at hfirst hlast hsum
      subst hfirst hlast
      cases h
      obtain ⟨hlen, he⟩ := cons_eq_wrap_take_append (by omega) hdrop hsum
      have hlt := ofWord_lt low high
      exact ⟨by omega, he⟩
    · cases h
  · cases h

/-! ### Judging a start mark -/

lemma candidate_wrap_append {payload : Octets} (h : payload.length ≤ 510) (rest : Octets) :
    candidate (wrap payload ++ rest) = .complete (wrap payload).length := by
  obtain ⟨low, high, body, he⟩ := exists_cons_eq_wrap_append payload rest
  obtain ⟨hl, sumLow, sumHigh, hbody, hs⟩ := (cons_eq_wrap_append_iff (by omega)).mp he.symm
  have hmax : ¬maxLength < payload.length + 2 := by
    unfold maxLength
    omega
  rw [he, hbody, length_wrap]
  simp [candidate, hl, hs, hmax]

lemma isEnvelope_of_candidate {tail : Octets} {size : ℕ}
    (h : candidate (startMark :: tail) = .complete size) :
    IsEnvelope ((startMark :: tail).take size) ∧
      ((startMark :: tail).take size).length = size := by
  unfold candidate at h
  split at h
  · rename_i first low high body hcons
    cases hcons
    dsimp only at h
    split at h
    · cases h
    rename_i hrange
    split at h
    · rename_i sumLow sumHigh last rest hdrop
      split at h
      · cases h
      rename_i hlast
      split at h
      · cases h
      rename_i hsum
      rw [not_not] at hlast hsum
      subst hlast
      cases h
      obtain ⟨hlen, he⟩ := cons_eq_wrap_take_append (by omega) hdrop hsum.symm
      have hsize : (wrap (body.take (Octets.ofWord low high - 2))).length =
          Octets.ofWord low high + 4 := by
        rw [length_wrap]
        omega
      rw [he, ← hsize, List.take_left]
      unfold maxLength at hrange
      exact ⟨⟨_, by omega, rfl⟩, rfl⟩
    · cases h
  · cases h

/-- A start mark is complete exactly if an envelope begins with it. -/
lemma candidate_eq_complete_iff (tail : Octets) (size : ℕ) :
    candidate (startMark :: tail) = .complete size ↔
      ∃ envelope, IsEnvelope envelope ∧ envelope <+: startMark :: tail ∧
        envelope.length = size := by
  constructor
  · intro h
    obtain ⟨henv, hlen⟩ := isEnvelope_of_candidate h
    exact ⟨_, henv, List.take_prefix _ _, hlen⟩
  · rintro ⟨_, ⟨payload, hle, rfl⟩, ⟨rest, he⟩, rfl⟩
    rw [← he, candidate_wrap_append hle]

lemma candidate_eq_incomplete_iff (tail : Octets) :
    candidate (startMark :: tail) = .incomplete ↔ Waiting (startMark :: tail) := by
  match tail with
  | [] => simp [candidate, Waiting]
  | [_] => simp [candidate, Waiting]
  | low :: high :: body =>
    simp only [candidate, Waiting, true_and, List.length_cons]
    by_cases hrange : Octets.ofWord low high < 2 ∨ maxLength < Octets.ofWord low high
    · simp only [hrange, if_true, reduceCtorEq, false_iff]
      omega
    · simp only [hrange, if_false]
      -- what is left behind the payload says how many octets are missing
      have hd : (body.drop (Octets.ofWord low high - 2)).length =
          body.length - (Octets.ofWord low high - 2) := List.length_drop
      split
      · rename_i sumLow sumHigh last rest hdrop
        rw [hdrop] at hd
        simp only [List.length_cons] at hd
        constructor
        · intro h
          split at h
          · cases h
          · split at h <;> cases h
        · omega
      · rename_i hshort
        have hlt : (body.drop (Octets.ofWord low high - 2)).length < 3 := by
          rcases hdrop : body.drop (Octets.ofWord low high - 2) with _ | ⟨a, _ | ⟨b, _ | ⟨c, l⟩⟩⟩
          · simp
          · simp
          · simp
          · exact (hshort a b c l hdrop).elim
        simp only [true_iff]
        omega

/-! ### Envelopes at the front -/

lemma IsEnvelope.ne_nil {envelope : Octets} (h : IsEnvelope envelope) : envelope ≠ [] := by
  obtain ⟨payload, -, rfl⟩ := h
  exact List.cons_ne_nil _ _

lemma IsEnvelope.head {octet : UInt8} {tail : Octets} {envelope : Octets}
    (h : IsEnvelope envelope) (hp : envelope <+: octet :: tail) : octet = startMark := by
  obtain ⟨payload, -, rfl⟩ := h
  obtain ⟨rest, he⟩ := hp
  exact (List.cons.inj he).1.symm

/-- At most one envelope stands at the front. -/
lemma IsEnvelope.unique {first second octets : Octets} (hfirst : IsEnvelope first)
    (hsecond : IsEnvelope second) (hp : first <+: octets) (hq : second <+: octets) :
    first = second := by
  cases octets with
  | nil => exact (hfirst.ne_nil (List.prefix_nil.mp hp)).elim
  | cons octet tail =>
    obtain rfl := hfirst.head hp
    have hf := (candidate_eq_complete_iff tail _).mpr ⟨first, hfirst, hp, rfl⟩
    have hs := (candidate_eq_complete_iff tail _).mpr ⟨second, hsecond, hq, rfl⟩
    have hlen : first.length = second.length := Candidate.complete.inj (hf.symm.trans hs)
    exact (List.prefix_of_prefix_length_le hp hq (Nat.le_of_eq hlen)).eq_of_length hlen

lemma Begins.ne_nil {octets : Octets} (h : Begins octets) : octets ≠ [] := by
  rintro rfl
  obtain ⟨envelope, henv, hp⟩ := h
  exact henv.ne_nil (List.prefix_nil.mp hp)

lemma begins_iff_candidate (tail : Octets) :
    Begins (startMark :: tail) ↔ ∃ size, candidate (startMark :: tail) = .complete size := by
  simp only [candidate_eq_complete_iff]
  constructor
  · rintro ⟨envelope, henv, hp⟩
    exact ⟨_, envelope, henv, hp, rfl⟩
  · rintro ⟨size, envelope, henv, hp, -⟩
    exact ⟨envelope, henv, hp⟩

/-- What is not a start mark neither begins an envelope nor waits for one. -/
lemma not_begins_of_ne {octet : UInt8} (h : octet ≠ startMark) (tail : Octets) :
    ¬Begins (octet :: tail) := by
  rintro ⟨envelope, henv, hp⟩
  exact h (henv.head hp)

lemma not_waiting_of_ne {octet : UInt8} (h : octet ≠ startMark) (tail : Octets) :
    ¬Waiting (octet :: tail) := by
  intro hw
  match tail with
  | [] => exact h hw
  | [_] => exact h hw
  | _ :: _ :: _ => exact h hw.1

/-- A cut envelope waits for its other octets. -/
lemma waiting_of_cut {envelope octets : Octets} (henv : IsEnvelope envelope)
    (hp : octets <+: envelope) (hne : octets ≠ []) (hlt : octets.length < envelope.length) :
    Waiting octets := by
  obtain ⟨payload, hle, rfl⟩ := henv
  obtain ⟨rest, he⟩ := hp
  match octets with
  | [] => exact (hne rfl).elim
  | [_] => exact (List.cons.inj he).1
  | [_, _] => exact (List.cons.inj he).1
  | first :: low :: high :: body =>
    obtain rfl : first = startMark := (List.cons.inj he).1
    have hl : Octets.ofWord low high = payload.length + 2 := by
      have hcons : startMark :: low :: high :: (body ++ rest) = wrap payload ++ [] := by
        rw [List.append_nil]
        exact he
      exact ((cons_eq_wrap_append_iff (by omega)).mp hcons).1
    rw [length_wrap] at hlt
    refine ⟨rfl, by omega, ?_, by omega⟩
    unfold maxLength
    omega

end PixelPanel.Proofs
