import PixelPanel.Proofs.EnvelopeForm

/-!
# Rows of envelopes

Reading a row takes envelopes off the front until the octets end or one envelope cannot be read.
`unwrap` therefore accepts exactly the rows that `wrap` writes for payloads of at most 65533 octets,
which are the payloads whose length still fits into the length field.
-/

namespace PixelPanel.Proofs
open Envelope

lemma readFrom_nil (offset : ℕ) : readFrom offset [] = ([], none) := by
  rw [readFrom]
  rfl

lemma readFrom_of_readOne_ok {offset : ℕ} {octets payload rest : Octets} (hne : octets ≠ [])
    (h : readOne offset octets = .ok (payload, rest)) :
    readFrom offset octets =
      (payload :: (readFrom (offset + (payload.length + overhead)) rest).1,
        (readFrom (offset + (payload.length + overhead)) rest).2) := by
  rw [readFrom, if_neg (by simpa using hne)]
  split
  · rename_i fault hf
    rw [h] at hf
    cases hf
  · rename_i payload' rest' hok
    rw [h] at hok
    cases hok
    rfl

lemma readFrom_of_readOne_error {offset : ℕ} {octets : Octets} {fault : Fault} (hne : octets ≠ [])
    (h : readOne offset octets = .error fault) : readFrom offset octets = ([], some fault) := by
  rw [readFrom, if_neg (by simpa using hne)]
  split
  · rename_i fault' hf
    rw [h] at hf
    cases hf
    rfl
  · rename_i payload rest hok
    rw [h] at hok
    cases hok

/-- The envelopes of a row come off one after the other, and reading goes on behind them. -/
lemma readFrom_row_append (payloads : List Octets) (rest : Octets) (offset : ℕ)
    (h : ∀ payload ∈ payloads, payload.length ≤ 65533) :
    readFrom offset (row payloads ++ rest) =
      (payloads ++ (readFrom (offset + (row payloads).length) rest).1,
        (readFrom (offset + (row payloads).length) rest).2) := by
  induction payloads generalizing offset with
  | nil => rfl
  | cons payload payloads ih =>
    have hone := readOne_wrap_append offset (h payload List.mem_cons_self) (row payloads ++ rest)
    have hne : wrap payload ++ (row payloads ++ rest) ≠ [] := List.cons_ne_nil _ _
    have hoff : offset + (payload.length + overhead) + (row payloads).length =
        offset + (row (payload :: payloads)).length := by
      rw [row_cons, List.length_append, length_wrap, overhead]
      omega
    rw [row_cons, List.append_assoc, readFrom_of_readOne_ok hne hone,
      ih _ (fun p hp => h p (List.mem_cons_of_mem _ hp)), hoff]
    rfl

/-- What reading has taken is a row, and what it leaves is empty or begins with no envelope. -/
lemma exists_rest_of_readFrom (offset : ℕ) (octets : Octets) :
    ∃ rest, octets = row (readFrom offset octets).1 ++ rest ∧
      (∀ payload ∈ (readFrom offset octets).1, payload.length ≤ 65533) ∧
      ((readFrom offset octets).2 = none → rest = []) ∧
      ∀ fault, (readFrom offset octets).2 = some fault → rest ≠ [] ∧
        readOne (offset + (row (readFrom offset octets).1).length) rest = .error fault := by
  induction h : octets.length using Nat.strongRecOn generalizing offset octets with
  | _ n ih =>
    by_cases hne : octets = []
    · subst hne
      rw [readFrom_nil]
      exact ⟨[], rfl, by simp, fun _ => rfl, by simp⟩
    · cases hone : readOne offset octets with
      | error fault =>
        rw [readFrom_of_readOne_error hne hone]
        refine ⟨octets, rfl, by simp, by simp, ?_⟩
        intro fault' hf
        cases hf
        exact ⟨hne, hone⟩
      | ok read =>
        obtain ⟨payload, rest⟩ := read
        obtain ⟨hle, he⟩ := eq_wrap_append_of_readOne hone
        have hlt := length_lt_of_readOne hone
        obtain ⟨left, hrest, hall, hnone, hsome⟩ :=
          ih rest.length (h ▸ hlt) (offset + (payload.length + overhead)) rest rfl
        rw [readFrom_of_readOne_ok hne hone]
        refine ⟨left, ?_, ?_, hnone, ?_⟩
        · rw [row_cons, List.append_assoc, ← hrest, he]
        · intro p hp
          rcases List.mem_cons.mp hp with rfl | hp
          · exact hle
          · exact hall p hp
        · intro fault hf
          have hoff : ∀ k, offset + (payload.length + overhead) + k =
              offset + (payload.length + 6 + k) := by
            intro k
            rw [overhead]
            omega
          obtain ⟨hleft, hread⟩ := hsome fault hf
          rw [hoff] at hread
          rw [row_cons, List.length_append, length_wrap]
          exact ⟨hleft, hread⟩

lemma unwrap_eq_ok_iff_readFrom (octets : Octets) (payloads : List Octets) :
    unwrap octets = .ok payloads ↔ readFrom 0 octets = (payloads, none) := by
  unfold unwrap unwrapPartial
  rcases readFrom 0 octets with ⟨read, _ | fault⟩
  · simp
  · simp

lemma unwrap_row (payloads : List Octets) (h : ∀ payload ∈ payloads, payload.length ≤ 65533) :
    unwrap (row payloads) = .ok payloads := by
  have hread := readFrom_row_append payloads [] 0 h
  rw [readFrom_nil, List.append_nil, List.append_nil] at hread
  exact (unwrap_eq_ok_iff_readFrom _ _).mpr hread

lemma unwrap_wrap {payload : Octets} (h : payload.length ≤ 65533) :
    unwrap (wrap payload) = .ok [payload] := by
  have hrow := unwrap_row [payload] (List.forall_mem_singleton.mpr h)
  rwa [row_cons, row, List.map_nil, List.flatten_nil, List.append_nil] at hrow

lemma eq_row_of_unwrap {octets : Octets} {payloads : List Octets}
    (h : unwrap octets = .ok payloads) :
    octets = row payloads ∧ ∀ payload ∈ payloads, payload.length ≤ 65533 := by
  have hread := (unwrap_eq_ok_iff_readFrom _ _).mp h
  obtain ⟨rest, he, hall, hnone, -⟩ := exists_rest_of_readFrom 0 octets
  rw [hread] at he hall hnone
  rw [hnone rfl, List.append_nil] at he
  exact ⟨he, hall⟩

/-- `unwrap` gives payloads exactly for the row that `wrap` writes for them, if each of them has at
most 65533 octets, and refuses all other octets. -/
theorem unwrap_accepts_rows (octets : Octets) :
    (∀ payloads, unwrap octets = .ok payloads ↔
      octets = row payloads ∧ ∀ payload ∈ payloads, payload.length ≤ 65533) ∧
    ((∃ fault, unwrap octets = .error fault) ↔
      ¬∃ payloads, octets = row payloads ∧ ∀ payload ∈ payloads, payload.length ≤ 65533) := by
  have hiff : ∀ payloads, unwrap octets = .ok payloads ↔
      octets = row payloads ∧ ∀ payload ∈ payloads, payload.length ≤ 65533 := by
    intro payloads
    constructor
    · exact eq_row_of_unwrap
    · rintro ⟨rfl, hall⟩
      exact unwrap_row payloads hall
  refine ⟨hiff, ?_⟩
  simp only [← hiff]
  cases unwrap octets with
  | ok payloads => simp
  | error fault => simp

end PixelPanel.Proofs
