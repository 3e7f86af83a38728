import PixelPanel.Proofs.GreedyScan

/-!
# Rows of envelopes cut into chunks

A row of envelopes survives every cut into chunks exactly if no envelope of the row hides another
one. An envelope hides another one if an initial part, short of the whole, already contains a
complete envelope further on: a cut right behind that part makes the assembler take the inner
envelope and give up the outer one.
-/

namespace PixelPanel.Proofs
open Envelope

/-- A complete envelope ends before the octets do, and begins behind their first octet. -/
def Hides (octets : Octets) : Prop :=
  ∃ (initial : Octets) (offset : ℕ), initial <+: octets ∧ initial.length < octets.length ∧
    1 ≤ offset ∧ Begins (initial.drop offset)

/-- What is kept is shorter than the first envelope that is still to come. -/
def Pending (kept : Octets) : List Octets → Prop
  | [] => kept = []
  | payload :: _ => kept.length < (wrap payload).length

lemma feedAll_cons (assembler : Assembler) (chunk : Octets) (chunks : List Octets) :
    assembler.feedAll (chunk :: chunks) =
      ((assembler.feed chunk).envelopes :: (Assembler.feedAll ⟨(assembler.feed chunk).buffer⟩ chunks).1,
        (Assembler.feedAll ⟨(assembler.feed chunk).buffer⟩ chunks).2) := rfl

/-! ### Rows without hidden envelopes -/

/-- An envelope that is cut short is kept whole, if it hides no other one. -/
lemma greedyScan_of_cut {envelope initial : Octets} (henv : IsEnvelope envelope)
    (hclean : ¬Hides envelope) (hp : initial <+: envelope)
    (hlt : initial.length < envelope.length) : GreedyScan initial [] initial := by
  by_cases hne : initial = []
  · rw [hne]
    exact .nil
  · have hnone : ∀ k, ¬Begins (initial.drop k) := by
      intro k hb
      cases k with
      | zero =>
        obtain ⟨inner, hinner, hq⟩ := hb
        have hsame := hinner.unique henv (hq.trans hp) (List.prefix_refl _)
        have hle := hq.length_le
        rw [hsame, List.drop_zero] at hle
        omega
      | succ k => exact hclean ⟨initial, k + 1, hp, hlt, by omega, hb⟩
    exact .wait_front hnone (waiting_of_cut henv hp hne hlt)

/-- The scan of the initial part of a row takes the envelopes that are whole and keeps the rest. -/
lemma greedyScan_of_initial {payloads : List Octets} {initial later : Octets}
    (hclean : ∀ payload ∈ payloads, payload.length ≤ 510 ∧ ¬Hides (wrap payload))
    (he : initial ++ later = row payloads) :
    ∃ done todo kept, payloads = done ++ todo ∧ GreedyScan initial (done.map wrap) kept ∧
      kept ++ later = row todo ∧ Pending kept todo := by
  induction payloads generalizing initial with
  | nil =>
    obtain ⟨rfl, rfl⟩ := List.append_eq_nil_iff.mp he
    exact ⟨[], [], [], rfl, .nil, rfl, rfl⟩
  | cons payload payloads ih =>
    obtain ⟨hshort, hhides⟩ := hclean payload List.mem_cons_self
    have henv : IsEnvelope (wrap payload) := ⟨payload, hshort, rfl⟩
    have hp : initial <+: row (payload :: payloads) := ⟨later, he⟩
    have hq : wrap payload <+: row (payload :: payloads) := List.prefix_append _ _
    by_cases hle : (wrap payload).length ≤ initial.length
    · obtain ⟨initial', rfl⟩ := List.prefix_of_prefix_length_le hq hp hle
      rw [row_cons, List.append_assoc] at he
      obtain ⟨done, todo, kept, rfl, hscan, hkept, hpending⟩ :=
        ih (fun p hm => hclean p (List.mem_cons_of_mem _ hm)) (List.append_cancel_left he)
      exact ⟨payload :: done, todo, kept, rfl, .take_front henv hscan, hkept,
        hpending⟩
    · have hlt : initial.length < (wrap payload).length := by omega
      have hcut := List.prefix_of_prefix_length_le hp hq (by omega)
      exact ⟨[], payload :: payloads, initial, rfl, greedyScan_of_cut henv hhides hcut hlt, he, hlt⟩

/-- However the octets of a row still come, its envelopes come out. -/
lemma feedAll_of_clean {chunks payloads : List Octets} {kept : Octets}
    (hclean : ∀ payload ∈ payloads, payload.length ≤ 510 ∧ ¬Hides (wrap payload))
    (he : kept ++ chunks.flatten = row payloads) (hpending : Pending kept payloads) :
    (Assembler.feedAll ⟨kept⟩ chunks).1.flatten = payloads.map wrap ∧
      (Assembler.feedAll ⟨kept⟩ chunks).2.buffer = [] := by
  induction chunks generalizing kept payloads with
  | nil =>
    rw [List.flatten_nil, List.append_nil] at he
    cases payloads with
    | nil => exact ⟨rfl, hpending⟩
    | cons payload payloads =>
      have hlen := congrArg List.length he
      rw [row_cons, List.length_append] at hlen
      have hlt : kept.length < (wrap payload).length := hpending
      omega
  | cons chunk chunks ih =>
    rw [List.flatten_cons, ← List.append_assoc] at he
    obtain ⟨done, todo, kept', rfl, hscan, hkept, hpending'⟩ := greedyScan_of_initial hclean he
    obtain ⟨henvelopes, hbuffer⟩ := (feed_greedy ⟨kept⟩ chunk).unique hscan
    obtain ⟨hrest, hlast⟩ :=
      ih (fun p hm => hclean p (List.mem_append_right _ hm)) hkept hpending'
    rw [feedAll_cons, hbuffer, henvelopes, List.flatten_cons, hrest, List.map_append]
    exact ⟨rfl, hlast⟩

/-! ### The cut that loses an envelope -/

/-- Some octets that contain an envelope give one that is not longer than they are. -/
lemma GreedyScan.exists_head {octets kept : Octets} {envelopes : List Octets}
    (h : GreedyScan octets envelopes kept) {offset : ℕ} (hb : Begins (octets.drop offset)) :
    ∃ envelope rest, envelopes = envelope :: rest ∧ envelope.length ≤ octets.length := by
  cases h with
  | @take skipped envelope rest _ envelopes =>
    refine ⟨envelope, envelopes, rfl, ?_⟩
    simp only [List.length_append]
    omega
  | wait hnone => exact (hnone offset hb).elim
  | clear hnone => exact (hnone offset hb).elim

/-- Two chunks, cut behind the hidden envelope, lose the envelope around it. -/
lemma exists_cut_of_hides {payloads : List Octets} {payload : Octets}
    (hshort : ∀ payload ∈ payloads, payload.length ≤ 510) (hmem : payload ∈ payloads)
    (hhides : Hides (wrap payload)) :
    ∃ chunks : List Octets, chunks.flatten = row payloads ∧
      (Assembler.feedAll {} chunks).1.flatten ≠ payloads.map wrap := by
  obtain ⟨initial, offset, ⟨remaining, hwhole⟩, hlt, -, hb⟩ := hhides
  obtain ⟨done, after, rfl⟩ := List.append_of_mem hmem
  refine ⟨[row done ++ initial, remaining ++ row after], ?_, ?_⟩
  · rw [row_append, row_cons, ← hwhole]
    simp
  · -- the first chunk gives the envelopes before, and then one that is shorter than the cut one
    have hscan := (assemble_greedy initial).row_append
      (fun p hm => hshort p (List.mem_append_left _ hm))
    obtain ⟨henvelopes, -⟩ := (feed_greedy {} (row done ++ initial)).unique hscan
    obtain ⟨envelope, rest, hhead, hle⟩ := (assemble_greedy initial).exists_head hb
    rw [feedAll_cons, henvelopes, hhead, List.flatten_cons, List.append_assoc, List.map_append]
    intro heq
    have hcons := List.append_cancel_left heq
    rw [List.cons_append, List.map_cons] at hcons
    have hsame := (List.cons.inj hcons).1
    rw [hsame] at hle
    omega

/-- A row of envelopes comes out whole and leaves nothing behind for every cut into chunks exactly
if no envelope of it hides another one. -/
theorem lossless_iff_not_hides (payloads : List Octets)
    (hshort : ∀ payload ∈ payloads, payload.length ≤ 510) :
    (∀ chunks : List Octets, chunks.flatten = row payloads →
      (Assembler.feedAll {} chunks).1.flatten = payloads.map wrap ∧
        (Assembler.feedAll {} chunks).2.buffer = []) ↔
    ∀ payload ∈ payloads, ¬Hides (wrap payload) := by
  constructor
  · intro hlossless payload hmem hhides
    obtain ⟨chunks, hcut, hne⟩ := exists_cut_of_hides hshort hmem hhides
    exact hne (hlossless chunks hcut).1
  · intro hclean chunks hcut
    refine feedAll_of_clean (fun p hm => ⟨hshort p hm, hclean p hm⟩) hcut ?_
    cases payloads with
    | nil => rfl
    | cons payload payloads => exact Nat.lt_of_lt_of_eq (Nat.succ_pos _) (length_wrap payload).symm

/-- A payload that holds a whole envelope and one octet more is lost by some cut. -/
theorem lossless_iff_not_hides_inner_envelope :
    (∀ payload ∈ [wrap [0x46] ++ [0x00]], payload.length ≤ 510) ∧
    ¬∀ chunks : List Octets, chunks.flatten = row [wrap [0x46] ++ [0x00]] →
      (Assembler.feedAll {} chunks).1.flatten = [wrap [0x46] ++ [0x00]].map wrap ∧
        (Assembler.feedAll {} chunks).2.buffer = [] := by
  have hshort : ∀ payload ∈ [wrap [0x46] ++ [0x00]], payload.length ≤ 510 := by decide
  refine ⟨hshort, fun hlossless => ?_⟩
  have hclean := (lossless_iff_not_hides _ hshort).mp hlossless _ List.mem_cons_self
  have henv : IsEnvelope (wrap [0x46]) := ⟨[0x46], by decide, rfl⟩
  exact hclean ⟨(wrap (wrap [0x46] ++ [0x00])).take 10, 3, by decide, by decide, by decide,
    wrap [0x46], henv, by decide⟩

end PixelPanel.Proofs
