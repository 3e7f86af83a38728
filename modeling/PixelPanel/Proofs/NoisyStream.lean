import Mathlib.Data.List.GetD
import PixelPanel.Proofs.CleanStream

/-!
# Envelopes among noise

If no two envelopes of a stream overlap, the assembler finds them all, whatever stands between them
and however the stream is cut: the feed that brings the last octet of an envelope gives it. What is
kept between two feeds holds no complete envelope and reaches back to the start of every envelope
that is not complete yet.
-/

namespace PixelPanel.Proofs
open Envelope

/-- An envelope stands in a stream from a position on. -/
def Occurs (stream : Octets) (start : ℕ) (envelope : Octets) : Prop :=
  IsEnvelope envelope ∧ envelope <+: stream.drop start

/-- No two envelopes of a stream overlap. -/
def Apart (stream : Octets) : Prop :=
  ∀ start envelope start' envelope', Occurs stream start envelope →
    Occurs stream start' envelope' → (start, envelope) ≠ (start', envelope') →
    start + envelope.length ≤ start' ∨ start' + envelope'.length ≤ start

/-- The feeds of some chunks give each envelope of the stream once, in the order of the stream, and
feed `i` gives exactly those whose last octet is in chunk `i`. -/
def Delivers (chunks : List Octets) (emitted : List (List Octets)) : Prop :=
  ∃ found : List (List (ℕ × Octets)), emitted = found.map (·.map Prod.snd) ∧
    found.length = chunks.length ∧ found.flatten.Pairwise (fun a b => a.1 < b.1) ∧
    ∀ i start envelope, (start, envelope) ∈ found.getD i [] ↔
      Occurs chunks.flatten start envelope ∧
        (chunks.take i).flatten.length < start + envelope.length ∧
        start + envelope.length ≤ (chunks.take (i + 1)).flatten.length

/-! ### Envelopes in a part of the stream -/

section Part

variable {stream front octets later envelope : Octets} {start : ℕ}

lemma Occurs.length_pos (h : Occurs stream start envelope) : 0 < envelope.length :=
  List.length_pos_iff.mpr h.1.ne_nil

lemma Occurs.prefix_part (h : Occurs stream start envelope)
    (hstream : stream = front ++ octets ++ later) (hs : front.length ≤ start) :
    envelope <+: (octets ++ later).drop (start - front.length) := by
  have hp := h.2
  rwa [hstream, List.append_assoc, drop_append_of_length_le hs] at hp

/-- An envelope that ends within a part of the stream stands in that part. -/
lemma Occurs.begins_part (h : Occurs stream start envelope)
    (hstream : stream = front ++ octets ++ later) (hs : front.length ≤ start)
    (he : start + envelope.length ≤ front.length + octets.length) :
    envelope <+: octets.drop (start - front.length) := by
  have hp := h.prefix_part hstream hs
  rw [List.drop_append_of_le_length (by omega)] at hp
  refine List.prefix_of_prefix_length_le hp (List.prefix_append _ _) ?_
  rw [List.length_drop]
  omega

/-- An envelope that begins in a part of the stream and ends behind it waits in that part. -/
lemma Occurs.waiting_part (h : Occurs stream start envelope)
    (hstream : stream = front ++ octets ++ later) (hs : front.length ≤ start)
    (hlt : start < front.length + octets.length)
    (he : front.length + octets.length < start + envelope.length) :
    Waiting (octets.drop (start - front.length)) := by
  have hp := h.prefix_part hstream hs
  rw [List.drop_append_of_le_length (by omega)] at hp
  have hlen : (octets.drop (start - front.length)).length < envelope.length := by
    rw [List.length_drop]
    omega
  have hcut := List.prefix_of_prefix_length_le (List.prefix_append _ _) hp hlen.le
  refine waiting_of_cut h.1 hcut ?_ hlen
  rw [ne_eq, List.drop_eq_nil_iff]
  omega

lemma occurs_of_part (henv : IsEnvelope envelope)
    (hstream : stream = front ++ (envelope ++ octets)) : Occurs stream front.length envelope := by
  refine ⟨henv, ?_⟩
  rw [hstream, List.drop_left]
  exact List.prefix_append _ _

lemma Occurs.unique {envelope' : Octets} (h : Occurs stream start envelope)
    (h' : Occurs stream start envelope') : envelope = envelope' :=
  h.1.unique h'.1 h.2 h'.2

end Part

/-! ### What a scan takes and keeps -/

lemma GreedyScan.exists_skipped {octets kept : Octets} {envelopes : List Octets}
    (h : GreedyScan octets envelopes kept) : ∃ skipped, octets = skipped ++ kept := by
  induction h with
  | @take skipped envelope rest _ _ _ _ _ ih =>
    obtain ⟨more, rfl⟩ := ih
    exact ⟨skipped ++ (envelope ++ more), by simp only [List.append_assoc]⟩
  | @wait skipped => exact ⟨skipped, rfl⟩
  | @clear octets => exact ⟨octets, (List.append_nil octets).symm⟩

/-- No complete envelope is kept. -/
lemma GreedyScan.not_begins_kept {octets kept : Octets} {envelopes : List Octets}
    (h : GreedyScan octets envelopes kept) (k : ℕ) : ¬Begins (kept.drop k) := by
  induction h with
  | take _ _ _ ih => exact ih
  | @wait skipped kept hnone =>
    have hk := hnone (skipped.length + k)
    rwa [List.drop_length_add_append] at hk
  | clear =>
    rw [List.drop_nil]
    exact fun hb => hb.ne_nil rfl

/-- What is kept reaches back to the start of every envelope that ends behind the octets read. -/
lemma GreedyScan.le_of_occurs_later {stream front octets later kept : Octets}
    {envelopes : List Octets} (h : GreedyScan octets envelopes kept) (hapart : Apart stream)
    (hstream : stream = front ++ octets ++ later) {start : ℕ} {envelope : Octets}
    (hocc : Occurs stream start envelope) (hs : front.length ≤ start)
    (he : front.length + octets.length < start + envelope.length) :
    front.length + octets.length ≤ start + kept.length := by
  induction h generalizing front with
  | @take skipped inner rest kept envelopes henv hleft hrest ih =>
    have hpart : stream = front ++ skipped ++ (inner ++ (rest ++ later)) := by
      rw [hstream]
      simp only [List.append_assoc]
    have hinner := occurs_of_part henv hpart
    simp only [List.length_append] at he hs hinner ⊢
    have hne : (front.length + skipped.length, inner) ≠ (start, envelope) := by
      rintro heq
      obtain ⟨rfl, rfl⟩ := Prod.mk.inj heq
      omega
    -- the envelope cannot reach over the one just taken
    have hbehind : front.length + skipped.length + inner.length ≤ start := by
      rcases hapart _ _ _ _ hinner hocc hne with hle | hle
      · exact hle
      · omega
    have hnext : stream = front ++ skipped ++ inner ++ rest ++ later := by
      rw [hstream]
      simp only [List.append_assoc]
    have hrec := ih hnext (by simp only [List.length_append]; omega)
      (by simp only [List.length_append]; omega)
    simp only [List.length_append] at hrec
    omega
  | @wait skipped kept hnone hleft hwait =>
    rw [List.length_append] at he ⊢
    by_cases hlt : start < front.length + skipped.length
    · have hw := hocc.waiting_part hstream hs (by rw [List.length_append]; omega)
        (by rw [List.length_append]; omega)
      exact (hleft _ (by omega) hw).elim
    · omega
  | @clear octets hnone hclear =>
    by_cases hlt : start < front.length + octets.length
    · exact (hclear _ (hocc.waiting_part hstream hs hlt he)).elim
    · exact Nat.le_of_not_lt hlt

/-- A scan takes, from the left, exactly the envelopes that stand in the octets read. -/
lemma GreedyScan.exists_found {stream front octets later kept : Octets} {envelopes : List Octets}
    (h : GreedyScan octets envelopes kept) (hapart : Apart stream)
    (hstream : stream = front ++ octets ++ later) :
    ∃ found : List (ℕ × Octets), envelopes = found.map Prod.snd ∧
      found.Pairwise (fun a b => a.1 < b.1) ∧
      ∀ start envelope, (start, envelope) ∈ found ↔ Occurs stream start envelope ∧
        front.length ≤ start ∧ start + envelope.length ≤ front.length + octets.length := by
  induction h generalizing front with
  | @take skipped inner rest kept envelopes henv hleft hrest ih =>
    have hpart : stream = front ++ skipped ++ (inner ++ (rest ++ later)) := by
      rw [hstream]
      simp only [List.append_assoc]
    have hinner := occurs_of_part henv hpart
    have hpos := hinner.length_pos
    have hnext : stream = front ++ skipped ++ inner ++ rest ++ later := by
      rw [hstream]
      simp only [List.append_assoc]
    obtain ⟨found, rfl, hordered, hmem⟩ := ih hnext
    simp only [List.length_append] at hinner hmem
    refine ⟨(front.length + skipped.length, inner) :: found, rfl, ?_, ?_⟩
    · refine List.pairwise_cons.mpr ⟨?_, hordered⟩
      rintro ⟨start, envelope⟩ hm
      have hbounds := ((hmem start envelope).mp hm).2
      dsimp only
      omega
    · intro start envelope
      rw [List.mem_cons]
      constructor
      · rintro (heq | hm)
        · obtain ⟨rfl, rfl⟩ := Prod.mk.inj heq
          refine ⟨hinner, by omega, ?_⟩
          simp only [List.length_append]
          omega
        · obtain ⟨hocc, hs, he⟩ := (hmem start envelope).mp hm
          refine ⟨hocc, by omega, ?_⟩
          simp only [List.length_append]
          omega
      · rintro ⟨hocc, hs, he⟩
        by_cases heq : (front.length + skipped.length, inner) = (start, envelope)
        · exact .inl heq.symm
        · have hnext : front.length + skipped.length ≤ start := by
            by_contra hlt
            have hp := hocc.begins_part hstream hs he
            exact hleft _ (by omega) ⟨envelope, hocc.1, hp⟩
          rcases hapart _ _ _ _ hinner hocc heq with hle | hle
          · simp only [List.length_append] at he
            exact .inr ((hmem start envelope).mpr ⟨hocc, by omega, by omega⟩)
          · have hlt := hocc.length_pos
            omega
  | @wait skipped kept hnone _ _ =>
    refine ⟨[], rfl, List.Pairwise.nil, fun start envelope => ⟨by simp, ?_⟩⟩
    rintro ⟨hocc, hs, he⟩
    exact (hnone _ ⟨envelope, hocc.1, hocc.begins_part hstream hs he⟩).elim
  | @clear octets hnone _ =>
    refine ⟨[], rfl, List.Pairwise.nil, fun start envelope => ⟨by simp, ?_⟩⟩
    rintro ⟨hocc, hs, he⟩
    exact (hnone _ ⟨envelope, hocc.1, hocc.begins_part hstream hs he⟩).elim

/-! ### From feed to feed -/

/-- What holds between two feeds, when the octets `past` of the stream have been fed. -/
structure Between (stream past kept : Octets) : Prop where
  suffix : kept <:+ past
  quiet : ∀ k, ¬Begins (kept.drop k)
  reaches : ∀ start envelope, Occurs stream start envelope →
    past.length < start + envelope.length → past.length ≤ start + kept.length

lemma between_nil (stream : Octets) : Between stream [] [] where
  suffix := List.suffix_refl _
  quiet := GreedyScan.nil.not_begins_kept
  reaches _ _ _ _ := Nat.zero_le _

/-- One feed gives the envelopes that end in its chunk. -/
lemma Between.feed {stream past kept chunk later : Octets} (h : Between stream past kept)
    (hapart : Apart stream) (hstream : stream = past ++ chunk ++ later) :
    Between stream (past ++ chunk) (Assembler.feed ⟨kept⟩ chunk).buffer ∧
      ∃ found : List (ℕ × Octets),
        (Assembler.feed ⟨kept⟩ chunk).envelopes = found.map Prod.snd ∧
        found.Pairwise (fun a b => a.1 < b.1) ∧
        ∀ start envelope, (start, envelope) ∈ found ↔ Occurs stream start envelope ∧
          past.length < start + envelope.length ∧
          start + envelope.length ≤ past.length + chunk.length := by
  obtain ⟨front, hpast⟩ := h.suffix
  have hscan : GreedyScan (kept ++ chunk) (Assembler.feed ⟨kept⟩ chunk).envelopes
      (Assembler.feed ⟨kept⟩ chunk).buffer := feed_greedy ⟨kept⟩ chunk
  have hpart : stream = front ++ (kept ++ chunk) ++ later := by
    rw [hstream, ← hpast]
    simp only [List.append_assoc]
  have hlen : past.length = front.length + kept.length := by
    rw [← hpast, List.length_append]
  constructor
  · refine ⟨?_, hscan.not_begins_kept, ?_⟩
    · obtain ⟨skipped, hskipped⟩ := hscan.exists_skipped
      refine ⟨front ++ skipped, ?_⟩
      rw [List.append_assoc, ← hskipped, ← hpast, List.append_assoc]
    · intro start envelope hocc he
      rw [List.length_append] at he ⊢
      have hs := h.reaches start envelope hocc (by omega)
      have hle := hscan.le_of_occurs_later hapart hpart hocc (by omega)
        (by rw [List.length_append]; omega)
      rw [List.length_append] at hle
      omega
  · obtain ⟨found, hfound, hordered, hmem⟩ := hscan.exists_found hapart hpart
    refine ⟨found, hfound, hordered, fun start envelope => (hmem start envelope).trans ?_⟩
    rw [List.length_append]
    constructor
    · rintro ⟨hocc, hs, he⟩
      refine ⟨hocc, ?_, by omega⟩
      -- an envelope that ended in the past would still be kept whole
      by_contra hle
      have hkept : stream = front ++ kept ++ (chunk ++ later) := by
        rw [hpart]
        simp only [List.append_assoc]
      have hp := hocc.begins_part hkept hs (by omega)
      exact h.quiet _ ⟨envelope, hocc.1, hp⟩
    · rintro ⟨hocc, hlt, he⟩
      have hs := h.reaches start envelope hocc hlt
      exact ⟨hocc, by omega, by omega⟩

/-- All feeds together give the envelopes that end in their chunks. -/
lemma Between.feedAll {stream past kept : Octets} {chunks : List Octets}
    (h : Between stream past kept) (hapart : Apart stream)
    (hstream : stream = past ++ chunks.flatten) :
    ∃ found : List (List (ℕ × Octets)),
      (Assembler.feedAll ⟨kept⟩ chunks).1 = found.map (·.map Prod.snd) ∧
      found.length = chunks.length ∧ found.flatten.Pairwise (fun a b => a.1 < b.1) ∧
      ∀ i start envelope, (start, envelope) ∈ found.getD i [] ↔ Occurs stream start envelope ∧
        past.length + (chunks.take i).flatten.length < start + envelope.length ∧
        start + envelope.length ≤ past.length + (chunks.take (i + 1)).flatten.length := by
  induction chunks generalizing past kept with
  | nil =>
    refine ⟨[], rfl, rfl, List.Pairwise.nil, fun i start envelope => ⟨by simp, ?_⟩⟩
    simp only [List.take_nil, List.flatten_nil, List.length_nil]
    omega
  | cons chunk chunks ih =>
    rw [List.flatten_cons, ← List.append_assoc] at hstream
    obtain ⟨hnext, first, hfirst, hordered, hmem⟩ := h.feed hapart hstream
    obtain ⟨found, hfound, hlength, hrest, hmems⟩ := ih hnext hstream
    refine ⟨first :: found, ?_, ?_, ?_, ?_⟩
    · rw [feedAll_cons, hfirst, hfound, List.map_cons]
    · rw [List.length_cons, List.length_cons, hlength]
    · rw [List.flatten_cons, List.pairwise_append]
      refine ⟨hordered, hrest, ?_⟩
      rintro ⟨start, envelope⟩ hm ⟨start', envelope'⟩ hm'
      -- the second envelope ends behind the chunk in which the first one ends
      obtain ⟨group, hgroup, hmember⟩ := List.mem_flatten.mp hm'
      obtain ⟨i, hi, rfl⟩ := List.getElem_of_mem hgroup
      rw [← List.getD_eq_getElem found [] hi] at hmember
      obtain ⟨hocc, -, he⟩ := (hmem start envelope).mp hm
      obtain ⟨hocc', hlt, -⟩ := (hmems i start' envelope').mp hmember
      rw [List.length_append] at hlt
      have hne : (start, envelope) ≠ (start', envelope') := by
        intro heq
        obtain ⟨rfl, rfl⟩ := Prod.mk.inj heq
        omega
      have hpos := hocc.length_pos
      have hpos' := hocc'.length_pos
      dsimp only
      rcases hapart _ _ _ _ hocc hocc' hne with hle | hle <;> omega
    · intro i start envelope
      cases i with
      | zero => simpa using hmem start envelope
      | succ i =>
        rw [List.getD_cons_succ, hmems]
        simp only [List.take_succ_cons, List.flatten_cons, List.length_append, Nat.add_assoc]

/-- On a stream whose envelopes do not overlap, the assembler gives every envelope once, in order and
in the feed that brings its last octet, and nothing else. -/
theorem feedAll_delivers (chunks : List Octets) (hapart : Apart chunks.flatten) :
    Delivers chunks (Assembler.feedAll {} chunks).1 := by
  obtain ⟨found, hfound, hlength, hordered, hmem⟩ :=
    (between_nil chunks.flatten).feedAll hapart rfl
  refine ⟨found, hfound, hlength, hordered, ?_⟩
  simpa only [List.length_nil, Nat.zero_add] using hmem

/-- Two envelopes among noise: a false start in front of the first, a stray start mark in front of
the second, and cuts inside of both. -/
def noisyChunks : List Octets :=
  [[0xff, 0x01, 0x40, 0x00] ++ (wrap [0x04, 0x09]).take 3,
    (wrap [0x04, 0x09]).drop 3 ++ [0x01] ++ (wrap []).take 1, [], (wrap []).drop 1 ++ [0x33]]

theorem feedAll_delivers_two_envelopes :
    Apart noisyChunks.flatten ∧ Delivers noisyChunks [[], [wrap [0x04, 0x09]], [], [wrap []]] := by
  have hstarts : ∀ start < noisyChunks.flatten.length,
      nextComplete? (noisyChunks.flatten.drop start) = some 0 → start = 4 ∨ start = 13 := by
    decide
  have hfirst : Occurs noisyChunks.flatten 4 (wrap [0x04, 0x09]) :=
    ⟨⟨_, by decide, rfl⟩, by decide⟩
  have hplace : ∀ start envelope, Occurs noisyChunks.flatten start envelope →
      start = 4 ∧ envelope = wrap [0x04, 0x09] ∨ start = 13 := by
    intro start envelope hocc
    have hb : Begins (noisyChunks.flatten.drop start) := ⟨envelope, hocc⟩
    have hlt : start < noisyChunks.flatten.length := by
      by_contra hle
      exact hb.ne_nil (List.drop_eq_nil_of_le (Nat.le_of_not_lt hle))
    rcases hstarts start hlt (nextComplete?_of_begins hb) with rfl | rfl
    · exact .inl ⟨rfl, hocc.unique hfirst⟩
    · exact .inr rfl
  have hapart : Apart noisyChunks.flatten := by
    intro start envelope start' envelope' hocc hocc' hne
    rcases hplace start envelope hocc with ⟨rfl, rfl⟩ | rfl <;>
      rcases hplace start' envelope' hocc' with ⟨rfl, rfl⟩ | rfl
    · exact (hne rfl).elim
    · exact .inl (by decide)
    · exact .inr (by decide)
    · exact (hne (by rw [hocc.unique hocc'])).elim
  have hemitted : (Assembler.feedAll {} noisyChunks).1 =
      [[], [wrap [0x04, 0x09]], [], [wrap []]] := by
    decide +kernel
  rw [← hemitted]
  exact ⟨hapart, feedAll_delivers noisyChunks hapart⟩

end PixelPanel.Proofs
