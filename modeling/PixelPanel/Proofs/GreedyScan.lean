import Mathlib.Data.List.TakeWhile
import PixelPanel.Proofs.EnvelopeRow

/-!
# The greedy scan

A feed reads what was kept and the new octets from the left: it takes the leftmost complete
envelope, goes on right behind it, and keeps the octets from the first start mark that still waits
once no envelope is left. `GreedyScan` states this reading without the noise, the false starts and
the second search that the assembler interleaves, and the assembler is shown to compute it.
-/

namespace PixelPanel.Proofs
open Envelope

/-- The greedy reading of some octets: the envelopes taken and the octets kept. -/
inductive GreedyScan : Octets → List Octets → Octets → Prop
  /-- The leftmost envelope is taken, and the scan goes on right behind it. -/
  | take {skipped envelope rest kept : Octets} {envelopes : List Octets}
      (henv : IsEnvelope envelope)
      (hleft : ∀ k < skipped.length, ¬Begins ((skipped ++ (envelope ++ rest)).drop k))
      (hrest : GreedyScan rest envelopes kept) :
      GreedyScan (skipped ++ (envelope ++ rest)) (envelope :: envelopes) kept
  /-- No envelope is left, and the first start mark that waits is kept with all behind it. -/
  | wait {skipped kept : Octets} (hnone : ∀ k, ¬Begins ((skipped ++ kept).drop k))
      (hleft : ∀ k < skipped.length, ¬Waiting ((skipped ++ kept).drop k)) (hwait : Waiting kept) :
      GreedyScan (skipped ++ kept) [] kept
  /-- No envelope is left and no start mark waits. -/
  | clear {octets : Octets} (hnone : ∀ k, ¬Begins (octets.drop k))
      (hclear : ∀ k, ¬Waiting (octets.drop k)) : GreedyScan octets [] []

/-! ### The scan is determined -/

/-- A leftmost position is the only one. -/
lemma leftmost_unique {P : Octets → Prop} {front back front' back' : Octets}
    (he : front ++ back = front' ++ back') (hback : P back) (hback' : P back')
    (hleft : ∀ k < front.length, ¬P ((front ++ back).drop k))
    (hleft' : ∀ k < front'.length, ¬P ((front' ++ back').drop k)) :
    front = front' ∧ back = back' := by
  apply List.append_inj he
  rcases Nat.lt_trichotomy front.length front'.length with hlt | heq | hlt
  · have hnot := hleft' front.length hlt
    rw [← he, List.drop_left] at hnot
    exact (hnot hback).elim
  · exact heq
  · have hnot := hleft front'.length hlt
    rw [he, List.drop_left] at hnot
    exact (hnot hback').elim

lemma not_of_forall_drop {P : Octets → Prop} {octets front back : Octets}
    (h : ∀ k, ¬P (octets.drop k)) (he : octets = front ++ back) : ¬P back := by
  intro hback
  have hnot := h front.length
  rw [he, List.drop_left] at hnot
  exact hnot hback

lemma GreedyScan.unique_of_eq {octets octets' kept kept' : Octets} {envelopes envelopes' : List Octets}
    (h : GreedyScan octets envelopes kept) (h' : GreedyScan octets' envelopes' kept')
    (he : octets = octets') : envelopes = envelopes' ∧ kept = kept' := by
  induction h generalizing octets' envelopes' kept' with
  | @take skipped envelope rest kept envelopes henv hleft hrest ih =>
    have hbegins : Begins (envelope ++ rest) := ⟨envelope, henv, List.prefix_append _ _⟩
    cases h' with
    | @take skipped' envelope' rest' _ envelopes' henv' hleft' hrest' =>
      obtain ⟨-, hback⟩ := leftmost_unique he hbegins
        ⟨envelope', henv', List.prefix_append _ _⟩ hleft hleft'
      have hsame : envelope = envelope' := henv.unique henv' (List.prefix_append _ rest)
        (hback ▸ List.prefix_append _ _)
      subst hsame
      obtain ⟨rfl, rfl⟩ := ih hrest' (List.append_cancel_left hback)
      exact ⟨rfl, rfl⟩
    | wait hnone => exact (not_of_forall_drop hnone he.symm hbegins).elim
    | clear hnone => exact (not_of_forall_drop hnone he.symm hbegins).elim
  | @wait skipped kept hnone hleft hwait =>
    cases h' with
    | take henv' =>
      exact (not_of_forall_drop hnone he ⟨_, henv', List.prefix_append _ _⟩).elim
    | wait _ hleft' hwait' =>
      exact ⟨rfl, (leftmost_unique he hwait hwait' hleft hleft').2⟩
    | clear _ hclear => exact (not_of_forall_drop hclear he.symm hwait).elim
  | @clear octets hnone hclear =>
    cases h' with
    | take henv' =>
      exact (not_of_forall_drop hnone he ⟨_, henv', List.prefix_append _ _⟩).elim
    | wait _ _ hwait' => exact (not_of_forall_drop hclear he hwait').elim
    | clear => exact ⟨rfl, rfl⟩

lemma GreedyScan.unique {octets kept kept' : Octets} {envelopes envelopes' : List Octets}
    (h : GreedyScan octets envelopes kept) (h' : GreedyScan octets envelopes' kept') :
    envelopes = envelopes' ∧ kept = kept' :=
  h.unique_of_eq h' rfl

/-! ### Octets in front of a scan -/

lemma drop_append_of_length_le {front : Octets} {k : ℕ} (h : front.length ≤ k) (back : Octets) :
    (front ++ back).drop k = back.drop (k - front.length) := by
  rw [List.drop_append, List.drop_eq_nil_of_le h, List.nil_append]

/-- Nothing begins in `front`, so nothing begins before a position that is left of all in `back`. -/
lemma forall_lt_drop_append {P : Octets → Prop} {front back : Octets} {n : ℕ}
    (hfront : ∀ k < front.length, ¬P ((front ++ back).drop k)) (hback : ∀ k < n, ¬P (back.drop k)) :
    ∀ k < front.length + n, ¬P ((front ++ back).drop k) := by
  intro k hk
  by_cases hlt : k < front.length
  · exact hfront k hlt
  · rw [drop_append_of_length_le (by omega)]
    exact hback _ (by omega)

lemma forall_drop_append {P : Octets → Prop} {front back : Octets}
    (hfront : ∀ k < front.length, ¬P ((front ++ back).drop k)) (hback : ∀ k, ¬P (back.drop k)) :
    ∀ k, ¬P ((front ++ back).drop k) := fun k =>
  forall_lt_drop_append hfront (fun j (_ : j < k + 1) => hback j) k (by omega)

/-- Octets in which nothing begins may stand in front of a scan, if nothing in them waits or an
envelope follows right behind them. -/
lemma GreedyScan.prepend {octets kept : Octets} {envelopes : List Octets}
    (h : GreedyScan octets envelopes kept) (front : Octets)
    (hfront : ∀ k < front.length, ¬Begins ((front ++ octets).drop k))
    (hwaits : (∀ k < front.length, ¬Waiting ((front ++ octets).drop k)) ∨ Begins octets) :
    GreedyScan (front ++ octets) envelopes kept := by
  cases h with
  | @take skipped envelope rest _ envelopes henv hleft hrest =>
    rw [← List.append_assoc]
    refine .take henv ?_ hrest
    rw [List.length_append, List.append_assoc]
    exact forall_lt_drop_append hfront hleft
  | @wait skipped _ hnone hleft hwait =>
    rcases hwaits with hwaits | hbegins
    · rw [← List.append_assoc]
      refine .wait ?_ ?_ hwait
      · rw [List.append_assoc]
        exact forall_drop_append hfront hnone
      · rw [List.length_append, List.append_assoc]
        exact forall_lt_drop_append hwaits hleft
    · exact (hnone 0 hbegins).elim
  | clear hnone hclear =>
    rcases hwaits with hwaits | hbegins
    · exact .clear (forall_drop_append hfront hnone) (forall_drop_append hwaits hclear)
    · exact (hnone 0 hbegins).elim

lemma GreedyScan.take_front {envelope rest kept : Octets} {envelopes : List Octets}
    (henv : IsEnvelope envelope) (hrest : GreedyScan rest envelopes kept) :
    GreedyScan (envelope ++ rest) (envelope :: envelopes) kept := by
  rw [← List.nil_append (envelope ++ rest)]
  exact .take henv (by simp) hrest

lemma GreedyScan.wait_front {octets : Octets} (hnone : ∀ k, ¬Begins (octets.drop k))
    (hwait : Waiting octets) : GreedyScan octets [] octets := by
  conv => arg 1; rw [← List.nil_append octets]
  exact .wait hnone (by simp) hwait

lemma GreedyScan.nil : GreedyScan [] [] [] := by
  refine .clear ?_ ?_
  · intro k hb
    rw [List.drop_nil] at hb
    exact hb.ne_nil rfl
  · intro k hw
    rw [List.drop_nil] at hw
    exact hw

/-- The envelopes of a row in front of a scan are taken first. -/
lemma GreedyScan.row_append {payloads envelopes : List Octets} {octets kept : Octets}
    (h : GreedyScan octets envelopes kept) (hshort : ∀ payload ∈ payloads, payload.length ≤ 510) :
    GreedyScan (row payloads ++ octets) (payloads.map wrap ++ envelopes) kept := by
  induction payloads with
  | nil => exact h
  | cons payload payloads ih =>
    have henv : IsEnvelope (wrap payload) := ⟨payload, hshort payload List.mem_cons_self, rfl⟩
    have hrest := ih (fun p hp => hshort p (List.mem_cons_of_mem _ hp))
    rw [row_cons, List.append_assoc]
    exact .take_front henv hrest

/-! ### The search for a later envelope -/

lemma nextComplete?_of_begins {octets : Octets} (h : Begins octets) :
    nextComplete? octets = some 0 := by
  obtain ⟨envelope, henv, hp⟩ := h
  cases octets with
  | nil => exact (henv.ne_nil (List.prefix_nil.mp hp)).elim
  | cons octet rest =>
    obtain rfl := henv.head hp
    have hc := (candidate_eq_complete_iff rest _).mpr ⟨envelope, henv, hp, rfl⟩
    rw [nextComplete?, beq_self_eq_true, hc]

lemma nextComplete?_cons_of_not_begins {octet : UInt8} {rest : Octets}
    (h : ¬Begins (octet :: rest)) :
    nextComplete? (octet :: rest) = (nextComplete? rest).map (· + 1) := by
  rw [nextComplete?]
  split
  · rename_i size hmark hc
    rw [beq_iff_eq.mp hmark] at h hc
    exact (h ((begins_iff_candidate rest).mpr ⟨size, hc⟩)).elim
  · rfl

lemma nextComplete?_eq_none {octets : Octets} (h : nextComplete? octets = none) :
    ∀ k, ¬Begins (octets.drop k) := by
  induction octets with
  | nil =>
    intro k hb
    rw [List.drop_nil] at hb
    exact hb.ne_nil rfl
  | cons octet rest ih =>
    by_cases hb : Begins (octet :: rest)
    · rw [nextComplete?_of_begins hb] at h
      cases h
    · rw [nextComplete?_cons_of_not_begins hb, Option.map_eq_none_iff] at h
      intro k
      cases k with
      | zero => exact hb
      | succ k => exact ih h k

lemma nextComplete?_eq_some {octets : Octets} {distance : ℕ}
    (h : nextComplete? octets = some distance) :
    Begins (octets.drop distance) ∧ ∀ k < distance, ¬Begins (octets.drop k) := by
  induction octets generalizing distance with
  | nil => cases h
  | cons octet rest ih =>
    by_cases hb : Begins (octet :: rest)
    · rw [nextComplete?_of_begins hb] at h
      cases h
      exact ⟨hb, by simp⟩
    · rw [nextComplete?_cons_of_not_begins hb] at h
      obtain ⟨before, hbefore, rfl⟩ := Option.map_eq_some_iff.mp h
      obtain ⟨hbegins, hleft⟩ := ih hbefore
      refine ⟨hbegins, ?_⟩
      intro k hk
      cases k with
      | zero => exact hb
      | succ k => exact hleft k (by omega)

/-! ### The assembler scans greedily -/

/-- Octets that are no start mark stand before the first one. -/
lemma exists_noise (octets : Octets) :
    ∃ front, octets = front ++ octets.dropWhile (· != startMark) ∧
      ∀ octet ∈ front, octet ≠ startMark := by
  refine ⟨octets.takeWhile (· != startMark), List.takeWhile_append_dropWhile.symm, ?_⟩
  intro octet hmem
  simpa using List.mem_takeWhile_imp hmem

lemma eq_startMark_of_dropWhile {octets rest : Octets} {start : UInt8}
    (hs : octets.dropWhile (· != startMark) = start :: rest) : start = startMark := by
  have hnot := List.head?_dropWhile_not (· != startMark) octets
  rw [hs] at hnot
  simpa using hnot

/-- In octets that are no start mark neither an envelope begins nor a start mark that waits. -/
lemma drop_of_forall_ne {front : Octets} (h : ∀ octet ∈ front, octet ≠ startMark) (back : Octets) :
    ∀ k < front.length, ¬Begins ((front ++ back).drop k) ∧ ¬Waiting ((front ++ back).drop k) := by
  intro k hk
  have hne : front[k] ≠ startMark := h _ (List.getElem_mem hk)
  rw [List.drop_append_of_le_length (Nat.le_of_lt hk), List.drop_eq_getElem_cons hk, List.cons_append]
  exact ⟨not_begins_of_ne hne _, not_waiting_of_ne hne _⟩

lemma assemble_of_noise {octets : Octets} (hs : octets.dropWhile (· != startMark) = []) :
    (assemble octets).envelopes = [] ∧ (assemble octets).buffer = [] := by
  rw [assemble]
  split
  · exact ⟨rfl, rfl⟩
  · rename_i hs'
    rw [hs] at hs'
    cases hs'

/-- One round of the assembler at the first start mark. -/
lemma assemble_of_start {octets rest : Octets} {start : UInt8}
    (hs : octets.dropWhile (· != startMark) = start :: rest) :
    ∃ before, (octets.takeWhile (· != startMark) = [] → before = []) ∧ assemble octets =
      match candidate (start :: rest) with
      | .complete size =>
        let fed := assemble ((start :: rest).drop size)
        ⟨fed.buffer, (start :: rest).take size :: fed.envelopes, before ++ fed.discards⟩
      | .invalid =>
        let fed := assemble rest
        { fed with discards := before ++ fed.discards }
      | .incomplete =>
        match nextComplete? rest with
        | none => ⟨start :: rest, [], before⟩
        | some distance =>
          let fed := assemble (rest.drop distance)
          { fed with discards := before ++ .falseStart (distance + 1) :: fed.discards } := by
  rw [assemble]
  split
  · rename_i hs'
    rw [hs] at hs'
    cases hs'
  · rename_i start' rest' hs'
    obtain ⟨rfl, rfl⟩ := List.cons.inj (hs.symm.trans hs')
    refine ⟨if (octets.takeWhile (· != startMark)).isEmpty then []
      else [.beforeStart (octets.takeWhile (· != startMark)).length], ?_, ?_⟩
    · intro hnone
      rw [hnone]
      rfl
    dsimp only
    generalize (if (octets.takeWhile (· != startMark)).isEmpty then []
      else [Discard.beforeStart (octets.takeWhile (· != startMark)).length]) = before
    split
    · rename_i size hc
      rw [hc]
    · rename_i hc
      rw [hc]
    · rename_i hc
      rw [hc]
      dsimp only
      split
      · rename_i hn
        rw [hn]
      · rename_i distance hn
        rw [hn]

lemma forall_drop_cons {P : Octets → Prop} {octet : UInt8} {rest : Octets}
    (hhead : ¬P (octet :: rest)) {n : ℕ} (htail : ∀ k < n, ¬P (rest.drop k)) :
    ∀ k < n + 1, ¬P ((octet :: rest).drop k) := by
  intro k hk
  cases k with
  | zero => exact hhead
  | succ k => exact htail k (by omega)

lemma not_begins_of_candidate {rest : Octets}
    (h : ∀ size, candidate (startMark :: rest) ≠ .complete size) : ¬Begins (startMark :: rest) := by
  rw [begins_iff_candidate]
  rintro ⟨size, hc⟩
  exact h size hc

/-- One round scans greedily from the first start mark on, if the assembler does so on all octets
that are fewer. -/
lemma assemble_greedy_of_start {octets rest : Octets}
    (hs : octets.dropWhile (· != startMark) = startMark :: rest)
    (hfewer : ∀ fewer : Octets, fewer.length ≤ rest.length →
      GreedyScan fewer (assemble fewer).envelopes (assemble fewer).buffer) :
    GreedyScan (startMark :: rest) (assemble octets).envelopes (assemble octets).buffer := by
  obtain ⟨before, -, hstep⟩ := assemble_of_start hs
  cases hc : candidate (startMark :: rest) with
  | complete size =>
    obtain ⟨henv, -⟩ := isEnvelope_of_candidate hc
    obtain ⟨hpos, -⟩ := length_pos_of_candidate hc
    have hrest := hfewer ((startMark :: rest).drop size) (by
      rw [List.length_drop, List.length_cons]
      omega)
    have htake := GreedyScan.take_front henv hrest
    rw [List.take_append_drop] at htake
    rw [hstep, hc]
    exact htake
  | invalid =>
    -- the start mark joins the octets in front of the scan of the rest
    have hrest := hfewer rest (Nat.le_refl _)
    have hnot : ¬Begins (startMark :: rest) := not_begins_of_candidate (by simp [hc])
    have hwait : ¬Waiting (startMark :: rest) := by
      rw [← candidate_eq_incomplete_iff, hc]
      exact Candidate.noConfusion
    rw [hstep, hc]
    exact hrest.prepend [startMark] (forall_drop_cons hnot (by simp))
      (.inl (forall_drop_cons hwait (by simp)))
  | incomplete =>
    have hnot : ¬Begins (startMark :: rest) := not_begins_of_candidate (by simp [hc])
    rw [hstep, hc]
    cases hn : nextComplete? rest with
    | none =>
      have hnone := nextComplete?_eq_none hn
      refine GreedyScan.wait_front ?_ ((candidate_eq_incomplete_iff rest).mp hc)
      intro k
      exact forall_drop_cons hnot (fun j (_ : j < k) => hnone j) k (by omega)
    | some distance =>
      -- the false start is given up although it waits: an envelope follows behind it
      obtain ⟨hbegins, hleft⟩ := nextComplete?_eq_some hn
      have hlt := length_le_of_nextComplete? hn
      have hrest := hfewer (rest.drop distance) (by
        rw [List.length_drop]
        omega)
      have hfalse := hrest.prepend (startMark :: rest.take distance)
      rw [List.cons_append, List.take_append_drop, List.length_cons, List.length_take,
        Nat.min_eq_left (Nat.le_of_lt hlt)] at hfalse
      exact hfalse (forall_drop_cons hnot hleft) (.inr hbegins)

/-- What the assembler takes and keeps is what the greedy scan takes and keeps. -/
lemma assemble_greedy (octets : Octets) :
    GreedyScan octets (assemble octets).envelopes (assemble octets).buffer := by
  induction h : octets.length using Nat.strongRecOn generalizing octets with
  | _ n ih =>
    subst h
    obtain ⟨front, hoctets, hfront⟩ := exists_noise octets
    have hquiet := drop_of_forall_ne hfront (octets.dropWhile (· != startMark))
    have hbegins := fun k hk => (hquiet k hk).1
    have hwaits := fun k hk => (hquiet k hk).2
    suffices hscan : GreedyScan (octets.dropWhile (· != startMark)) (assemble octets).envelopes
        (assemble octets).buffer by
      conv => arg 1; rw [hoctets]
      exact hscan.prepend front hbegins (.inl hwaits)
    cases hs : octets.dropWhile (· != startMark) with
    | nil =>
      obtain ⟨henvelopes, hbuffer⟩ := assemble_of_noise hs
      rw [henvelopes, hbuffer]
      exact .nil
    | cons start rest =>
      obtain rfl := eq_startMark_of_dropWhile hs
      refine assemble_greedy_of_start hs fun fewer hle => ih _ ?_ fewer rfl
      rw [hoctets, hs, List.length_append, List.length_cons]
      omega

lemma feed_greedy (assembler : Assembler) (chunk : Octets) :
    GreedyScan (assembler.buffer ++ chunk) (assembler.feed chunk).envelopes
      (assembler.feed chunk).buffer :=
  assemble_greedy _

/-- Feeding a chunk computes exactly the greedy scan of the kept octets and the chunk. In
particular a row of envelopes that `unwrap` reads comes out as it is, with nothing kept. -/
theorem feed_scans_greedily (assembler : Assembler) (chunk : Octets) :
    (∀ envelopes kept, GreedyScan (assembler.buffer ++ chunk) envelopes kept ↔
      (assembler.feed chunk).envelopes = envelopes ∧ (assembler.feed chunk).buffer = kept) ∧
    ∀ payloads, unwrap chunk = .ok payloads → (∀ payload ∈ payloads, payload.length ≤ 510) →
      (Assembler.feed {} chunk).envelopes = payloads.map wrap ∧
        (Assembler.feed {} chunk).buffer = [] := by
  have hfeed := feed_greedy assembler chunk
  refine ⟨fun envelopes kept => ⟨hfeed.unique, ?_⟩, ?_⟩
  · rintro ⟨rfl, rfl⟩
    exact hfeed
  · intro payloads hread hshort
    have hrow : chunk = row payloads ++ [] := by
      rw [List.append_nil]
      exact (eq_row_of_unwrap hread).1
    have hscan := GreedyScan.nil.row_append hshort
    rw [List.append_nil (payloads.map wrap), ← hrow] at hscan
    exact (feed_greedy {} chunk).unique hscan

/-- A false start, an envelope and the beginning of another one; and a row of two envelopes. -/
theorem feed_scans_greedily_false_start :
    GreedyScan ([0x01, 0x40, 0x00] ++ (wrap [0x04, 0x09] ++ [0xff, 0x01, 0x05]))
      [wrap [0x04, 0x09]] [0x01, 0x05] ∧
    unwrap (row [[0x04, 0x09], []]) = .ok [[0x04, 0x09], []] ∧
    (Assembler.feed {} (row [[0x04, 0x09], []])).envelopes = [wrap [0x04, 0x09], wrap []] ∧
    (Assembler.feed {} (row [[0x04, 0x09], []])).buffer = [] := by
  have hscan := feed_scans_greedily ⟨[0x01, 0x40, 0x00]⟩ (wrap [0x04, 0x09] ++ [0xff, 0x01, 0x05])
  have hrow := feed_scans_greedily {} (row [[0x04, 0x09], []])
  have hread : unwrap (row [[0x04, 0x09], []]) = .ok [[0x04, 0x09], []] :=
    unwrap_row _ (by decide)
  exact ⟨(hscan.1 _ _).mpr (by decide +kernel), hread, hrow.2 _ hread (by decide)⟩

end PixelPanel.Proofs
