import Mathlib.Data.List.Induction
import PixelPanel.Proofs.NoisyStream

/-!
# Runs of the assembler

However an assembler is fed and reset, the octets fed since the last reset are the envelopes given
since then, in their order, with the octets given up around them, and at the end the octets kept.
What is kept waits for the rest of an envelope, so there are never more than 515 octets of it.
-/

namespace PixelPanel.Proofs
open Envelope

inductive AssemblerCall
  | feed (chunk : Octets)
  | reset

/-- An assembler with the octets fed and the envelopes given since the last reset. -/
structure AssemblerRun where
  assembler : Assembler := {}
  fed : Octets := []
  given : List Octets := []

def AssemblerRun.call (run : AssemblerRun) : AssemblerCall → AssemblerRun
  | .feed chunk =>
    { assembler := ⟨(run.assembler.feed chunk).buffer⟩
      fed := run.fed ++ chunk
      given := run.given ++ (run.assembler.feed chunk).envelopes }
  | .reset => { assembler := run.assembler.reset }

def runCalls (calls : List AssemblerCall) : AssemblerRun :=
  calls.foldl AssemblerRun.call {}

/-- Octets that are envelopes, each with some octets before it, and some octets at the end. -/
def Spread (envelopes : List Octets) (octets : Octets) : Prop :=
  ∃ (pieces : List (Octets × Octets)) (noise : Octets), envelopes = pieces.map Prod.snd ∧
    octets = pieces.flatMap (fun piece => piece.1 ++ piece.2) ++ noise

/-- What may be kept: nothing, or a start mark that waits with no envelope behind it. -/
structure Keepable (kept : Octets) : Prop where
  quiet : ∀ k, ¬Begins (kept.drop k)
  waits : kept = [] ∨ Waiting kept

variable {octets kept : Octets} {envelopes : List Octets}

/-! ### What a scan takes and leaves -/

lemma spread_nil (noise : Octets) : Spread [] noise :=
  ⟨[], noise, rfl, rfl⟩

/-- The octets at the end of the first part come before the first envelope of the second one. -/
lemma Spread.append {envelopes' : List Octets} {octets' : Octets} (h : Spread envelopes octets)
    (h' : Spread envelopes' octets') : Spread (envelopes ++ envelopes') (octets ++ octets') := by
  obtain ⟨pieces, noise, rfl, rfl⟩ := h
  obtain ⟨pieces', noise', rfl, rfl⟩ := h'
  cases pieces' with
  | nil =>
    refine ⟨pieces, noise ++ noise', ?_, ?_⟩
    · simp
    · simp only [List.flatMap_nil, List.nil_append, List.append_assoc]
  | cons piece rest =>
    refine ⟨pieces ++ (noise ++ piece.1, piece.2) :: rest, noise', ?_, ?_⟩
    · simp
    · simp only [List.flatMap_append, List.flatMap_cons, List.append_assoc]

lemma GreedyScan.spread (h : GreedyScan octets envelopes kept) :
    ∃ front, Spread envelopes front ∧ octets = front ++ kept := by
  induction h with
  | @take skipped envelope rest kept envelopes _ _ _ ih =>
    obtain ⟨front, hspread, rfl⟩ := ih
    refine ⟨skipped ++ envelope ++ front, ?_, by simp only [List.append_assoc]⟩
    have hone : Spread [envelope] (skipped ++ envelope) := ⟨[(skipped, envelope)], [], by simp, by simp⟩
    exact hone.append hspread
  | @wait skipped => exact ⟨skipped, spread_nil skipped, rfl⟩
  | @clear octets => exact ⟨octets, spread_nil octets, (List.append_nil octets).symm⟩

lemma GreedyScan.isEnvelope (h : GreedyScan octets envelopes kept) :
    ∀ envelope ∈ envelopes, IsEnvelope envelope := by
  induction h with
  | take henv _ _ ih =>
    intro envelope hmem
    rcases List.mem_cons.mp hmem with rfl | hmem
    · exact henv
    · exact ih envelope hmem
  | wait => simp
  | clear => simp

lemma GreedyScan.waits_kept (h : GreedyScan octets envelopes kept) : kept = [] ∨ Waiting kept := by
  induction h with
  | take _ _ _ ih => exact ih
  | wait _ _ hwait => exact .inr hwait
  | clear => exact .inl rfl

lemma keepable_nil : Keepable [] where
  quiet := GreedyScan.nil.not_begins_kept
  waits := .inl rfl

lemma GreedyScan.keepable (h : GreedyScan octets envelopes kept) : Keepable kept where
  quiet := h.not_begins_kept
  waits := h.waits_kept

/-! ### What is kept -/

lemma Waiting.exists_cons (h : Waiting octets) : ∃ rest, octets = startMark :: rest := by
  match octets with
  | [_] => exact ⟨[], by rw [show _ = startMark from h]⟩
  | [_, second] => exact ⟨[second], by rw [show _ = startMark from h]⟩
  | _ :: low :: high :: body => exact ⟨low :: high :: body, by rw [h.1]⟩

/-- The length field of a start mark that waits is at most 512, and octets are missing. -/
lemma Waiting.length_le (h : Waiting octets) : octets.length ≤ 515 := by
  match octets with
  | [_] => simp
  | [_, _] => simp
  | _ :: low :: high :: body =>
    obtain ⟨-, -, hmax, hlt⟩ := h
    rw [maxLength] at hmax
    omega

lemma nextComplete?_eq_none_of_quiet (h : ∀ k, ¬Begins (octets.drop k)) :
    nextComplete? octets = none := by
  cases hn : nextComplete? octets with
  | none => rfl
  | some distance => exact (h distance (nextComplete?_eq_some hn).1).elim

/-- Without new octets nothing is given and nothing is given up. -/
lemma Keepable.feed_nil (h : Keepable kept) : Assembler.feed ⟨kept⟩ [] = ⟨kept, [], []⟩ := by
  rw [Assembler.feed, List.append_nil]
  rcases h.waits with rfl | hwait
  · rw [assemble]
    rfl
  · obtain ⟨rest, rfl⟩ := hwait.exists_cons
    have hs : (startMark :: rest).dropWhile (· != startMark) = startMark :: rest := by simp
    have hn : nextComplete? rest = none :=
      nextComplete?_eq_none_of_quiet fun k => h.quiet (k + 1)
    obtain ⟨before, hbefore, hstep⟩ := assemble_of_start hs
    rw [hstep, (candidate_eq_incomplete_iff rest).mpr hwait, hn, hbefore (by simp)]

/-! ### From call to call -/

/-- What every call keeps true of a run. -/
structure Accounted (run : AssemblerRun) : Prop where
  spread : ∃ front, Spread run.given front ∧ run.fed = front ++ run.assembler.buffer
  envelopes : ∀ envelope ∈ run.given, IsEnvelope envelope
  kept : Keepable run.assembler.buffer

lemma Accounted.feed {run : AssemblerRun} (h : Accounted run) (chunk : Octets) :
    Accounted (run.call (.feed chunk)) := by
  have hscan := feed_greedy run.assembler chunk
  obtain ⟨front, hspread, hfed⟩ := h.spread
  obtain ⟨more, hmore, hchunk⟩ := hscan.spread
  refine ⟨⟨front ++ more, hspread.append hmore, ?_⟩, ?_, hscan.keepable⟩
  · change run.fed ++ chunk = front ++ more ++ (run.assembler.feed chunk).buffer
    rw [hfed, List.append_assoc, hchunk, List.append_assoc]
  · intro envelope hmem
    rcases List.mem_append.mp hmem with hmem | hmem
    · exact h.envelopes envelope hmem
    · exact hscan.isEnvelope envelope hmem

lemma accounted_new : Accounted {} where
  spread := ⟨[], spread_nil [], rfl⟩
  envelopes := by simp
  kept := keepable_nil

lemma Accounted.call {run : AssemblerRun} (h : Accounted run) (call : AssemblerCall) :
    Accounted (run.call call) := by
  cases call with
  | feed chunk => exact h.feed chunk
  | reset => exact accounted_new

lemma accounted_runCalls (calls : List AssemblerCall) : Accounted (runCalls calls) := by
  induction calls using List.reverseRecOn with
  | nil => exact accounted_new
  | append_singleton calls call ih =>
    rw [runCalls, List.foldl_append]
    exact ih.call call

/-- After every row of calls the octets fed since the last reset are the envelopes given since then,
with noise around them, and the octets kept. Every envelope is that of a payload of at most 510
octets, what is kept is at most 515 octets without a complete envelope, and an empty chunk changes
nothing. -/
theorem runCalls_accounts (calls : List AssemblerCall) :
    (∃ (pieces : List (Octets × Octets)) (noise : Octets),
      (runCalls calls).given = pieces.map Prod.snd ∧
      (runCalls calls).fed = pieces.flatMap (fun piece => piece.1 ++ piece.2) ++ noise ++
        (runCalls calls).assembler.buffer) ∧
    (∀ envelope ∈ (runCalls calls).given, ∃ payload : Octets, payload.length ≤ 510 ∧
      envelope = wrap payload ∧ unwrap envelope = .ok [payload]) ∧
    ((runCalls calls).assembler.buffer = [] ∨
      (runCalls calls).assembler.buffer.head? = some startMark ∧
        (runCalls calls).assembler.buffer.length ≤ 515 ∧
        ∀ k, ¬Begins ((runCalls calls).assembler.buffer.drop k)) ∧
    (runCalls calls).assembler.feed [] = ⟨(runCalls calls).assembler.buffer, [], []⟩ := by
  have haccounted := accounted_runCalls calls
  refine ⟨?_, ?_, ?_, haccounted.kept.feed_nil⟩
  · obtain ⟨front, ⟨pieces, noise, hgiven, rfl⟩, hfed⟩ := haccounted.spread
    exact ⟨pieces, noise, hgiven, hfed⟩
  · intro envelope hmem
    obtain ⟨payload, hshort, rfl⟩ := haccounted.envelopes envelope hmem
    exact ⟨payload, hshort, rfl, unwrap_wrap (by omega)⟩
  · rcases haccounted.kept.waits with hnil | hwait
    · exact .inl hnil
    · obtain ⟨rest, hrest⟩ := hwait.exists_cons
      exact .inr ⟨by rw [hrest]; rfl, hwait.length_le, haccounted.kept.quiet⟩

end PixelPanel.Proofs
