import PixelPanel.Link.Delivery
import PixelPanel.Proofs.CleanStream
import PixelPanel.Proofs.EnvelopeRow

/-!
# What the inbox answers

An envelope with a report is answered by telling the report to every callback, any other envelope by
a warning. If no callback fails, every envelope of a chunk is answered, one after the other.
-/

namespace PixelPanel

/-- Whether a note is of interest to the user: a report, a warning or an error. -/
def Link.Note.isAnswer : Link.Note → Bool
  | .told .. => true
  | .log entry => entry.level == .warning || entry.level == .error
  | _ => false

/-- The answer to an envelope. -/
def Inbox.answer (callbacks : List Callback) (envelope : Octets) : List Link.Note :=
  match Report.readAll envelope with
  | .error failure =>
    [.log ⟨.warning, .panel, s!"Could not parse message {Hex.encode envelope}: {failure.message}"⟩]
  | .ok reports =>
    reports.flatMap fun report => callbacks.map fun callback => .told callback.name report

/-- The answer to a payload: its report is told to every callback, or there is a warning. -/
def Inbox.answerTo (callbacks : List Callback) (payload : Octets) : List Link.Note :=
  match Report.decode payload with
  | .error malformed =>
    [.log ⟨.warning, .panel,
      s!"Could not parse message {Hex.encode (Envelope.wrap payload)}: {malformed.message}"⟩]
  | .ok report => callbacks.map fun callback => .told callback.name report

end PixelPanel

namespace PixelPanel.Proofs
open Envelope Inbox

variable {callbacks : List Callback}

/-- The notes of the inbox that are of interest to the user. -/
def answers (notes : List Inbox.Note) : List Link.Note :=
  (notes.map Link.ofInboxNote).filter Link.Note.isAnswer

lemma answers_append (first second : List Inbox.Note) :
    answers (first ++ second) = answers first ++ answers second := by
  rw [answers, List.map_append, List.filter_append]
  rfl

/-- The envelope of a payload is answered like the payload itself. -/
lemma answer_wrap (callbacks : List Callback) {payload : Octets} (h : payload.length ≤ 65533) :
    answer callbacks (wrap payload) = answerTo callbacks payload := by
  have hunwrap := unwrap_wrap h
  have hdecode : Report.decodeAll [payload] =
      (Report.decode payload).map fun report => [report] := by
    rw [Report.decodeAll, List.mapM_cons]
    cases Report.decode payload <;> rfl
  rw [answer, answerTo, Report.readAll, hunwrap]
  dsimp only
  rw [hdecode]
  cases Report.decode payload with
  | error malformed => rfl
  | ok report => exact List.append_nil _

/-! ### Callbacks that do not fail -/

lemma tell_of_sound (h : ∀ callback ∈ callbacks, callback.fails = false) (report : Report) :
    Inbox.tell report callbacks = ⟨callbacks.map fun callback => .told callback.name report, true⟩ := by
  induction callbacks with
  | nil => rfl
  | cons callback rest ih =>
    obtain ⟨hfirst, hrest⟩ := List.forall_mem_cons.mp h
    rw [Inbox.tell, ih hrest, hfirst]
    rfl

lemma handleReports_of_sound (h : ∀ callback ∈ callbacks, callback.fails = false)
    (reports : List Report) :
    (handleReports callbacks reports).completed ∧
      answers (handleReports callbacks reports).notes =
        reports.flatMap fun report => callbacks.map fun callback => .told callback.name report := by
  induction reports with
  | nil => exact ⟨rfl, rfl⟩
  | cons report rest ih =>
    have htold : answers (callbacks.map fun callback => .told callback.name report) =
        callbacks.map fun callback => .told callback.name report := by
      rw [answers, List.map_map]
      refine List.filter_eq_self.mpr fun seen hmem => ?_
      obtain ⟨callback, -, rfl⟩ := List.mem_map.mp hmem
      rfl
    rw [handleReports, tell_of_sound h]
    refine ⟨ih.1, ?_⟩
    rw [List.flatMap_cons, ← ih.2, ← htold]
    exact answers_append (callbacks.map fun callback => .told callback.name report)
      (handleReports callbacks rest).notes

lemma handleEnvelopes_of_sound (h : ∀ callback ∈ callbacks, callback.fails = false)
    (envelopes : List Octets) :
    (handleEnvelopes callbacks envelopes).completed ∧
      answers (handleEnvelopes callbacks envelopes).notes = envelopes.flatMap (answer callbacks) := by
  induction envelopes with
  | nil => exact ⟨rfl, rfl⟩
  | cons envelope rest ih =>
    rw [handleEnvelopes, List.flatMap_cons, answer, ← ih.2]
    cases Report.readAll envelope with
    | error failure => exact ⟨ih.1, rfl⟩
    | ok reports =>
      obtain ⟨hcompleted, hanswers⟩ := handleReports_of_sound h reports
      dsimp only
      rw [Outcome.andThen, if_pos hcompleted, ← hanswers]
      exact ⟨ih.1, answers_append ..⟩

/-- A chunk is handled to its end, and the envelopes that it completes are answered. -/
lemma receive_of_sound {inbox : Inbox} (h : ∀ callback ∈ inbox.callbacks, callback.fails = false)
    (chunk : Octets) :
    (inbox.receive chunk).1 = { inbox with assembler := ⟨(inbox.assembler.feed chunk).buffer⟩ } ∧
      (inbox.receive chunk).2.completed ∧
      answers (inbox.receive chunk).2.notes =
        (inbox.assembler.feed chunk).envelopes.flatMap (answer inbox.callbacks) := by
  obtain ⟨hcompleted, hanswers⟩ := handleEnvelopes_of_sound h (inbox.assembler.feed chunk).envelopes
  have hdiscards : answers ((inbox.assembler.feed chunk).discards.map fun discard =>
      Inbox.Note.log ⟨.debug, .envelope, discard.message⟩) = [] := by
    rw [answers, List.map_map, List.filter_eq_nil_iff]
    intro seen hmem
    obtain ⟨discard, -, rfl⟩ := List.mem_map.mp hmem
    exact Bool.false_ne_true
  refine ⟨rfl, hcompleted, ?_⟩
  rw [← hanswers]
  exact (answers_append ..).trans (congrArg (· ++ _) hdiscards)

end PixelPanel.Proofs
