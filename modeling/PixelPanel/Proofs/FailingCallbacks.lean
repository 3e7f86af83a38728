import PixelPanel.Panel
import PixelPanel.Proofs.InboxAnswers
import PixelPanel.Proofs.Link.Reachable

/-!
# Callbacks that fail

Every report of a chunk is due to every callback. A callback that fails ends the handling of the
chunk, so the calls are made in order up to the first one that fails, and what was due behind it is
lost: other callbacks miss the report, and all of them miss the later reports of the chunk. The
octets that are kept and the chunks that come later do not suffer.
-/

namespace PixelPanel.Inbox

/-- A call of a callback with a report. -/
abbrev Call := Callback × Report

/-- What is noted of a call. -/
def Call.note (call : Call) : Note :=
  .told call.1.name call.2

/-- The calls that are due to an envelope: every report is told to every callback. -/
def due (callbacks : List Callback) (envelope : Octets) : List Call :=
  match Report.readAll envelope with
  | .error _ => []
  | .ok reports => reports.flatMap fun report => callbacks.map fun callback => (callback, report)

/-- Calls up to the first one that fails. -/
def untilFailure : List Call → List Call
  | [] => []
  | call :: rest => if call.1.fails then [call] else call :: untilFailure rest

/-- Whether no call fails. -/
def sound (calls : List Call) : Bool :=
  calls.all fun call => !call.1.fails

/-- Whether a note is of a call. -/
def Note.isTold : Note → Bool
  | .told .. => true
  | .log _ => false

/-- What is told while something is handled. -/
def Outcome.told (outcome : Outcome) : List Note :=
  outcome.notes.filter Note.isTold

/-- Handles chunks one after the other, and gives the outcome of each and the inbox at the end. -/
def receiveAll (inbox : Inbox) : List Octets → List Outcome × Inbox
  | [] => ([], inbox)
  | chunk :: rest =>
    let (next, outcome) := inbox.receive chunk
    let (outcomes, last) := receiveAll next rest
    (outcome :: outcomes, last)

end PixelPanel.Inbox

namespace PixelPanel.Proofs
open Envelope Inbox

variable {callbacks : List Callback} {calls later : List Inbox.Call} {outcome next : Inbox.Outcome}

/-! ### Calls in a row -/

lemma sound_cons (call : Inbox.Call) (rest : List Inbox.Call) :
    sound (call :: rest) = (!call.1.fails && sound rest) := rfl

lemma untilFailure_append (calls later : List Inbox.Call) : untilFailure (calls ++ later) =
    if sound calls then calls ++ untilFailure later else untilFailure calls := by
  induction calls with
  | nil => rfl
  | cons call rest ih =>
    rw [List.cons_append, untilFailure, ih, untilFailure, sound_cons]
    cases call.1.fails with
    | true => rfl
    | false => cases sound rest <;> rfl

lemma untilFailure_of_sound (h : sound calls) : untilFailure calls = calls := by
  have happend := untilFailure_append calls []
  rwa [if_pos h, untilFailure, List.append_nil] at happend

lemma untilFailure_begins (calls : List Inbox.Call) : untilFailure calls <+: calls := by
  induction calls with
  | nil => exact List.prefix_rfl
  | cons call rest ih =>
    rw [untilFailure]
    split
    · exact List.prefix_append [call] rest
    · exact List.cons_prefix_cons.mpr ⟨rfl, ih⟩

/-- All calls are made exactly if none of them fails but perhaps the last one. -/
lemma untilFailure_eq_self_iff (calls : List Inbox.Call) :
    untilFailure calls = calls ↔ ∀ call ∈ calls.dropLast, call.1.fails = false := by
  induction calls with
  | nil => simp [untilFailure]
  | cons call rest ih =>
    cases rest with
    | nil => simp [untilFailure]
    | cons second rest =>
      rw [List.dropLast_cons_cons, List.forall_mem_cons, ← ih, untilFailure]
      cases hfails : call.1.fails with
      | true => simp
      | false => simp

lemma map_note_eq_iff (calls : List Inbox.Call) :
    (untilFailure calls).map Call.note = calls.map Call.note ↔ untilFailure calls = calls := by
  refine ⟨fun h => (untilFailure_begins calls).eq_of_length ?_, fun h => by rw [h]⟩
  have hlength := congrArg List.length h
  rwa [List.length_map, List.length_map] at hlength

/-! ### What is told of a chunk -/

/-- Some handling makes the calls that are due up to the first one that fails, where it ends. -/
structure Makes (outcome : Inbox.Outcome) (calls : List Inbox.Call) : Prop where
  told : outcome.told = (untilFailure calls).map Call.note
  completed : outcome.completed = sound calls

lemma makes_log (entries : List LogEntry) : Makes ⟨entries.map .log, true⟩ [] := by
  refine ⟨List.filter_eq_nil_iff.mpr fun seen hmem => ?_, rfl⟩
  obtain ⟨entry, -, rfl⟩ := List.mem_map.mp hmem
  exact Bool.false_ne_true

lemma makes_call (callback : Callback) (report : Report) :
    Makes ⟨[.told callback.name report], !callback.fails⟩ [(callback, report)] := by
  constructor
  · rw [untilFailure]
    cases callback.fails <;> rfl
  · rw [sound, List.all_cons, List.all_nil, Bool.and_true]

/-- A handling that fails hides the one behind it. -/
lemma Makes.andThen (h : Makes outcome calls) (hnext : Makes next later) :
    Makes (outcome.andThen next) (calls ++ later) := by
  have hsound : sound (calls ++ later) = (sound calls && sound later) := List.all_append
  rw [Outcome.andThen, h.completed]
  cases hcalls : sound calls with
  | true =>
    refine ⟨?_, by rw [hsound, hcalls]; exact hnext.completed⟩
    have hfilter : (outcome.notes ++ next.notes).filter Note.isTold = outcome.told ++ next.told :=
      List.filter_append ..
    rw [untilFailure_append, if_pos hcalls, List.map_append, ← hnext.told]
    exact hfilter.trans (congrArg (· ++ _) (h.told.trans (by rw [untilFailure_of_sound hcalls])))
  | false =>
    refine ⟨?_, by rw [hsound, hcalls]; exact h.completed.trans hcalls⟩
    rw [untilFailure_append, if_neg (Bool.eq_false_iff.mp hcalls)]
    exact h.told

lemma makes_tell (report : Report) (callbacks : List Callback) :
    Makes (tell report callbacks) (callbacks.map fun callback => (callback, report)) := by
  induction callbacks with
  | nil => exact makes_log []
  | cons callback rest ih => exact (makes_call callback report).andThen ih

lemma makes_handleReports (callbacks : List Callback) (reports : List Report) :
    Makes (handleReports callbacks reports)
      (reports.flatMap fun report => callbacks.map fun callback => (callback, report)) := by
  induction reports with
  | nil => exact makes_log []
  | cons report rest ih => exact (makes_log [_]).andThen ((makes_tell report callbacks).andThen ih)

lemma makes_handleEnvelopes (callbacks : List Callback) (envelopes : List Octets) :
    Makes (handleEnvelopes callbacks envelopes) (envelopes.flatMap (due callbacks)) := by
  induction envelopes with
  | nil => exact makes_log []
  | cons envelope rest ih =>
    rw [handleEnvelopes, List.flatMap_cons, due]
    cases Report.readAll envelope with
    | error failure => exact (makes_log [_]).andThen ih
    | ok reports => exact (makes_handleReports callbacks reports).andThen ih

lemma makes_receive (inbox : Inbox) (chunk : Octets) : Makes (inbox.receive chunk).2
    ((inbox.assembler.feed chunk).envelopes.flatMap (due inbox.callbacks)) := by
  have hdiscards := makes_log ((inbox.assembler.feed chunk).discards.map fun discard =>
    ⟨.debug, .envelope, discard.message⟩)
  rw [List.map_map] at hdiscards
  exact hdiscards.andThen (makes_handleEnvelopes inbox.callbacks _)

lemma forall₂_makes_receiveAll (inbox : Inbox) (chunks : List Octets) :
    (inbox.receiveAll chunks).2 =
        { inbox with assembler := (inbox.assembler.feedAll chunks).2 } ∧
      List.Forall₂ Makes (inbox.receiveAll chunks).1
        ((inbox.assembler.feedAll chunks).1.map fun envelopes =>
          envelopes.flatMap (due inbox.callbacks)) := by
  induction chunks generalizing inbox with
  | nil => exact ⟨rfl, .nil⟩
  | cons chunk rest ih =>
    obtain ⟨hlast, hrest⟩ := ih (inbox.receive chunk).1
    exact ⟨hlast, .cons (makes_receive inbox chunk) hrest⟩

lemma map_eq_map_of_forall₂ {α β γ : Type} {R : α → β → Prop} {f : α → γ} {g : β → γ} {first : List α}
    {second : List β} (h : List.Forall₂ R first second) (hsame : ∀ a b, R a b → f a = g b) :
    first.map f = second.map g := by
  rw [← List.forall₂_eq_eq_eq, List.forall₂_map_left_iff, List.forall₂_map_right_iff]
  exact h.imp hsame

/-- Whatever chunks come, the calls that are due to a chunk are made in order up to the first one that
fails, and the chunk is handled to its end exactly if none fails. The envelopes that the chunks complete
are the same as without callbacks. So every report reaches every callback exactly if in no chunk a call
that fails is followed by another one. -/
theorem told_until_failure (inbox : Inbox) (chunks : List Octets) :
    let fed := inbox.assembler.feedAll chunks
    let handled := inbox.receiveAll chunks
    let owed := fed.1.map fun envelopes => envelopes.flatMap (due inbox.callbacks)
    handled.2 = { inbox with assembler := fed.2 } ∧
      handled.1.map Outcome.told = owed.map (fun calls => (untilFailure calls).map Call.note) ∧
      handled.1.map Outcome.completed = owed.map sound ∧
      (handled.1.map Outcome.told = owed.map (fun calls => calls.map Call.note) ↔
        ∀ calls ∈ owed, ∀ call ∈ calls.dropLast, call.1.fails = false) := by
  intro fed handled owed
  obtain ⟨hlast, hmakes⟩ := forall₂_makes_receiveAll inbox chunks
  have htold : handled.1.map Outcome.told =
      owed.map fun calls => (untilFailure calls).map Call.note :=
    map_eq_map_of_forall₂ hmakes fun _ _ h => h.told
  have hcompleted : handled.1.map Outcome.completed = owed.map sound :=
    map_eq_map_of_forall₂ hmakes fun _ _ h => h.completed
  refine ⟨hlast, htold, hcompleted, ?_⟩
  rw [htold, List.map_inj_left]
  refine forall₂_congr fun calls _ => ?_
  rw [map_note_eq_iff, untilFailure_eq_self_iff]

/-! ### Two reports and two callbacks -/

/-- A chunk with a report of the volume and one of the brightness. -/
def twoReports : Octets :=
  wrap [0x04, 0x09, 0x55, 0x07] ++ wrap [0x04, 0x32, 0x55, 0x55]

/-- An inbox whose first callback fails. -/
def brittleInbox : Inbox :=
  { callbacks := [⟨"first", true⟩, ⟨"second", false⟩] }

/-- Both reports are due to both callbacks, but a single call is made. On a panel the failure stands in the
log, and the second callback hears nothing of this chunk. -/
theorem failing_callback_loses_reports :
    let volume : Report := ⟨0x09, [0x07], none, none, some 7, "Volume was set to 7/16"⟩
    let brightness : Report := ⟨0x32, [0x55], none, some 85, none, "Set brightness to 85"⟩
    let owed := (brittleInbox.assembler.feedAll [twoReports]).1.map fun envelopes =>
      (envelopes.flatMap (due brittleInbox.callbacks)).map Call.note
    let told := (brittleInbox.receiveAll [twoReports]).1.map Outcome.told
    owed = [[.told "first" volume, .told "second" volume,
        .told "first" brightness, .told "second" brightness]] ∧
      told = [[.told "first" volume]] ∧ told ≠ owed ∧
      (Panel.run { sampleLink with listeners := [.inbox] }
        [.addCallback "first" true, .addCallback "second" false, .link (.connect .accepted),
          .link (.deviceSends twoReports)]).trace.filter Link.Note.isAnswer =
        [.told "first" volume,
          .log ⟨.error, .link, "Listener " ++ Link.Listener.text .inbox ++ " failed"⟩] := by
  decide +kernel

end PixelPanel.Proofs
