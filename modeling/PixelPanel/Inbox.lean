import PixelPanel.Envelope.Assembler
import PixelPanel.Log
import PixelPanel.Report

/-!
# From chunks to reports

The inbox puts received chunks together, decodes the envelopes that are complete, and tells every
report to its callbacks, in the order in which they were added. An envelope that cannot be decoded is
logged and skipped. A callback that fails ends the handling of the chunk.
-/

namespace PixelPanel

/-- What is called with every report. A failing callback fails after it has taken note. -/
structure Callback where
  name : String
  fails : Bool := false
  deriving DecidableEq, Repr

/-- What is kept between chunks, and who is told. -/
structure Inbox where
  assembler : Envelope.Assembler := {}
  callbacks : List Callback := []
  deriving DecidableEq, Repr

namespace Inbox

/-- What the handling of a chunk shows to the outside. -/
inductive Note
  | log (entry : LogEntry)
  | told (callback : String) (report : Report)
  deriving DecidableEq, Repr

/-- The notes of some handling, and whether it ran to its end. -/
structure Outcome where
  notes : List Note
  completed : Bool
  deriving DecidableEq, Repr

/-- One handling after another; the second one only if the first ran to its end. -/
def Outcome.andThen (first : Outcome) (second : Outcome) : Outcome :=
  if first.completed then ⟨first.notes ++ second.notes, second.completed⟩ else first

/-- Tells a report to callbacks. -/
def tell (report : Report) : List Callback → Outcome
  | [] => ⟨[], true⟩
  | callback :: rest =>
    Outcome.andThen ⟨[.told callback.name report], !callback.fails⟩ (tell report rest)

/-- Handles reports one after the other. -/
def handleReports (callbacks : List Callback) : List Report → Outcome
  | [] => ⟨[], true⟩
  | report :: rest =>
    Outcome.andThen ⟨[.log ⟨.info, .panel, "Device: " ++ report.text⟩], true⟩
      (Outcome.andThen (tell report callbacks) (handleReports callbacks rest))

/-- Handles envelopes one after the other. -/
def handleEnvelopes (callbacks : List Callback) : List Octets → Outcome
  | [] => ⟨[], true⟩
  | envelope :: rest =>
    match Report.readAll envelope with
    | .error failure =>
      let warning := s!"Could not parse message {Hex.encode envelope}: {failure.message}"
      Outcome.andThen ⟨[.log ⟨.warning, .panel, warning⟩], true⟩ (handleEnvelopes callbacks rest)
    | .ok reports =>
      Outcome.andThen (handleReports callbacks reports) (handleEnvelopes callbacks rest)

/-- Handles a chunk. -/
def receive (inbox : Inbox) (chunk : Octets) : Inbox × Outcome :=
  let fed := inbox.assembler.feed chunk
  let discards := fed.discards.map fun discard =>
    Note.log ⟨.debug, .envelope, discard.message⟩
  ({ inbox with assembler := ⟨fed.buffer⟩ },
    Outcome.andThen ⟨discards, true⟩ (handleEnvelopes inbox.callbacks fed.envelopes))

/-- Forgets what is kept between chunks. -/
def reset (inbox : Inbox) : Inbox :=
  { inbox with assembler := inbox.assembler.reset }

end Inbox
end PixelPanel
