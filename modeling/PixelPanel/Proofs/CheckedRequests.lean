import PixelPanel.Panel.Request
import PixelPanel.Proofs.Link.Past
import PixelPanel.Proofs.Link.Reachable

/-!
# Requests are checked first

A request whose arguments are wrong is refused before the link is touched, in whatever state the link
is. Any other request does what sending its packets would do, now and later, and only adds to the log.
-/

namespace PixelPanel.Panel

/-- A link to which nothing has happened but that a call was refused. -/
def refused (link : Link) (refusal : Command.Refusal) : Link :=
  { link with
    trace := link.trace ++ [.finished link.clock (.failed (.refused refusal))]
    clock := link.clock + 1 }

/-- What is asked is checked before anything is done. If no packets can be made of it, it is refused for
the same reason. Otherwise all that comes later goes on as if the packets had been sent, and there are
only some more lines in the log. -/
def ChecksFirst (link : Link) (event : Event) : Except Command.Refusal (List Octets) → Prop
  | .error refusal => step link event = refused link refusal
  | .ok packets => ∃ entries : List LogEntry, ∀ later,
    let asked := run (step link event) later
    let sent := run (step link (.link (.send packets))) later
    asked = { sent with trace := link.trace ++ entries.map .log ++ Proofs.seenSince link sent }

end PixelPanel.Panel

namespace PixelPanel.Proofs
open Panel

lemma run_cons (link : Link) (event : Event) (later : List Event) :
    run link (event :: later) = run (step link event) later := rfl

/-- What is sent after some lines of the log is sent as it would be without them. -/
lemma checksFirst_of_logged {link : Link} {event : Event} {packets : List Octets}
    (entries : List LogEntry) (h : step link event =
      { link with trace := link.trace ++ entries.map Link.Note.log }.step (.send packets)) :
    ChecksFirst link event (.ok packets) := by
  have hsend : step link event =
      step { link with trace := link.trace ++ entries.map Link.Note.log } (.link (.send packets)) := h
  refine ⟨entries, fun later => ?_⟩
  dsimp only
  rw [hsend, ← run_cons, ← run_cons]
  exact panelRun_of_trace _ _

lemma checksFirst_command (link : Link) (command : Command) :
    ChecksFirst link (.command command) (command.encode.map fun packet => [packet]) := by
  cases hencode : command.encode with
  | error refusal =>
    have hstep : step link (.command command) = refuse link refusal := by rw [step, hencode]
    exact hstep
  | ok packet =>
    have hstep : step link (.command command) = link.step (.send [packet]) := by rw [step, hencode]
    refine checksFirst_of_logged [] ?_
    rw [hstep, List.map_nil, List.append_nil]

lemma checksFirst_animate (link : Link) (pictures : List Picture) (durations : List ℤ) :
    ChecksFirst link (.animate pictures durations) (Animation.encode pictures durations) := by
  cases hencode : Animation.encode pictures durations with
  | error refusal =>
    have hstep : step link (.animate pictures durations) = refuse link refusal := by
      rw [step, hencode]
    exact hstep
  | ok packets =>
    let streaming : LogEntry :=
      ⟨.info, .panel, s!"Streaming {pictures.length} frame(s) in {packets.length} packet(s)"⟩
    let sending : LogEntry := ⟨.debug, .panel, s!"Sending {packets.length} packet(s)"⟩
    have hstep : step link (.animate pictures durations) =
        ((link.note (.log streaming)).note (.log sending)).step (.send packets) := by
      rw [step, hencode]
      rfl
    refine checksFirst_of_logged [streaming, sending] ?_
    rw [hstep, Link.note, Link.note, List.append_assoc]
    rfl

/-- What a panel takes for granted is what the commands take for granted. -/
lemma command_filled (now : Moment) (order : Order) :
    order.filled.command now = order.command now := by
  cases order <;> rfl

/-- Whatever is asked of a panel, with whatever arguments and in whatever state: if the arguments are
wrong, it ends with the reason why they are, and all else stays as it was. Otherwise it has the effect of
sending the packets, on all that comes later as well, and only adds lines to the log. -/
theorem requests_checked_first (link : Link) (now : Moment) (request : Request) :
    ChecksFirst link (request.event now) (request.packets now) := by
  cases request with
  | single order =>
    rw [Request.event, Request.packets, command_filled]
    exact checksFirst_command link (order.command now)
  | animation pictures durations => exact checksFirst_animate link pictures durations

/-- A panel that is being written to while another call waits. -/
def busyPanel : Link :=
  run { sampleLink with listeners := [.inbox] }
    [.link (.connect .accepted), .link .holdWrites, .link (.send [[0xAA]]), .link (.send [[0xBB]])]

/-- The present of the examples. -/
def noon : Moment := ⟨2024, 1, 2, 12, 0, 0⟩

/-- A wrong volume is told by a panel without a connection, and a wrong style by one with two calls that
wait. The clock, of which only the calendar is asked, is sent like its packet. -/
theorem requests_checked_first_busy :
    sampleLink.phase = .disconnected ∧ busyPanel.calls.length = 2 ∧
      step sampleLink ((Request.single (.setVolume 17)).event noon) =
        refused sampleLink (.outOfRange "volume" 16 17) ∧
      step busyPanel ((Request.single (.showLight "DISCO" none none)).event noon) =
        refused busyPanel (.unknownStyle "light" "DISCO" lightStyles.names) ∧
      ∃ entries : List LogEntry, ∀ later,
        let asked := run (step busyPanel
          ((Request.single (.showClock "BOXED" { calendar := some true })).event noon)) later
        let sent := run (step busyPanel (.link (.send
          [[1, 13, 0, 69, 0, 1, 2, 1, 0, 0, 1, 255, 255, 255, 84, 3, 2]]))) later
        asked = { sent with
          trace := busyPanel.trace ++ entries.map .log ++ seenSince busyPanel sent } := by
  have hvolume := requests_checked_first sampleLink noon (.single (.setVolume 17))
  have hlight := requests_checked_first busyPanel noon (.single (.showLight "DISCO" none none))
  have hclock := requests_checked_first busyPanel noon
    (.single (.showClock "BOXED" { calendar := some true }))
  have hloud : Request.packets noon (.single (.setVolume 17)) =
      .error (.outOfRange "volume" 16 17) := by decide +kernel
  have hdisco : Request.packets noon (.single (.showLight "DISCO" none none)) =
      .error (.unknownStyle "light" "DISCO" lightStyles.names) := by decide +kernel
  have hboxed : Request.packets noon (.single (.showClock "BOXED" { calendar := some true })) =
      .ok [[1, 13, 0, 69, 0, 1, 2, 1, 0, 0, 1, 255, 255, 255, 84, 3, 2]] := by decide +kernel
  rw [hloud] at hvolume
  rw [hdisco] at hlight
  rw [hboxed] at hclock
  exact ⟨rfl, by decide +kernel, hvolume, hlight, hclock⟩

end PixelPanel.Proofs
