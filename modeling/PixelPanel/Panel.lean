import PixelPanel.Animation
import PixelPanel.Link.Step

/-!
# The panel

A panel is a link whose first listener is the inbox. It sends commands and tells reports to
callbacks. A command is checked before anything is sent, so a wrong argument never touches the link.
-/

namespace PixelPanel.Panel

/-- What can be done with a panel. -/
inductive Event
  | link (event : Link.Event)
  | addCallback (name : String) (fails : Bool)
  /-- Sends envelopes in one batch. -/
  | sendPackets (packets : List Octets)
  | command (command : Command)
  | animate (pictures : List Picture) (durations : List Int)

/-- A panel at an address. The order of reports needs one worker. -/
def make (address : String) (channel capacity workers : Int) : Except Link.SetupError Link :=
  match Link.make address channel capacity workers with
  | .error error => .error error
  | .ok link =>
    if workers ≠ 1 then .error (.severalWorkers workers)
    else .ok { link with listeners := [.inbox] }

/-- Logs something about the panel. -/
def log (link : Link) (level : Level) (message : String) : Link :=
  link.note (.log ⟨level, .panel, message⟩)

/-- Forgets what is left of an envelope. -/
def resetInbox (link : Link) : Link :=
  { link with inbox := link.inbox.reset }

/-- Sends packets in one batch. -/
def sendPackets (link : Link) (packets : List Octets) : Link :=
  (log link .debug s!"Sending {packets.length} packet(s)").step (.send packets)

/-- The command fails before anything is sent. -/
def refuse (link : Link) (refusal : Command.Refusal) : Link :=
  { link.finish link.clock (.failed (.refused refusal)) with clock := link.clock + 1 }

/-- What an event does, together with all that follows from it. -/
def step (link : Link) : Event → Link
  | .link (.connect answer) => (resetInbox link).step (.connect answer)
  | .link (.scope messages raises answer) =>
    (resetInbox link).step (.scope messages raises answer)
  | .link event => link.step event
  | .addCallback name fails =>
    let inbox := { link.inbox with callbacks := link.inbox.callbacks ++ [⟨name, fails⟩] }
    { link with inbox := inbox }.step .nothing
  | .sendPackets packets => sendPackets link packets
  | .command command =>
    match command.encode with
    | .error refusal => refuse link refusal
    | .ok envelope => link.step (.send [envelope])
  | .animate pictures durations =>
    match Animation.encode pictures durations with
    | .error refusal => refuse link refusal
    | .ok packets =>
      let text := s!"Streaming {pictures.length} frame(s) in {packets.length} packet(s)"
      sendPackets (log link .info text) packets

/-- The panel after a list of events. -/
def run (link : Link) (events : List Event) : Link :=
  events.foldl step link

end PixelPanel.Panel
