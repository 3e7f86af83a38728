import PixelPanel.Panel

/-!
# Conversations with a panel

A conversation connects, sends packets in one batch, perhaps listens, and disconnects in any case. It
fails if the connection or a write does.
-/

namespace PixelPanel.CommandLine

/-- What the outside does during a conversation. -/
structure Outside where
  /-- The answer of the system to the attempt to connect. -/
  answer : Link.Answer := .accepted
  /-- The error of writes, and the number of writes that still succeed before it. -/
  writeFault : Option (SystemError × Nat) := none
  /-- What the device sends while the program listens. -/
  device : List Octets := []
  deriving DecidableEq, Repr

/-- What is left of a conversation. -/
structure Conversation where
  link : Link
  error : Option Link.CallError
  deriving DecidableEq, Repr

namespace Conversation

/-- The name of the only callback. -/
def callbackName : String := "console"

/-- The error of a call, if it has failed. -/
def errorOf (link : Link) (call : Nat) : Option Link.CallError :=
  link.trace.findSome? fun note =>
    match note with
    | .finished id (.failed error) => if id = call then some error else none
    | _ => none

/-- Does one thing and tells whether it has failed. What never ends is given up. -/
def attempt (link : Link) (event : Panel.Event) : Conversation :=
  let id := link.clock
  let link := Panel.step link event
  let link :=
    if link.calls.any fun call => call.id == id then Panel.step link (.link (.cancel id)) else link
  ⟨link, errorOf link id⟩

/-- Hears what the device sends, piece by piece. -/
def hear (link : Link) (device : List Octets) : Link :=
  Panel.run link (device.map fun octets => .link (.deviceSends octets))

/-- Sends packets and listens, and disconnects in any case. -/
def sendAndListen (link : Link) (packets : List Octets) (listens : Bool) (device : List Octets) :
    Conversation :=
  let sent := if packets.isEmpty then ⟨link, none⟩ else attempt link (.sendPackets packets)
  let heard :=
    if sent.error.isNone && listens then hear sent.link device else sent.link
  ⟨Panel.step heard (.link .disconnect), sent.error⟩

/-- A whole conversation over a new link. -/
def hold (outside : Outside) (link : Link) (packets : List Octets) (listens : Bool) : Conversation :=
  let link := { link with writeFault := outside.writeFault }
  let opened := attempt link (.link (.connect outside.answer))
  match opened.error with
  | some error => ⟨opened.link, some error⟩
  | none =>
    sendAndListen (Panel.step opened.link (.addCallback callbackName false)) packets listens
      outside.device

end Conversation
end PixelPanel.CommandLine
