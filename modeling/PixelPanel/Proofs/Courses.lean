import PixelPanel.CommandLine.Run
import PixelPanel.Proofs.Link.LoneCall

/-!
# Conversations amid events

While a conversation connects, sends or listens, the device may do more than answer and send, the system may
hold writes back, and the whole may be given up. Here the conversations of the program are held amid such
events; without them they are those of the program itself.
-/

namespace PixelPanel.CommandLine

/-- What happens in the course of a conversation: while it connects, while it sends and while it
listens. None of it is a call of a user. -/
structure Course where
  answer : Link.Answer := .accepted
  writeFault : Option (SystemError × ℕ) := none
  writesHeld : Bool := false
  connecting : List Link.Event := []
  sending : List Link.Event := []
  listening : List Link.Event := []
  mute : ∀ event ∈ connecting ++ sending ++ listening, event.isCall = false

/-- A conversation in which the device does nothing but answer and send. -/
def Course.of (outside : Outside) : Course where
  answer := outside.answer
  writeFault := outside.writeFault
  listening := outside.device.map .deviceSends
  mute := by
    intro event hmem
    obtain ⟨octets, -, rfl⟩ := List.mem_map.mp hmem
    rfl

/-- What happens as long as a call waits. -/
def linger (link : Link) : List Link.Event → Link
  | [] => link
  | event :: later => if link.calls.isEmpty then link else linger (link.step event) later

namespace Conversation

/-- Does one thing, while something else happens. What never ends is given up. -/
def attemptAmid (link : Link) (event : Panel.Event) (meanwhile : List Link.Event) : Conversation :=
  let id := link.clock
  let link := linger (Panel.step link event) meanwhile
  let link :=
    if link.calls.any fun call => call.id == id then Panel.step link (.link (.cancel id)) else link
  ⟨link, errorOf link id⟩

end Conversation

end PixelPanel.CommandLine

namespace PixelPanel.Proofs
open Link CommandLine

/-! ### The program itself -/

end PixelPanel.Proofs
