import PixelPanel.Address
import PixelPanel.Command
import PixelPanel.Inbox
import PixelPanel.SystemError

/-!
# The link to a device: what it is made of

A link belongs to one device. Every successful attempt to connect begins a session: a socket, a
reader, a queue of chunks and workers that take chunks from the queue to the listeners. A session has
a write lock of its own. Calls (to connect, to send) may have to wait: for the answer of the device,
for the lock, or because the system holds writes back.

This file holds the state of a link and what can be seen of it. `PixelPanel.Link.Delivery` moves
chunks to listeners, `PixelPanel.Link.Calls` runs calls, and `PixelPanel.Link.Step` says what each
event does.
-/

namespace PixelPanel

namespace Link

/-- Where a link stands. A link is `closed` after an error of its session, until the session is
cleaned up. -/
inductive Phase
  | disconnected
  | connecting
  | active
  | closed
  deriving DecidableEq, Repr

/-- The name of a phase. -/
def Phase.name : Phase → String
  | .disconnected => "disconnected"
  | .connecting => "connecting"
  | .active => "active"
  | .closed => "closed"

/-- How a listener takes a chunk: at once, on a thread of its own, or only while the gate is open. -/
inductive Manner
  | direct
  | threaded
  | gated
  deriving DecidableEq, Repr

/-- Who gets the chunks: the inbox, or an observer, which may fail after it has taken note. Observers
are told apart by their serial numbers. -/
inductive Listener
  | inbox
  | observer (serial : Nat) (name : String) (manner : Manner) (fails : Bool)
  deriving DecidableEq, Repr

/-- How a listener is named in the log. -/
def Listener.text : Listener → String
  | .inbox =>
    "<bound method TimeboxClient._handle_chunk of <src.client.TimeboxClient object>>"
  | .observer _ name _ _ => s!"<function {name}>"

/-- Why a call fails. -/
inductive CallError
  | alreadyOpen (phase : Phase)
  | connectFailed (address : String) (channel : Int) (reason : String)
  | notConnected
  | writeFailed (error : SystemError)
  | cancelled
  | raised (text : String)
  | refused (refusal : Command.Refusal)
  | notListening
  deriving DecidableEq, Repr

/-- The text of the error of a call. -/
def CallError.message : CallError → String
  | .alreadyOpen phase => "already " ++ phase.name
  | .connectFailed address channel reason => s!"connect failed (mac={address} ch={channel}): {reason}"
  | .notConnected => "device not connected"
  | .writeFailed error => "write failed: " ++ error.message
  | .cancelled => ""
  | .raised text => text
  | .refused refusal => refusal.message
  | .notListening => "list.remove(x): x not in list"

/-- How a call ends. -/
inductive Outcome
  | done
  | failed (error : CallError)
  deriving DecidableEq, Repr

/-- What the system answers to an attempt to connect. -/
inductive Answer
  | accepted
  | refused (error : SystemError)
  | unsupported
  | later
  deriving DecidableEq, Repr

/-- The reason for a failure where the system knows no such links. -/
def unsupportedText : String := "module 'socket' has no attribute 'AF_BLUETOOTH'"

/-- What one session is made of, beside the workers that are at work. -/
structure Session where
  /-- Whether its socket is open. -/
  isOpen : Bool
  /-- Whether its reader runs. -/
  reading : Bool := false
  /-- The number of workers that wait for a chunk. -/
  idle : Nat := 0
  /-- Chunks that no worker has taken yet. -/
  queue : List Octets := []
  deriving DecidableEq, Repr

/-- One thing that a call does while it runs. -/
inductive Action
  | acquire
  | write (message : Octets)
  | release
  deriving DecidableEq, Repr

/-- What sending messages in one batch consists of. -/
def Action.batch (messages : List Octets) : List Action :=
  .acquire :: messages.map .write ++ [.release]

/-- What happens when a call has done its actions or fails in one. -/
inductive Ending
  /-- It ends. -/
  | plain
  /-- It leaves the scope that it has opened, so the session ends too. With `raises` the body of the
  scope fails at its end. -/
  | scope (raises : Bool)
  deriving DecidableEq, Repr

/-- What a call waits for. Locks and sockets are named by the numbers of their sessions. -/
inductive Stage
  | opening (socket : Nat)
  | waiting (lock : Nat)
  | writing (lock socket : Nat) (message : Octets)
  deriving DecidableEq, Repr

/-- A call that waits. It is named by the number of the event that began it. -/
structure Call where
  id : Nat
  stage : Stage
  actions : List Action
  ending : Ending
  deriving DecidableEq, Repr

/-- A chunk that a worker is taking to listeners. -/
structure Delivery where
  session : Nat
  chunk : Octets
  listeners : List Listener
  deriving DecidableEq, Repr

/-- What can run again. -/
inductive Wake
  /-- A call whose lock or write is free. -/
  | call (id : Nat)
  /-- A scope that ends waits some turns until the tasks of its session have stopped. -/
  | leaving (id : Nat) (turns : Nat) (outcome : Outcome)
  /-- A worker that can take a chunk. -/
  | worker (session : Nat)
  /-- A worker that goes on with a chunk. -/
  | delivery (delivery : Delivery)
  /-- A worker whose listener has come back from its thread. -/
  | returned (listener : Listener) (delivery : Delivery)
  deriving DecidableEq, Repr

/-- What can be seen of a link. -/
inductive Note
  | opened (address : String) (channel : Int)
  | written (message : Octets)
  /-- A session has begun on a socket. -/
  | attached (socket : Nat)
  | closed (socket : Nat)
  | heard (listener : String) (chunk : Octets)
  | told (callback : String) (report : Report)
  | log (entry : LogEntry)
  | finished (call : Nat) (outcome : Outcome)
  deriving DecidableEq, Repr

end Link

/-- A link with all that surrounds it. -/
structure Link where
  address : String
  channel : Int
  /-- The number of chunks that may wait for a worker; without a bound if it is not positive. -/
  capacity : Int := 64
  /-- The number of workers of a session. -/
  workers : Nat := 1
  /-- Who gets the chunks now, in this order. -/
  listeners : List Link.Listener := []
  /-- All observers that were ever made. -/
  observers : List Link.Listener := []
  inbox : Inbox := {}
  phase : Link.Phase := .disconnected
  /-- The number of chunks dropped since the session began. -/
  dropped : Nat := 0
  /-- All sessions and attempts at one, from the oldest on. -/
  sessions : List Link.Session := []
  /-- The session whose socket, queue and lock are in use. -/
  current : Option Nat := none
  /-- The session whose reader and workers will be stopped with it. -/
  owned : Option Nat := none
  /-- The calls that wait, in the order in which they began to wait. -/
  calls : List Link.Call := []
  /-- The workers that wait for the gate, in the order in which they began to wait. -/
  blocked : List Link.Delivery := []
  gateOpen : Bool := false
  /-- Whether the system holds writes back. -/
  writesHeld : Bool := false
  /-- The error of writes, and the number of writes that still succeed before it. -/
  writeFault : Option (SystemError × Nat) := none
  /-- What can run again, in the order in which it will. -/
  wakes : List Link.Wake := []
  /-- The number of events so far. -/
  clock : Nat := 0
  /-- All that was seen so far. -/
  trace : List Link.Note := []
  deriving DecidableEq, Repr

namespace Link

/-- Takes note of something. -/
def note (link : Link) (seen : Note) : Link :=
  { link with trace := link.trace ++ [seen] }

/-- Logs something about the link. -/
def log (link : Link) (level : Level) (message : String) : Link :=
  link.note (.log ⟨level, .link, message⟩)

/-- A call has ended. -/
def finish (link : Link) (call : Nat) (outcome : Outcome) : Link :=
  link.note (.finished call outcome)

/-- Changes one session. -/
def modifySession (link : Link) (session : Nat) (change : Session → Session) : Link :=
  { link with sessions := link.sessions.modify session change }

/-- Lets something run after all that can run already. -/
def wake (link : Link) (wakes : List Wake) : Link :=
  { link with wakes := link.wakes ++ wakes }

/-- Gives up the session after an error. -/
def retire (link : Link) (reason : String) : Link :=
  let link :=
    if link.phase = .active then
      link.log .warning s!"Connection to {link.address} lost: {reason}"
    else link
  { link with phase := .closed }

/-- Whether the link can send. -/
def isActive (link : Link) : Bool :=
  link.phase == .active

end Link
end PixelPanel
