import PixelPanel.Link.Calls

/-!
# Events of a link

An event is what a user, the device or the system does. After each event everything runs until
nothing more can happen without another one. `Link.run` is the history of a link under a list of
events; all that was seen stands in its trace.
-/

namespace PixelPanel.Link

/-- What can happen to a link. -/
inductive Event
  | connect (answer : Answer)
  /-- The system answers the youngest attempt that waits. -/
  | answer (answer : Answer)
  | cancel (call : Nat)
  | disconnect
  /-- Connects, sends messages one by one and disconnects, whatever happens. -/
  | scope (messages : List Octets) (raises : Bool) (answer : Answer)
  /-- Sends messages in one batch. -/
  | send (messages : List Octets)
  | deviceSends (octets : Octets)
  | deviceCloses
  | readFails (error : SystemError)
  | writesFail (error : SystemError) (after : Nat)
  | writesSucceed
  | holdWrites
  | releaseWrites
  | addObserver (name : String) (manner : Manner) (fails : Bool)
  /-- Adds the last observer with a name once more. -/
  | addAgain (name : String)
  /-- Removes the last observer with a name from its first place. -/
  | removeObserver (name : String)
  | openGate
  | closeGate
  | nothing
  deriving DecidableEq, Repr

/-- The name of an observer. -/
def Listener.name? : Listener → Option String
  | .inbox => none
  | .observer _ name _ _ => some name

/-- The last observer that was made with a name. -/
def observer? (link : Link) (name : String) : Option Listener :=
  link.observers.reverse.find? fun listener => listener.name? == some name

/-- Makes an observer and adds it. -/
def addObserver (link : Link) (name : String) (manner : Manner) (fails : Bool) : Link :=
  let listener := Listener.observer link.observers.length name manner fails
  { link with
    observers := link.observers ++ [listener]
    listeners := link.listeners ++ [listener] }

/-- The socket that a call waits to be connected. -/
def Call.socket? (call : Call) : Option Nat :=
  match call.stage with
  | .opening socket => some socket
  | _ => none

/-- Whether a call waits for its write. -/
def Call.isWriting (call : Call) : Bool :=
  match call.stage with
  | .writing .. => true
  | _ => false

/-- Answers the youngest attempt to connect. -/
def answerYoungest (link : Link) (answer : Answer) : Link :=
  match link.calls.reverse.find? fun call => call.socket?.isSome with
  | none => link
  | some call =>
    match call.socket?, answer with
    | none, _ => link
    | _, .later => link
    | some socket, answer =>
      (link.removeCall call.id).answerAttempt call.id socket call.actions call.ending answer

/-- What an event does by itself. A call is named by the number of its event. -/
def act (link : Link) (id : Nat) : Event → Link
  | .connect answer => link.connect id [] .plain answer
  | .answer answer => link.answerYoungest answer
  | .cancel call => link.cancel call
  | .disconnect => link.hangUp.finish id .done
  | .scope messages raises answer =>
    link.connect id (messages.flatMap fun message => Action.batch [message]) (.scope raises) answer
  | .send messages => perform id .plain none (Action.batch messages) link
  | .deviceSends octets => link.read octets
  | .deviceCloses => link.readEnd
  | .readFails error => link.readError error
  | .writesFail error after => { link with writeFault := some (error, after) }
  | .writesSucceed => { link with writeFault := none }
  | .holdWrites => { link with writesHeld := true }
  | .releaseWrites =>
    { link with writesHeld := false }.wake
      ((link.calls.filter Call.isWriting).map fun (call : Call) => Wake.call call.id)
  | .addObserver name manner fails => link.addObserver name manner fails
  | .addAgain name =>
    match link.observer? name with
    | none => link
    | some listener => { link with listeners := link.listeners ++ [listener] }
  | .removeObserver name =>
    match link.observer? name with
    | none => link.finish id (.failed .notListening)
    | some listener =>
      if listener ∈ link.listeners then { link with listeners := link.listeners.erase listener }
      else link.finish id (.failed .notListening)
  | .openGate =>
    { link with gateOpen := true, blocked := [] }.wake (link.blocked.map .delivery)
  | .closeGate => { link with gateOpen := false }
  | .nothing => link

/-- What an event does, together with all that follows from it. -/
def step (link : Link) (event : Event) : Link :=
  let id := link.clock
  { (link.act id event).settle with clock := id + 1 }

/-- The link after a list of events. -/
def run (link : Link) (events : List Event) : Link :=
  events.foldl step link

/-- Why a link cannot be made. -/
inductive SetupError
  | noWorkers
  | severalWorkers (count : Int)
  deriving DecidableEq, Repr

/-- The text of the error of a setup. -/
def SetupError.message : SetupError → String
  | .noWorkers => "workers must be at least 1"
  | .severalWorkers count => s!"TimeboxClient needs a connection with one worker, got {count}"

/-- A link with a number of workers, without listeners. -/
def make (address : String) (channel capacity workers : Int) : Except SetupError Link :=
  if workers < 1 then .error .noWorkers
  else .ok { address, channel, capacity, workers := workers.toNat }

end PixelPanel.Link
