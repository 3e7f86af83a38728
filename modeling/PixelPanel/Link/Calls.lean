import PixelPanel.Link.Delivery

/-!
# Calls

A call is a row of actions. It acquires the write lock of the session in use, writes its messages one
after the other and releases the lock. Every message goes to the socket in use at that moment, and
only while the link is active. A call that cannot go on waits; when it ends it finishes, and if it has
opened a scope it first ends the session.
-/

namespace PixelPanel.Link

/-- A call waits. -/
def suspend (link : Link) (call : Call) : Link :=
  { link with calls := link.calls ++ [call] }

/-- A call no longer waits. -/
def removeCall (link : Link) (id : Nat) : Link :=
  { link with calls := link.calls.filter fun call => call.id != id }

/-- Whether a call waits for a lock or has it. -/
def Call.concerns (call : Call) (lock : Nat) : Bool :=
  match call.stage with
  | .opening _ => false
  | .waiting waited => waited == lock
  | .writing held _ _ => held == lock

/-- Whether a call has to wait for a lock. -/
def isBusy (link : Link) (lock : Nat) : Bool :=
  link.calls.any fun call => call.concerns lock

/-- The call that has waited longest for a lock gets it. -/
def handOver (link : Link) (lock : Nat) : Link :=
  match link.calls.find? fun call => call.stage == .waiting lock with
  | none => link
  | some call => link.wake [.call call.id]

/-- Whether a socket is open. -/
def isOpen (link : Link) (socket : Nat) : Bool :=
  ((link.sessions[socket]?).map Session.isOpen).getD false

/-- Writes a message to a socket, which may fail. -/
def tryWrite (link : Link) (socket : Nat) (message : Octets) : Link × Option SystemError :=
  if !link.isOpen socket then (link, some .closedSocket)
  else
    match link.writeFault with
    | some (error, 0) => (link, some error)
    | some (error, count + 1) =>
      ({ link with writeFault := some (error, count) }.note (.written message), none)
    | none => (link.note (.written message), none)

/-- Whether a wake belongs to a worker of a session. -/
def Wake.isWorkerOf (session : Nat) : Wake → Bool
  | .call _ => false
  | .leaving .. => false
  | .worker owner => owner == session
  | .delivery going => going.session == session
  | .returned _ going => going.session == session

/-- Stops the reader and the workers of the session that is owned. -/
def stopTasks (link : Link) : Link :=
  match link.owned with
  | none => link
  | some session =>
    { link.modifySession session fun found => { found with reading := false, idle := 0 } with
      owned := none
      blocked := link.blocked.filter fun delivery => delivery.session != session
      wakes := link.wakes.filter fun wake => !wake.isWorkerOf session }

/-- Closes the socket in use, if there is one. -/
def closeSocket (link : Link) : Link :=
  match link.current with
  | none => { link with phase := .disconnected }
  | some session =>
    let link := link.log .debug s!"Closing socket to {link.address}"
    let link := link.modifySession session fun found => { found with isOpen := false }
    { link.note (.closed session) with current := none, phase := .disconnected }

/-- Ends the session at once. -/
def hangUp (link : Link) : Link :=
  link.stopTasks.closeSocket

/-- The number of turns that tasks take to stop. -/
def stoppingTurns : Nat := 2

/-- Leaves a scope. What can run already runs before the socket is closed. -/
def leave (link : Link) (id : Nat) (outcome : Outcome) : Link :=
  match link.owned with
  | none => link.closeSocket.finish id outcome
  | some _ => link.stopTasks.wake [.leaving id stoppingTurns outcome]

/-- A call has done its actions or failed in one. -/
def conclude (link : Link) (id : Nat) (ending : Ending) (outcome : Outcome) : Link :=
  match ending, outcome with
  | .plain, outcome => link.finish id outcome
  | .scope true, .done => link.leave id (.failed (.raised "inside"))
  | .scope _, outcome => link.leave id outcome

/-- A call fails; it releases the lock if it has it. -/
def abandon (link : Link) (id : Nat) (ending : Ending) (lock : Option Nat) (error : CallError) :
    Link :=
  let link := match lock with
    | none => link
    | some lock => link.handOver lock
  link.conclude id ending (.failed error)

/-- A write of a call has failed, which ends the session too. -/
def failWrite (link : Link) (id : Nat) (ending : Ending) (lock : Option Nat) (error : SystemError) :
    Link :=
  (link.retire ("write failed: " ++ error.message)).abandon id ending lock (.writeFailed error)

/-- Does the actions of a call as far as it can. The call has the lock `lock`, if any. -/
def perform (id : Nat) (ending : Ending) : Option Nat → List Action → Link → Link
  | _, [], link => link.conclude id ending .done
  | lock, .acquire :: rest, link =>
    match link.phase, link.current with
    | .active, some session =>
      if link.isBusy session then link.suspend ⟨id, .waiting session, rest, ending⟩
      else perform id ending (some session) rest link
    | _, _ => link.abandon id ending lock .notConnected
  | lock, .write message :: rest, link =>
    match link.phase, link.current with
    | .active, some socket =>
      let link := link.log .debug ("Sending: " ++ Hex.encode message)
      if link.writesHeld then
        link.suspend ⟨id, .writing (lock.getD socket) socket message, rest, ending⟩
      else
        match link.tryWrite socket message with
        | (link, none) => perform id ending lock rest link
        | (link, some error) => link.failWrite id ending lock error
    | _, _ => link.abandon id ending lock .notConnected
  | none, .release :: rest, link => perform id ending none rest link
  | some lock, .release :: rest, link => perform id ending none rest (link.handOver lock)

/-- A call goes on after it has waited. -/
def resumeCall (link : Link) (id : Nat) : Link :=
  match link.calls.find? fun call => call.id == id with
  | none => link
  | some call =>
    match call.stage with
    | .opening _ => link
    | .waiting lock => perform id call.ending (some lock) call.actions (link.removeCall id)
    | .writing lock socket message =>
      match (link.removeCall id).tryWrite socket message with
      | (link, none) => perform id call.ending (some lock) call.actions link
      | (link, some error) => link.failWrite id call.ending (some lock) error

/-- Lets one wake run. -/
def resume (link : Link) : Wake → Link
  | .call id => link.resumeCall id
  | .leaving id 0 outcome => link.closeSocket.finish id outcome
  | .leaving id (turns + 1) outcome => link.wake [.leaving id turns outcome]
  | .worker session => work session (link.queueOf session) link
  | .delivery delivery => link.resumeDelivery delivery
  | .returned listener delivery =>
    match listener with
    | .observer _ _ _ true => (link.logFailure listener).resumeDelivery delivery
    | _ => link.resumeDelivery delivery

/-- What a wake can cause, at most. -/
def Wake.load : Wake → Nat
  | .call _ => 1
  | .leaving _ turns _ => turns + 1
  | .worker _ => 1
  | .delivery going => going.listeners.length + 1
  | .returned _ going => going.listeners.length + 1

/-- What can still run before nothing more happens, at most. -/
def load (link : Link) : Nat :=
  link.wakes.foldr (fun wake rest => wake.load + rest) 0 +
    link.calls.foldr (fun call rest => call.actions.length + 5 + rest) 0 +
    link.sessions.foldr
      (fun session rest => session.queue.length * (link.listeners.length + 1) + rest) 0

/-- Lets wakes run one after the other, at most `turns` of them. -/
def drain : Nat → Link → Link
  | 0, link => link
  | turns + 1, link =>
    match link.wakes with
    | [] => link
    | wake :: rest => drain turns ({ link with wakes := rest }.resume wake)

/-- Lets everything run until nothing more can happen. -/
def settle (link : Link) : Link :=
  drain link.load link

/-- An attempt to connect has failed. -/
def failConnect (link : Link) (id : Nat) (reason : String) : Link :=
  { link with phase := .disconnected }.finish id
    (.failed (.connectFailed link.address link.channel reason))

/-- The socket of an attempt is closed. -/
def dropSocket (link : Link) (socket : Nat) : Link :=
  (link.modifySession socket fun found => { found with isOpen := false }).note
    (.closed socket)

/-- A socket is connected: the session begins, and the call goes on with its actions. -/
def attach (link : Link) (id socket : Nat) (actions : List Action) (ending : Ending) : Link :=
  let workers := link.workers
  let link := link.modifySession socket fun found =>
    { found with reading := true, idle := workers, queue := [] }
  let link := { link with
    current := some socket, owned := some socket, dropped := 0, phase := .active }
  let link := link.note (.attached socket)
  perform id ending none actions (link.log .info s!"Connected to {link.address}")

/-- The system answers an attempt to connect. -/
def answerAttempt (link : Link) (id socket : Nat) (actions : List Action) (ending : Ending) :
    Answer → Link
  | .accepted => link.attach id socket actions ending
  | .refused error => (link.dropSocket socket).failConnect id error.message
  | .unsupported => (link.dropSocket socket).failConnect id unsupportedText
  | .later => link.suspend ⟨id, .opening socket, actions, ending⟩

/-- Begins an attempt to connect. What is left of an earlier session is cleaned up first. -/
def connect (link : Link) (id : Nat) (actions : List Action) (ending : Ending) (answer : Answer) :
    Link :=
  if link.phase = .connecting ∨ link.phase = .active then
    link.finish id (.failed (.alreadyOpen link.phase))
  else
    let link := if link.owned.isSome ∨ link.current.isSome then link.hangUp else link
    let link := { link with phase := .connecting }.log .info
      s!"Connecting to {link.address} on RFCOMM channel {link.channel}"
    match Address.ofText? link.address.toList with
    | none => link.failConnect id (Address.refusalText link.address)
    | some octets =>
      let link := link.log .debug s!"bdaddr (sockaddr_rc order): {Hex.encode octets}"
      if answer = .unsupported then link.failConnect id unsupportedText
      else
        let socket := link.sessions.length
        let link := { link with sessions := link.sessions ++ [({ isOpen := true } : Session)] }
        (link.note (.opened (Address.text octets) link.channel)).answerAttempt id socket actions ending
          answer

/-- A pending call is cancelled. -/
def cancel (link : Link) (id : Nat) : Link :=
  match link.calls.find? fun call => call.id == id with
  | none => link
  | some call =>
    let link := link.removeCall id
    match call.stage with
    | .opening socket =>
      { link.dropSocket socket with phase := .disconnected }.finish id (.failed .cancelled)
    | .waiting _ => link.abandon id call.ending none .cancelled
    | .writing lock _ _ => link.abandon id call.ending (some lock) .cancelled

end PixelPanel.Link
