import PixelPanel.Proofs.Link.Beginning
import PixelPanel.Proofs.Link.Setup
import PixelPanel.Proofs.Link.WriteLedger

/-!
# Who sends what where

The trace of a link tells which messages were written, but not by which call and on which socket. Here
stands, for each event of a run, what every call sends in its turns: with every message the call, the
session whose lock the call has, and the socket that takes it. These messages are all that the link
records as written, in the same order.
-/

namespace PixelPanel.Link

/-- A message that a socket has taken. The call that sent it had the lock of a session. -/
structure Sent where
  call : ℕ
  session : ℕ
  socket : ℕ
  message : Octets
  deriving DecidableEq, Repr

/-- The messages that a link has recorded as written. -/
def written (link : Link) : List Octets :=
  link.trace.filterMap Note.written?

/-- What a call sends while it does its actions as far as it can. -/
def sentPerforming (id : ℕ) : Option ℕ → List Action → Link → List Sent
  | _, [], _ => []
  | _, .acquire :: rest, link =>
    match link.phase, link.current with
    | .active, some session =>
      if link.isBusy session then [] else sentPerforming id (some session) rest link
    | _, _ => []
  | lock, .write message :: rest, link =>
    match link.phase, link.current with
    | .active, some socket =>
      let link := link.log .debug ("Sending: " ++ Hex.encode message)
      if link.writesHeld then []
      else
        match link.tryWrite socket message with
        | (link, none) =>
          ⟨id, lock.getD socket, socket, message⟩ :: sentPerforming id lock rest link
        | (_, some _) => []
    | _, _ => []
  | none, .release :: rest, link => sentPerforming id none rest link
  | some lock, .release :: rest, link => sentPerforming id none rest (link.handOver lock)

/-- What a call sends when it goes on. -/
def sentResuming (link : Link) (id : ℕ) : List Sent :=
  match link.calls.find? fun call => call.id == id with
  | none => []
  | some call =>
    match call.stage with
    | .opening _ => []
    | .waiting lock => sentPerforming id (some lock) call.actions (link.removeCall id)
    | .writing lock socket message =>
      match (link.removeCall id).tryWrite socket message with
      | (link, none) =>
        ⟨id, lock, socket, message⟩ :: sentPerforming id (some lock) call.actions link
      | (_, some _) => []

/-- What is sent in a turn. -/
def sentInTurn (link : Link) : Wake → List Sent
  | .call id => link.sentResuming id
  | _ => []

/-- The link when a session has begun on a socket, just before its call goes on. -/
def joined (link : Link) (socket : ℕ) : Link :=
  ((Proofs.attached link socket).note (.attached socket)).log .info s!"Connected to {link.address}"

/-- The link when an attempt that is made now has begun a session, if it does so at once. -/
def joinedAtOnce? (link : Link) (answer : Answer) : Option Link :=
  if (link.phase = .connecting ∨ link.phase = .active) ∨ answer ≠ .accepted then none
  else
    let link := if link.owned.isSome ∨ link.current.isSome then link.hangUp else link
    let link := { link with phase := .connecting }.log .info
      s!"Connecting to {link.address} on RFCOMM channel {link.channel}"
    (Address.ofText? link.address.toList).map fun octets =>
      let link := link.log .debug s!"bdaddr (sockaddr_rc order): {Hex.encode octets}"
      let opened := { link with sessions := link.sessions ++ [({ isOpen := true } : Session)] }
      (opened.note (.opened (Address.text octets) link.channel)).joined link.sessions.length

/-- What the youngest attempt sends when it is answered. -/
def sentAnswering (link : Link) (answer : Answer) : List Sent :=
  match link.calls.reverse.find? fun call => call.socket?.isSome with
  | none => []
  | some call =>
    match call.socket?, answer with
    | some socket, .accepted =>
      sentPerforming call.id none call.actions ((link.removeCall call.id).joined socket)
    | _, _ => []

end PixelPanel.Link

namespace PixelPanel.Proofs
open Link

variable {link link' : Link} {id : ℕ}

/-! ### Operations that write nothing -/

/-- Either a session is in use, or it is of no use to acquire a lock or to write. -/
lemma exists_inUse_or (link : Link) :
    (∃ session, link.phase = .active ∧ link.current = some session) ∨
      ∀ session, link.phase = .active → link.current ≠ some session := by
  by_cases hinUse : ∃ session, link.phase = .active ∧ link.current = some session
  · exact .inl hinUse
  · exact .inr fun session hphase hcurrent => hinUse ⟨session, hphase, hcurrent⟩

/-- Without a session in use a call gives up, and sends nothing. -/
lemma perform_of_not_inUse (h : ∀ session, link.phase = .active → link.current ≠ some session)
    (action : Action) (haction : action ≠ .release) (ending : Ending) (lock : Option ℕ)
    (rest : List Action) :
    perform id ending lock (action :: rest) link = link.abandon id ending lock .notConnected ∧
      sentPerforming id lock (action :: rest) link = [] := by
  cases action with
  | release => exact (haction rfl).elim
  | acquire => simp [perform, sentPerforming]
  | write message => simp [perform, sentPerforming]

/-- How an attempt to connect goes on, whatever its call is to do then: it fails, it waits for the
device, or a session begins. What is left of an earlier session has been cleaned up. -/
inductive Connecting (link : Link) (id : ℕ) (result : List Action → Ending → Link) :
    Option Link → Prop
  | failed (clean : Link) (error : CallError) (haside : Aside link clean)
    (h : ∀ actions ending, result actions ending = clean.finish id (.failed error))
    (hfailed : (link.phase = .connecting ∨ link.phase = .active) ∨
      clean.phase = .disconnected ∧ clean.current = none ∧
        ∃ reason, error = .connectFailed link.address link.channel reason) :
    Connecting link id result none
  | waiting (clean : Link) (socket : ℕ) (haside : Aside link clean) (hphase : link.phase ≠ .active)
    (h : ∀ actions ending, result actions ending =
      clean.suspend ⟨id, .opening socket, actions, ending⟩) (hcurrent : clean.current = none) :
    Connecting link id result none
  | begun (clean : Link) (socket : ℕ) (haside : Aside link clean) (hphase : link.phase ≠ .active)
    (h : ∀ actions ending, result actions ending =
      perform id ending none actions (clean.joined socket)) :
    Connecting link id result (some (clean.joined socket))

lemma aside_setPhase {phase : Phase} (hphase : phase ≠ .active) :
    Aside link { link with phase := phase } :=
  { Aside.refl link with phase := fun hactive => (hphase hactive).elim }

lemma aside_note {seen : Note} (h : IsAside seen) : Aside link (link.note seen) where
  __ := Aside.refl link
  trace := ⟨[seen], rfl, List.forall_mem_singleton.mpr h⟩

lemma aside_sessions (sessions : List Session) : Aside link { link with sessions := sessions } :=
  { Aside.refl link with }

lemma aside_dropSocket (socket : ℕ) : Aside link (link.dropSocket socket) :=
  (aside_sessions _).trans (aside_note trivial)

lemma connecting_connect (link : Link) (id : ℕ) (answer : Answer) :
    Connecting link id (fun actions ending => link.connect id actions ending answer)
      (link.joinedAtOnce? answer) := by
  by_cases hopen : link.phase = .connecting ∨ link.phase = .active
  · rw [joinedAtOnce?, if_pos (.inl hopen)]
    exact .failed link _ (Aside.refl link) (fun _ _ => by rw [connect, if_pos hopen]) (.inl hopen)
  · have hphase : link.phase ≠ .active := fun hactive => hopen (.inr hactive)
    obtain ⟨start, hstart, hleft, hsetup, hcurrent⟩ : ∃ start,
        (if link.owned.isSome ∨ link.current.isSome then link.hangUp else link) = start ∧
          Aside link start ∧ start.setup = link.setup ∧ start.current = none := by
      refine ⟨link.cleaned, rfl, ?_, setup_cleaned link, current_cleaned link⟩
      unfold cleaned
      split
      · exact aside_hangUp
      · exact Aside.refl link
    obtain ⟨hsame, hchannel⟩ := Prod.mk.inj (Prod.mk.inj hsetup).1
    have hconnecting := (hleft.trans (@aside_setPhase _ .connecting Phase.noConfusion)).trans
      (aside_log .info s!"Connecting to {start.address} on RFCOMM channel {start.channel}")
    have hfailed := fun {link' : Link} (haside : Aside link link') =>
      haside.trans (@aside_setPhase _ .disconnected Phase.noConfusion)
    simp only [connect, joinedAtOnce?, hstart, hopen, false_or]
    cases hoctets : Address.ofText? start.address.toList with
    | none =>
      simp only [log, note, hoctets, Option.map_none, ite_self]
      exact .failed _ _ (hfailed hconnecting) (fun _ _ => rfl) 
        (.inr ⟨rfl, hcurrent, _, by rw [hsame, hchannel]⟩)
    | some octets =>
      simp only [log, note, hoctets, Option.map_some]
      have haddress := hconnecting.trans
        (aside_log .debug s!"bdaddr (sockaddr_rc order): {Hex.encode octets}")
      have hopened := fun sessions => (haddress.trans (aside_sessions sessions)).trans
        (@aside_note _ (.opened (Address.text octets) start.channel) trivial)
      cases answer with
      | accepted => exact .begun _ _ (hopened _) hphase fun _ _ => rfl
      | refused error =>
        exact .failed _ _ (hfailed ((hopened _).trans (aside_dropSocket _))) (fun _ _ => rfl)
          (.inr ⟨rfl, hcurrent, _, by rw [← hsame, ← hchannel]; rfl⟩)
      | unsupported =>
        exact .failed _ _ (hfailed haddress) (fun _ _ => rfl)
          (.inr ⟨rfl, hcurrent, _, by rw [← hsame, ← hchannel]⟩)
      | later => exact .waiting _ _ (hopened _) hphase (fun _ _ => rfl) hcurrent

/-- How the answer of the device to the youngest attempt goes on, and what is sent then. -/
inductive Answering (link : Link) : Link → List Sent → Prop
  | nothing : Answering link link []
  | ended (call : Call) (hmem : call ∈ link.calls) (clean : Link)
    (haside : Aside (link.removeCall call.id) clean) (error : CallError) :
    Answering link (clean.finish call.id (.failed error)) []
  | begun (call : Call) (socket : ℕ) (hmem : call ∈ link.calls)
    (hsocket : call.socket? = some socket) :
    Answering link
      (perform call.id call.ending none call.actions ((link.removeCall call.id).joined socket))
      (sentPerforming call.id none call.actions ((link.removeCall call.id).joined socket))

/-- An attempt that is over without a session leaves the other calls alone. -/
lemma aside_dropped (link : Link) (socket : ℕ) :
    Aside link { link.dropSocket socket with phase := .disconnected } :=
  (aside_dropSocket socket).trans (aside_setPhase Phase.noConfusion)

lemma answering_answerYoungest (link : Link) (answer : Answer) :
    Answering link (link.answerYoungest answer) (link.sentAnswering answer) := by
  rw [answerYoungest, sentAnswering]
  cases hfind : link.calls.reverse.find? (fun call => call.socket?.isSome) with
  | none => exact .nothing
  | some call =>
    have hmem : call ∈ link.calls := List.mem_reverse.mp (List.mem_of_find?_eq_some hfind)
    cases hsocket : call.socket? with
    | none =>
      simp only [hsocket]
      exact .nothing
    | some socket =>
      simp only [hsocket]
      cases answer with
      | accepted => exact .begun call socket hmem hsocket
      | refused error => exact .ended call hmem _ (aside_dropped ..) _
      | unsupported => exact .ended call hmem _ (aside_dropped ..) _
      | later => exact .nothing

end PixelPanel.Proofs
