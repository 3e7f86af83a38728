import Mathlib.Tactic.Lemma
import PixelPanel.Proofs.Link.Turns

/-!
# The same link before another audience

The listeners, the observers among which they are chosen, the inbox and the gate are the audience of a
link. It matters only where chunks are handed to listeners. Whatever else a link does, it does before
any audience and after any past, and it leaves the audience as it is.
-/

namespace PixelPanel.Link

/-- A delivery to other listeners. -/
def Delivery.recast (f : Listener → Listener) (going : Delivery) : Delivery :=
  { going with listeners := going.listeners.map f }

/-- A turn that belongs to other listeners. -/
def Wake.recast (f : Listener → Listener) : Wake → Wake
  | .call id => .call id
  | .leaving id turns outcome => .leaving id turns outcome
  | .worker session => .worker session
  | .delivery going => .delivery (going.recast f)
  | .returned listener going => .returned (f listener) (going.recast f)

/-- Who listens to a link: the listeners, all observers, the inbox and the gate. -/
structure Audience where
  listeners : List Listener
  observers : List Listener
  inbox : Inbox
  gateOpen : Bool

/-- The audience of a link. -/
def audience (link : Link) : Audience :=
  ⟨link.listeners, link.observers, link.inbox, link.gateOpen⟩

/-- The same link before another audience and with more behind it. What is under way already goes to
other listeners too. -/
def reseat (audience : Audience) (f : Listener → Listener) (past : List Note) (link : Link) : Link :=
  { link with
    listeners := audience.listeners
    observers := audience.observers
    inbox := audience.inbox
    gateOpen := audience.gateOpen
    blocked := link.blocked.map (Delivery.recast f)
    wakes := link.wakes.map (Wake.recast f)
    trace := past ++ link.trace }

/-- Whether an event is about the listeners or the gate. -/
def Event.concernsAudience : Event → Bool
  | .addObserver .. | .addAgain _ | .removeObserver _ | .openGate | .closeGate => true
  | _ => false

end PixelPanel.Link

namespace PixelPanel.Proofs
open Link

variable {audience : Audience} {f : Listener → Listener} {past : List Note} {link : Link}

/-! ### Small changes -/

@[simp] lemma reseat_note (seen : Note) :
    (link.reseat audience f past).note seen = (link.note seen).reseat audience f past := by
  rw [note, reseat, reseat, note, ← List.append_assoc]

@[simp] lemma reseat_log (level : Level) (message : String) :
    (link.reseat audience f past).log level message = (link.log level message).reseat audience f past :=
  reseat_note _

@[simp] lemma reseat_finish (call : ℕ) (outcome : Outcome) :
    (link.reseat audience f past).finish call outcome = (link.finish call outcome).reseat audience f past :=
  reseat_note _

@[simp] lemma reseat_modifySession (session : ℕ) (change : Session → Session) :
    (link.reseat audience f past).modifySession session change =
      (link.modifySession session change).reseat audience f past := rfl

lemma reseat_wake (wakes : List Wake) : (link.reseat audience f past).wake (wakes.map (Wake.recast f)) =
    (link.wake wakes).reseat audience f past := by
  rw [wake, reseat, reseat, wake, ← List.map_append]

/-- A turn of a call is the same whoever listens. -/
@[simp] lemma reseat_wake_call (ids : List ℕ) : (link.reseat audience f past).wake (ids.map Wake.call) =
    (link.wake (ids.map Wake.call)).reseat audience f past := by
  rw [← reseat_wake, List.map_map]
  rfl

@[simp] lemma reseat_wake_leaving (id turns : ℕ) (outcome : Outcome) :
    (link.reseat audience f past).wake [.leaving id turns outcome] =
      (link.wake [.leaving id turns outcome]).reseat audience f past :=
  reseat_wake [.leaving id turns outcome]

@[simp] lemma reseat_retire (reason : String) :
    (link.reseat audience f past).retire reason = (link.retire reason).reseat audience f past := by
  have hphase : (link.reseat audience f past).phase = link.phase := rfl
  unfold retire
  rw [hphase]
  dsimp only
  split
  · have hlog := @reseat_log audience f past link .warning s!"Connection to {link.address} lost: {reason}"
    exact congrArg (fun link : Link => { link with phase := .closed }) hlog
  · rfl

@[simp] lemma reseat_suspend (call : Call) :
    (link.reseat audience f past).suspend call = (link.suspend call).reseat audience f past := rfl

@[simp] lemma reseat_removeCall (id : ℕ) :
    (link.reseat audience f past).removeCall id = (link.removeCall id).reseat audience f past := rfl

@[simp] lemma reseat_handOver (lock : ℕ) :
    (link.reseat audience f past).handOver lock = (link.handOver lock).reseat audience f past := by
  have hcalls : (link.reseat audience f past).calls = link.calls := rfl
  unfold handOver
  rw [hcalls]
  split
  · rfl
  · exact reseat_wake_call [_]

lemma reseat_tryWrite (socket : ℕ) (message : Octets) :
    (link.reseat audience f past).tryWrite socket message =
      ((link.tryWrite socket message).1.reseat audience f past, (link.tryWrite socket message).2) := by
  have hopen : (link.reseat audience f past).isOpen socket = link.isOpen socket := rfl
  have hfault : (link.reseat audience f past).writeFault = link.writeFault := rfl
  unfold tryWrite
  rw [hopen, hfault]
  split
  · rfl
  · split
    · rfl
    · rename_i error count _
      exact congrArg (·, none) (@reseat_note audience f past { link with writeFault := some (error, count) } _)
    · rw [reseat_note]

/-! ### The end of a session -/

lemma isWorkerOf_recast (session : ℕ) (wake : Wake) :
    (wake.recast f).isWorkerOf session = wake.isWorkerOf session := by
  cases wake <;> rfl

@[simp] lemma reseat_stopTasks :
    (link.reseat audience f past).stopTasks = link.stopTasks.reseat audience f past := by
  have howned : (link.reseat audience f past).owned = link.owned := rfl
  unfold stopTasks
  rw [howned]
  split
  · rfl
  · simp only [reseat, modifySession, List.filter_map, Function.comp_def, isWorkerOf_recast,
      Delivery.recast]

@[simp] lemma reseat_closeSocket :
    (link.reseat audience f past).closeSocket = link.closeSocket.reseat audience f past := by
  have hcurrent : (link.reseat audience f past).current = link.current := rfl
  have haddress : (link.reseat audience f past).address = link.address := rfl
  unfold closeSocket
  rw [hcurrent, haddress]
  split
  · rfl
  · dsimp only
    rw [reseat_log, reseat_modifySession, reseat_note]
    rfl

@[simp] lemma reseat_hangUp : (link.reseat audience f past).hangUp = link.hangUp.reseat audience f past := by
  rw [hangUp, reseat_stopTasks, reseat_closeSocket, hangUp]

@[simp] lemma reseat_leave (id : ℕ) (outcome : Outcome) :
    (link.reseat audience f past).leave id outcome = (link.leave id outcome).reseat audience f past := by
  have howned : (link.reseat audience f past).owned = link.owned := rfl
  unfold leave
  rw [howned]
  split
  · rw [reseat_closeSocket, reseat_finish]
  · rw [reseat_stopTasks, reseat_wake_leaving]

@[simp] lemma reseat_conclude (id : ℕ) (ending : Ending) (outcome : Outcome) :
    (link.reseat audience f past).conclude id ending outcome =
      (link.conclude id ending outcome).reseat audience f past := by
  unfold conclude
  split
  · exact reseat_finish ..
  · exact reseat_leave ..
  · exact reseat_leave ..

/-! ### Calls -/

@[simp] lemma reseat_abandon (id : ℕ) (ending : Ending) (lock : Option ℕ) (error : CallError) :
    (link.reseat audience f past).abandon id ending lock error =
      (link.abandon id ending lock error).reseat audience f past := by
  cases lock with
  | none => exact reseat_conclude ..
  | some lock => rw [abandon, reseat_handOver, reseat_conclude, abandon]

@[simp] lemma reseat_failWrite (id : ℕ) (ending : Ending) (lock : Option ℕ) (error : SystemError) :
    (link.reseat audience f past).failWrite id ending lock error =
      (link.failWrite id ending lock error).reseat audience f past := by
  rw [failWrite, reseat_retire, reseat_abandon, failWrite]

@[simp] lemma reseat_perform (id : ℕ) (ending : Ending) (lock : Option ℕ) (actions : List Action)
    (link : Link) : perform id ending lock actions (link.reseat audience f past) =
      (perform id ending lock actions link).reseat audience f past := by
  have hphase : ∀ link : Link, (link.reseat audience f past).phase = link.phase := fun _ => rfl
  have hcurrent : ∀ link : Link, (link.reseat audience f past).current = link.current := fun _ => rfl
  induction actions generalizing lock link with
  | nil => rw [perform, reseat_conclude, perform]
  | cons action rest ih =>
    cases action with
    | acquire =>
      have hbusy : ∀ lock, (link.reseat audience f past).isBusy lock = link.isBusy lock := fun _ => rfl
      rw [perform, perform, hphase, hcurrent]
      split
      · rw [hbusy, reseat_suspend, ih]
        split <;> rfl
      · exact reseat_abandon ..
    | write message =>
      rw [perform, perform, hphase, hcurrent]
      split
      · rename_i socket _ _
        dsimp only
        rw [reseat_log]
        have hheld : ((link.log .debug ("Sending: " ++ Hex.encode message)).reseat audience f past).writesHeld =
            (link.log .debug ("Sending: " ++ Hex.encode message)).writesHeld := rfl
        rw [hheld, reseat_suspend, reseat_tryWrite]
        split
        · rfl
        · obtain ⟨next, error⟩ :=
            (link.log .debug ("Sending: " ++ Hex.encode message)).tryWrite socket message
          cases error with
          | none => exact ih ..
          | some error => exact reseat_failWrite ..
      · exact reseat_abandon ..
    | release =>
      cases lock with
      | none => rw [perform, perform, ih]
      | some lock => rw [perform, perform, reseat_handOver, ih]

@[simp] lemma reseat_resumeCall (id : ℕ) :
    (link.reseat audience f past).resumeCall id = (link.resumeCall id).reseat audience f past := by
  have hcalls : (link.reseat audience f past).calls = link.calls := rfl
  unfold resumeCall
  rw [hcalls, reseat_removeCall]
  split
  · rfl
  · split
    · rfl
    · exact reseat_perform ..
    · rename_i lock socket message _
      rw [reseat_tryWrite]
      obtain ⟨next, error⟩ := (link.removeCall id).tryWrite socket message
      cases error with
      | none => exact reseat_perform ..
      | some error => exact reseat_failWrite ..

/-! ### Attempts to connect -/

@[simp] lemma reseat_dropSocket (socket : ℕ) :
    (link.reseat audience f past).dropSocket socket = (link.dropSocket socket).reseat audience f past :=
  @reseat_note audience f past (link.modifySession socket fun found => { found with isOpen := false }) _

@[simp] lemma reseat_failConnect (id : ℕ) (reason : String) :
    (link.reseat audience f past).failConnect id reason = (link.failConnect id reason).reseat audience f past :=
  @reseat_finish audience f past { link with phase := .disconnected } ..

@[simp] lemma reseat_attach (id socket : ℕ) (actions : List Action) (ending : Ending) :
    (link.reseat audience f past).attach id socket actions ending =
      (link.attach id socket actions ending).reseat audience f past := by
  have hsession : ∀ link : Link, ({ link.reseat audience f past with
      current := some socket, owned := some socket, dropped := 0, phase := .active } : Link) =
      ({ link with
        current := some socket, owned := some socket, dropped := 0, phase := .active } : Link).reseat
          audience f past := fun _ => rfl
  have haddress : ∀ link : Link, (link.reseat audience f past).address = link.address := fun _ => rfl
  unfold attach
  dsimp only
  rw [reseat_modifySession, hsession, reseat_note, haddress, reseat_log, reseat_perform]
  rfl

@[simp] lemma reseat_answerAttempt (id socket : ℕ) (actions : List Action) (ending : Ending)
    (answer : Answer) : (link.reseat audience f past).answerAttempt id socket actions ending answer =
      (link.answerAttempt id socket actions ending answer).reseat audience f past := by
  cases answer <;> simp only [answerAttempt, reseat_attach, reseat_dropSocket, reseat_failConnect,
    reseat_suspend]

@[simp] lemma reseat_connect (id : ℕ) (actions : List Action) (ending : Ending) (answer : Answer) :
    (link.reseat audience f past).connect id actions ending answer =
      (link.connect id actions ending answer).reseat audience f past := by
  have hphase : (link.reseat audience f past).phase = link.phase := rfl
  have haddress : ∀ link : Link, (link.reseat audience f past).address = link.address := fun _ => rfl
  have hchannel : ∀ link : Link, (link.reseat audience f past).channel = link.channel := fun _ => rfl
  have hsessions : ∀ link : Link, (link.reseat audience f past).sessions = link.sessions := fun _ => rfl
  have hclean : (if (link.reseat audience f past).owned.isSome ∨ (link.reseat audience f past).current.isSome then
      (link.reseat audience f past).hangUp else link.reseat audience f past) =
      (if link.owned.isSome ∨ link.current.isSome then link.hangUp else link).reseat audience f past := by
    rw [reseat_hangUp]
    exact (apply_ite (reseat audience f past) _ _ _).symm
  have hdial : ∀ link : Link, ({ link.reseat audience f past with phase := .connecting } : Link) =
      ({ link with phase := .connecting } : Link).reseat audience f past := fun _ => rfl
  have hopen : ∀ link : Link, ({ link.reseat audience f past with
      sessions := link.sessions ++ [({ isOpen := true } : Session)] } : Link) =
      ({ link with sessions := link.sessions ++ [({ isOpen := true } : Session)] } : Link).reseat
        audience f past := fun _ => rfl
  unfold connect
  rw [hphase]
  split
  · exact reseat_finish ..
  · rw [hclean]
    generalize (if link.owned.isSome ∨ link.current.isSome then link.hangUp else link) = clean
    dsimp only
    rw [hdial, reseat_log, haddress, haddress, hchannel]
    split
    · exact reseat_failConnect ..
    · rw [reseat_log, reseat_failConnect]
      split
      · rfl
      · rw [hsessions, hopen, hchannel, reseat_note, reseat_answerAttempt]

@[simp] lemma reseat_cancel (id : ℕ) :
    (link.reseat audience f past).cancel id = (link.cancel id).reseat audience f past := by
  have hcalls : (link.reseat audience f past).calls = link.calls := rfl
  unfold cancel
  rw [hcalls]
  split
  · rfl
  · dsimp only
    rw [reseat_removeCall]
    split
    · rename_i socket _
      rw [reseat_dropSocket]
      exact @reseat_finish audience f past
        { (link.removeCall id).dropSocket socket with phase := .disconnected } ..
    · exact reseat_abandon ..
    · exact reseat_abandon ..

@[simp] lemma reseat_answerYoungest (answer : Answer) :
    (link.reseat audience f past).answerYoungest answer = (link.answerYoungest answer).reseat audience f past := by
  have hcalls : (link.reseat audience f past).calls = link.calls := rfl
  unfold answerYoungest
  rw [hcalls]
  split
  · rfl
  · split
    · rfl
    · rfl
    · rw [reseat_removeCall, reseat_answerAttempt]

/-! ### The reader -/

@[simp] lemma reseat_enqueue (chunk : Octets) :
    (link.reseat audience f past).enqueue chunk = (link.enqueue chunk).reseat audience f past := by
  have hcurrent : (link.reseat audience f past).current = link.current := rfl
  have hcapacity : (link.reseat audience f past).capacity = link.capacity := rfl
  have hqueue : ∀ session, (link.reseat audience f past).queueOf session = link.queueOf session := fun _ => rfl
  unfold enqueue
  rw [hcurrent]
  split
  · rfl
  · rw [hcapacity, hqueue]
    split
    · exact @reseat_log audience f past { link with dropped := link.dropped + 1 } ..
    · rfl

@[simp] lemma reseat_rouse (session : ℕ) :
    (link.reseat audience f past).rouse session = (link.rouse session).reseat audience f past := by
  have hsessions : (link.reseat audience f past).sessions = link.sessions := rfl
  unfold rouse
  rw [hsessions]
  split
  · rfl
  · dsimp only
    rw [reseat_modifySession, ← reseat_wake, List.map_replicate]
    rfl

@[simp] lemma reseat_read (octets : Octets) :
    (link.reseat audience f past).read octets = (link.read octets).reseat audience f past := by
  have hreader : (link.reseat audience f past).hasReader = link.hasReader := rfl
  have hfold : ∀ (pieces : List Octets) (link : Link), pieces.foldl
      (fun link chunk => (link.log .debug ("Received: " ++ Hex.encode chunk)).enqueue chunk)
      (link.reseat audience f past) = (pieces.foldl
      (fun link chunk => (link.log .debug ("Received: " ++ Hex.encode chunk)).enqueue chunk)
      link).reseat audience f past := by
    intro pieces
    induction pieces with
    | nil => exact fun _ => rfl
    | cons piece rest ih =>
      intro link
      rw [List.foldl_cons, reseat_log, reseat_enqueue, ih, List.foldl_cons]
  have hcurrent : ∀ link : Link, (link.reseat audience f past).current = link.current := fun _ => rfl
  unfold Link.read
  rw [hreader]
  split
  · rw [hfold]
    dsimp only
    rw [hcurrent]
    split
    · rfl
    · exact reseat_rouse _
  · rfl

@[simp] lemma reseat_readEnd : (link.reseat audience f past).readEnd = link.readEnd.reseat audience f past := by
  have hfold : ∀ (sessions : List Session) (link : Link), sessions.foldl
      (fun link session => if session.reading then link.retire "closed by device" else link)
      (link.reseat audience f past) = (sessions.foldl
      (fun link session => if session.reading then link.retire "closed by device" else link)
      link).reseat audience f past := by
    intro sessions
    induction sessions with
    | nil => exact fun _ => rfl
    | cons session rest ih =>
      intro link
      rw [List.foldl_cons, reseat_retire, ← apply_ite (reseat audience f past), ih, List.foldl_cons]
  exact hfold link.sessions { link with
    sessions := link.sessions.map fun session => { session with reading := false } }

@[simp] lemma reseat_readError (error : SystemError) :
    (link.reseat audience f past).readError error = (link.readError error).reseat audience f past := by
  have hsessions : (link.reseat audience f past).sessions = link.sessions := rfl
  unfold readError
  rw [hsessions]
  split
  · rfl
  · rw [reseat_modifySession, reseat_retire]

/-! ### Events and turns -/

/-- Any other event means the same to any audience. -/
lemma reseat_act {event : Event} (h : event.concernsAudience = false) (id : ℕ) :
    (link.reseat audience f past).act id event = (link.act id event).reseat audience f past := by
  cases event with
  | connect answer => exact reseat_connect ..
  | answer answer => exact reseat_answerYoungest ..
  | cancel call => exact reseat_cancel ..
  | disconnect => rw [act, reseat_hangUp, reseat_finish, act]
  | scope messages raises answer => exact reseat_connect ..
  | send messages => exact reseat_perform ..
  | deviceSends octets => exact reseat_read ..
  | deviceCloses => exact reseat_readEnd
  | readFails error => exact reseat_readError ..
  | releaseWrites =>
    have hsame := @reseat_wake_call audience f past { link with writesHeld := false }
      ((link.calls.filter Call.isWriting).map Call.id)
    rw [List.map_map] at hsame
    exact hsame
  | writesFail | writesSucceed | holdWrites | nothing => rfl
  | _ => cases h

lemma reseat_resume {wake : Wake} (h : workerOf? wake = none) :
    (link.reseat audience f past).resume wake = (link.resume wake).reseat audience f past := by
  cases wake with
  | call id => exact reseat_resumeCall id
  | leaving id turns outcome =>
    cases turns with
    | zero => rw [resume, reseat_closeSocket, reseat_finish, resume]
    | succ turns => exact reseat_wake_leaving ..
  | worker session => cases h
  | delivery going => cases h
  | returned listener going => cases h

lemma recast_id : Delivery.recast id = id := by
  funext going
  exact congrArg (fun listeners => { going with listeners := listeners }) (List.map_id _)

lemma recast_wake_id : Wake.recast id = id := by
  funext wake
  cases wake <;> first | rfl | rw [Wake.recast, recast_id]; rfl

lemma reseat_self (link : Link) (past : List Note) :
    link.reseat link.audience id past = { link with trace := past ++ link.trace } := by
  rw [reseat, recast_id, recast_wake_id, List.map_id, List.map_id]
  rfl

/-- What does the same before any audience leaves the audience as it is. -/
lemma audience_eq_of_reseat {g : Link → Link}
    (h : g (link.reseat link.audience id []) = (g link).reseat link.audience id []) :
    (g link).audience = link.audience := by
  rw [reseat_self, List.nil_append] at h
  rw [h]
  rfl

lemma audience_act {event : Event} (h : event.concernsAudience = false) (id : ℕ) :
    (link.act id event).audience = link.audience :=
  audience_eq_of_reseat (g := fun link => link.act id event) (reseat_act h id)

lemma audience_resume {wake : Wake} (h : workerOf? wake = none) :
    (link.resume wake).audience = link.audience :=
  audience_eq_of_reseat (g := fun link => link.resume wake) (reseat_resume h)

end PixelPanel.Proofs
