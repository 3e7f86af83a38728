import PixelPanel.Proofs.Link.Dialling

/-!
# A call alone

Where no other call is pending, a call never has to wait for the lock. It waits for the device and then in
its writes, and if it has opened a scope it leaves it in the end. What the link records of the call tells how
far it has come: first the session that it has begun, then the messages that it has written, and at
last its outcome.
-/

namespace PixelPanel.Link

/-- The message that an action writes. -/
def Action.message? : Action → Option Octets
  | .write message => some message
  | _ => none

/-- The lock is only acquired to write something. -/
def Purposeful : List Action → Prop
  | [] => True
  | .acquire :: rest => rest.filterMap Action.message? ≠ [] ∧ Purposeful rest
  | _ :: rest => Purposeful rest

/-- Whether a note is about the beginning of a session, a message or the end of a call. -/
def Note.concerns (id : ℕ) : Note → Bool
  | .attached _ | .written _ => true
  | .finished call _ => call == id
  | _ => false

/-- What a link has recorded of a call that is alone. -/
def record (link : Link) (id : ℕ) : List Note :=
  link.trace.filter (Note.concerns id)

/-- Whether an event is a call of a user. -/
def Event.isCall : Event → Bool
  | .connect _ | .scope .. | .send _ | .disconnect => true
  | _ => false

/-- How a call ends when its body has ended. A scope hands on every outcome, and it may raise at its
end. -/
def Ending.passes : Ending → Outcome → Outcome
  | .scope true, .done => .failed (.raised "inside")
  | _, outcome => outcome

end PixelPanel.Link

namespace PixelPanel.Proofs
open Link

/-- What a call has to do: it may have to begin a session, and then it writes messages. -/
structure Errand where
  id : ℕ
  dials : Bool
  messages : List Octets
  ending : Ending

/-- How the body of a call can end when it has begun a session and written some messages. -/
inductive Fate (base : Link) (errand : Errand) : Option ℕ → List Octets → Outcome → Prop
  /-- There is no session. -/
  | unreached (reason : String) (hdials : errand.dials) :
    Fate base errand none [] (.failed (.connectFailed base.address base.channel reason))
  /-- It has been cancelled while it waited for the device. -/
  | abandoned (hdials : errand.dials) : Fate base errand none [] (.failed .cancelled)
  /-- It has not come behind some message. -/
  | stopped {begun : Option ℕ} {written : List Octets} (message : Octets) (rest : List Octets)
    {error : CallError} (hbegun : begun.isSome = errand.dials)
    (hmessages : errand.messages = written ++ message :: rest)
    (herror : error = .cancelled ∨ error = .notConnected ∨ ∃ cause, error = .writeFailed cause) :
    Fate base errand begun written (.failed error)
  | through {begun : Option ℕ} (hbegun : begun.isSome = errand.dials) :
    Fate base errand begun errand.messages .done

/-- The record of a call that has begun a session and written some messages. -/
def entries (begun : Option ℕ) (written : List Octets) : List Note :=
  begun.toList.map .attached ++ written.map .written

/-- A call that is over has ended as its fate says. -/
structure Over (base : Link) (errand : Errand) (begun : Option ℕ) (written : List Octets)
    (outcome : Outcome) (link : Link) : Prop where
  fate : Fate base errand begun written outcome
  down : errand.ending ≠ .plain ∨ begun.isSome ≠ errand.dials →
    link.phase = .disconnected ∧ link.current = none
  record : link.record errand.id = base.record errand.id ++ entries begun written ++
    [.finished errand.id (errand.ending.passes outcome)]

/-- The only call of a link waits for the device. -/
structure DialsAlone (base : Link) (errand : Errand) (socket : ℕ) (actions : List Action) (link : Link) :
    Prop where
  dials : errand.dials
  calls : link.calls = [⟨errand.id, .opening socket, actions, errand.ending⟩]
  messages : errand.messages = actions.filterMap Action.message?
  purpose : Purposeful actions
  current : link.current = none
  turns : callTurns link = []
  record : link.record errand.id = base.record errand.id

/-- The only call of a link waits in a write, or the write may go on. -/
structure WritesAlone (base : Link) (errand : Errand) (begun : Option ℕ) (written : List Octets)
    (lock socket : ℕ) (message : Octets) (actions : List Action) (link : Link) : Prop where
  session : begun.isSome = errand.dials
  calls : link.calls = [⟨errand.id, .writing lock socket message, actions, errand.ending⟩]
  messages : errand.messages = written ++ message :: actions.filterMap Action.message?
  purpose : Purposeful actions
  turns : callTurns link = [] ∨ callTurns link = [.call errand.id]
  record : link.record errand.id = base.record errand.id ++ entries begun written

/-- How far the only call of a link has come. -/
inductive Alone (base : Link) (errand : Errand) (link : Link) : Prop
  | dialling {socket : ℕ} {actions : List Action} (h : DialsAlone base errand socket actions link)
  | writing {begun : Option ℕ} {written : List Octets} {lock socket : ℕ} {message : Octets}
    {actions : List Action} (h : WritesAlone base errand begun written lock socket message actions link)
  | leaving (turns : ℕ) (outcome : Outcome) (begun : Option ℕ) (written : List Octets)
    (hcalls : link.calls = [])
    (hturns : callTurns link = [.leaving errand.id turns (errand.ending.passes outcome)])
    (hfate : Fate base errand begun written outcome)
    (hrecord : link.record errand.id = base.record errand.id ++ entries begun written)
  | finished (begun : Option ℕ) (written : List Octets) (outcome : Outcome) (hcalls : link.calls = [])
    (hturns : callTurns link = []) (hover : Over base errand begun written outcome link)

variable {base link link' : Link} {errand : Errand} {id : ℕ} {begun : Option ℕ} {written : List Octets}
  {outcome : Outcome} {actions : List Action}

/-! ### Fates -/

/-- The body of a call succeeds exactly if there is a session where one is needed, and everything is
written. -/
lemma Fate.done_iff (h : Fate base errand begun written outcome) :
    outcome = .done ↔ begun.isSome = errand.dials ∧ written = errand.messages := by
  cases h with
  | unreached reason hdials => simp [hdials]
  | abandoned hdials => simp [hdials]
  | stopped message rest hbegun hmessages herror =>
    refine ⟨nofun, fun hall => ?_⟩
    have hlonger := congrArg List.length (hall.2.trans hmessages)
    rw [List.length_append, List.length_cons] at hlonger
    omega
  | through hbegun => exact ⟨fun _ => ⟨hbegun, rfl⟩, fun _ => rfl⟩

lemma Fate.written_eq_nil (h : Fate base errand begun written outcome) (hnone : errand.messages = []) :
    written = [] := by
  cases h with
  | unreached => rfl
  | abandoned => rfl
  | stopped message rest _ hmessages =>
    rw [hnone] at hmessages
    simp at hmessages
  | through => exact hnone

/-! ### Records -/

lemma record_append {notes : List Note} (h : link'.trace = link.trace ++ notes) (id : ℕ) :
    link'.record id = link.record id ++ notes.filter (Note.concerns id) := by
  rw [record, h, List.filter_append]
  rfl

lemma record_aside (h : Aside link link') (id : ℕ) : link'.record id = link.record id := by
  obtain ⟨more, htrace, hmore⟩ := h.trace
  have hnone : more.filter (Note.concerns id) = [] := by
    refine List.filter_eq_nil_iff.mpr fun seen hmem => ?_
    have haside := hmore seen hmem
    cases seen <;> first | exact Bool.false_ne_true | cases haside
  rw [record_append htrace, hnone, List.append_nil]

lemma record_note_of_concerns {seen : Note} (h : seen.concerns id) :
    (link.note seen).record id = link.record id ++ [seen] := by
  have hnoted : (link.note seen).trace = link.trace ++ [seen] := rfl
  rw [record_append hnoted, List.filter_cons_of_pos h, List.filter_nil]

lemma record_finish (outcome : Outcome) :
    (link.finish id outcome).record id = link.record id ++ [.finished id outcome] :=
  record_note_of_concerns (beq_self_eq_true id)

lemma record_finish_of_ne {other : ℕ} (h : other ≠ id) (outcome : Outcome) :
    (link.finish other outcome).record id = link.record id := by
  have hother : ¬(Note.finished other outcome).concerns id := by simpa [Note.concerns] using h
  have hnoted : (link.finish other outcome).trace = link.trace ++ [.finished other outcome] := rfl
  rw [record_append hnoted, List.filter_cons_of_neg hother, List.filter_nil, List.append_nil]

lemma record_written {message : Octets} (h : link.record id = base.record id ++ entries begun written) :
    (link.note (.written message)).record id =
      base.record id ++ entries begun (written ++ [message]) := by
  rw [record_note_of_concerns rfl, h, entries, entries, List.map_append]
  simp only [List.append_assoc, List.map_singleton]

/-! ### The end of a call -/

lemma callTurns_wake_of_none {wake : Wake} (h : workerOf? wake = none) :
    callTurns (link.wake [wake]) = callTurns link ++ [wake] := by
  rw [callTurns, Link.wake, List.filter_append, List.filter_cons_of_pos (by simp [h]), List.filter_nil]
  rfl

lemma conclude_of_ne_plain {ending : Ending} (h : ending ≠ .plain) (outcome : Outcome) :
    link.conclude id ending outcome = link.leave id (ending.passes outcome) := by
  cases ending with
  | plain => exact (h rfl).elim
  | scope raises => cases raises <;> cases outcome <;> rfl

lemma passes_failed {error : CallError} (ending : Ending) :
    ending.passes (.failed error) = .failed error := by
  cases ending with
  | plain => rfl
  | scope raises => cases raises <;> rfl

lemma alone_conclude (hcalls : link.calls = []) (hturns : callTurns link = [])
    (hfate : Fate base errand begun written outcome) (hbegun : begun.isSome = errand.dials)
    (hrecord : link.record errand.id = base.record errand.id ++ entries begun written) :
    Alone base errand (link.conclude errand.id errand.ending outcome) := by
  by_cases hplain : errand.ending = .plain
  · have hpasses : errand.ending.passes outcome = outcome := by
      rw [hplain]
      rfl
    have hend : link.conclude errand.id errand.ending outcome = link.finish errand.id outcome := by
      rw [hplain, conclude]
    rw [hend]
    refine .finished begun written outcome hcalls hturns ⟨hfate, fun h => ?_, ?_⟩
    · exact h.elim (fun hne => (hne hplain).elim) fun hne => (hne hbegun).elim
    · rw [record_finish, hrecord, hpasses]
  · rw [conclude_of_ne_plain hplain, leave]
    cases howned : link.owned with
    | none =>
      have haside := @aside_closeSocket link
      refine .finished begun written outcome (haside.calls.trans hcalls) (haside.turns.trans hturns)
        ⟨hfate, fun _ => ⟨closeSocket_phase, closeSocket_current⟩, ?_⟩
      rw [record_finish, record_aside haside, hrecord]
    | some session =>
      -- the tasks are stopped first, and the socket is closed some turns later
      have haside := @aside_stopTasks link
      refine .leaving stoppingTurns outcome begun written (haside.calls.trans hcalls) ?_ hfate ?_
      · rw [callTurns_wake_of_none rfl, haside.turns, hturns, List.nil_append]
      · exact (record_aside haside _).trans hrecord

/-! ### A call that runs -/

/-- The call runs, with these actions left. -/
structure Performing (base : Link) (errand : Errand) (begun : Option ℕ) (written : List Octets)
    (actions : List Action) (link : Link) : Prop where
  calls : link.calls = []
  turns : callTurns link = []
  session : begun.isSome = errand.dials
  messages : errand.messages = written ++ actions.filterMap Action.message?
  purpose : Purposeful actions
  record : link.record errand.id = base.record errand.id ++ entries begun written

lemma Performing.aside (h : Performing base errand begun written actions link) (haside : Aside link link') :
    Performing base errand begun written actions link' where
  __ := h
  calls := haside.calls.trans h.calls
  turns := haside.turns.trans h.turns
  record := (record_aside haside _).trans h.record

lemma handOver_of_calls (h : link.calls = []) (lock : ℕ) : link.handOver lock = link := by
  rw [handOver, h]
  rfl

lemma Performing.abandon (h : Performing base errand begun written actions link) {message : Octets}
    {rest : List Octets} (hmessages : errand.messages = written ++ message :: rest) (lock : Option ℕ)
    {error : CallError}
    (herror : error = .cancelled ∨ error = .notConnected ∨ ∃ cause, error = .writeFailed cause) :
    Alone base errand (link.abandon errand.id errand.ending lock error) := by
  have hend : link.abandon errand.id errand.ending lock error =
      link.conclude errand.id errand.ending (.failed error) := by
    cases lock with
    | none => rfl
    | some lock => rw [Link.abandon, handOver_of_calls h.calls]
  rw [hend]
  exact alone_conclude h.calls h.turns (.stopped message rest h.session hmessages herror) h.session h.record

lemma Performing.failWrite (h : Performing base errand begun written actions link) {message : Octets}
    {rest : List Octets} (hmessages : errand.messages = written ++ message :: rest) (lock : Option ℕ)
    (error : SystemError) : Alone base errand (link.failWrite errand.id errand.ending lock error) :=
  (h.aside (aside_retire _)).abandon hmessages lock (.inr (.inr ⟨error, rfl⟩))

lemma Performing.write {message : Octets}
    (h : Performing base errand begun written (.write message :: actions) link)
    (fault : Option (SystemError × ℕ)) : Performing base errand begun (written ++ [message]) actions
      ({ link with writeFault := fault }.note (.written message)) where
  calls := h.calls
  turns := h.turns
  session := h.session
  messages := by rw [h.messages, List.append_assoc]; rfl
  purpose := h.purpose
  record := record_written h.record

/-- A call that runs waits in a write in the end, or is over. -/
lemma alone_perform (h : Performing base errand begun written actions link) (lock : Option ℕ) :
    Alone base errand (perform errand.id errand.ending lock actions link) := by
  -- what is written and what is left to be written make up the messages before every action
  induction actions generalizing lock link written with
  | nil =>
    have hall : written = errand.messages := by simpa using h.messages.symm
    rw [perform]
    subst hall
    exact alone_conclude h.calls h.turns (.through h.session) h.session h.record
  | cons action rest ih =>
    cases action with
    | acquire =>
      obtain ⟨hsome, hpurpose⟩ := h.purpose
      have hrest : Performing base errand begun written rest link :=
        { h with purpose := hpurpose }
      have hidle : ∀ session, link.isBusy session = false := fun session => by
        rw [isBusy, h.calls]
        rfl
      rw [perform]
      split
      · rw [if_neg (by rw [hidle]; exact Bool.false_ne_true)]
        exact ih hrest _
      · -- there is something left to be written
        obtain ⟨message, later, hlater⟩ := List.exists_cons_of_ne_nil hsome
        have hmessages : errand.messages = written ++ message :: later := hlater ▸ h.messages
        exact h.abandon hmessages lock (.inr (.inl rfl))
    | write message =>
      have hlogged := h.aside (aside_log .debug ("Sending: " ++ Hex.encode message))
      rw [perform]
      split
      · rename_i socket _ _
        dsimp only
        split
        · have hwaiting : WritesAlone base errand begun written (lock.getD socket) socket message rest
              ((link.log .debug ("Sending: " ++ Hex.encode message)).suspend
                ⟨errand.id, .writing (lock.getD socket) socket message, rest, errand.ending⟩) :=
            ⟨h.session, by rw [suspend, hlogged.calls]; rfl, h.messages, h.purpose, .inl hlogged.turns,
              hlogged.record⟩
          exact .writing hwaiting
        · rcases tryWrite_cases (link.log .debug ("Sending: " ++ Hex.encode message)) socket message
            with ⟨fault, htry⟩ | ⟨error, htry⟩
          · rw [htry]
            exact ih (hlogged.write fault) lock
          · rw [htry]
            exact hlogged.failWrite h.messages lock error
      · exact h.abandon h.messages lock (.inr (.inl rfl))
    | release =>
      have hrest : Performing base errand begun written rest link := { h with }
      cases lock with
      | none => exact ih hrest none
      | some lock =>
        rw [perform, handOver_of_calls h.calls]
        exact ih hrest none

/-! ### Turns -/

lemma Alone.congr (h : Alone base errand link) (hcalls : link'.calls = link.calls)
    (hturns : callTurns link' = callTurns link)
    (hrecord : link'.record errand.id = link.record errand.id) (hphase : link'.phase = link.phase)
    (hcurrent : link'.current = link.current) : Alone base errand link' := by
  cases h with
  | dialling h =>
    exact .dialling { h with
      calls := hcalls.trans h.calls
      current := hcurrent.trans h.current
      turns := hturns.trans h.turns
      record := hrecord.trans h.record }
  | writing h =>
    exact .writing { h with
      calls := hcalls.trans h.calls
      turns := hturns ▸ h.turns
      record := hrecord.trans h.record }
  | leaving turns outcome begun written hcalls' hturns' hfate hrecord' =>
    exact .leaving turns outcome begun written (hcalls.trans hcalls') (hturns.trans hturns') hfate
      (hrecord.trans hrecord')
  | finished begun written outcome hcalls' hturns' hover =>
    refine .finished begun written outcome (hcalls.trans hcalls') (hturns.trans hturns')
      ⟨hover.fate, ?_, hrecord.trans hover.record⟩
    rw [hphase, hcurrent]
    exact hover.down

lemma find?_call_alone {call : Call} (hcalls : link.calls = [call]) :
    link.calls.find? (fun other => other.id == call.id) = some call := by
  rw [hcalls]
  exact List.find?_cons_of_pos (beq_self_eq_true call.id)

lemma removeCall_of_calls {call : Call} (hcalls : link.calls = [call]) :
    (link.removeCall call.id).calls = [] := by
  rw [removeCall, hcalls]
  simp

lemma WritesAlone.running {lock socket : ℕ} {message : Octets}
    (h : WritesAlone base errand begun written lock socket message actions link)
    (hturns : callTurns link = []) :
    Performing base errand begun written (.write message :: actions) (link.removeCall errand.id) where
  calls := removeCall_of_calls h.calls
  turns := hturns
  session := h.session
  messages := h.messages
  purpose := h.purpose
  record := h.record

lemma WritesAlone.resumeCall {lock socket : ℕ} {message : Octets}
    (h : WritesAlone base errand begun written lock socket message actions link)
    (hturns : callTurns link = []) : Alone base errand (link.resumeCall errand.id) := by
  have hrunning := h.running hturns
  rw [Link.resumeCall, find?_call_alone h.calls]
  dsimp only
  rcases tryWrite_cases (link.removeCall errand.id) socket message with ⟨fault, htry⟩ | ⟨error, htry⟩
  · rw [htry]
    exact alone_perform (hrunning.write fault) (some lock)
  · rw [htry]
    exact hrunning.failWrite hrunning.messages (some lock) error

lemma Alone.turn (h : Alone base errand link) {wake : Wake} {rest : List Wake}
    (hwakes : link.wakes = wake :: rest) :
    Alone base errand ({ link with wakes := rest }.resume wake) := by
  cases hworker : workerOf? wake with
  | some worker =>
    -- workers leave the call alone
    have hpopped : callTurns { link with wakes := rest } = callTurns link := by
      rw [callTurns, callTurns, hwakes, List.filter_cons_of_neg (by simp [hworker])]
    have hworks := @resume_works { link with wakes := rest } _ _ hworker
    have haside := aside_of_works hworks
    obtain ⟨inbox, notes, idle, wakes, blocked, change, -, -, -, hworks⟩ := hworks
    refine h.congr haside.calls (haside.turns.trans hpopped) (record_aside haside _) ?_ ?_
    · rw [hworks]
    · rw [hworks]
  | none =>
    have hpopped : callTurns link = wake :: callTurns { link with wakes := rest } := by
      rw [callTurns, callTurns, hwakes, List.filter_cons_of_pos (by simp [hworker])]
    cases h with
    | dialling h => cases h.turns.symm.trans hpopped
    | writing h =>
      rcases h.turns with hturns | hturns
      · cases hturns.symm.trans hpopped
      · obtain ⟨rfl, hnone⟩ := List.cons.inj (hturns.symm.trans hpopped)
        have hwriting : WritesAlone base errand _ _ _ _ _ _ { link with wakes := rest } :=
          { h with turns := .inl hnone.symm }
        exact hwriting.resumeCall hnone.symm
    | leaving turns outcome begun written hcalls hturns hfate hrecord =>
      obtain ⟨rfl, hnone⟩ := List.cons.inj (hturns.symm.trans hpopped)
      cases turns with
      | zero =>
        have haside := @aside_closeSocket { link with wakes := rest }
        refine .finished begun written outcome (haside.calls.trans hcalls) (haside.turns.trans hnone.symm)
          ⟨hfate, fun _ => ⟨closeSocket_phase, closeSocket_current⟩, ?_⟩
        rw [resume, record_finish, record_aside haside]
        exact congrArg (· ++ _) hrecord
      | succ turns =>
        refine .leaving turns outcome begun written hcalls ?_ hfate hrecord
        rw [resume, callTurns_wake_of_none rfl, ← hnone, List.nil_append]
    | finished begun written outcome hcalls hturns =>
      cases hturns.symm.trans hpopped

lemma WritesAlone.attempts {lock socket : ℕ} {message : Octets}
    (h : WritesAlone base errand begun written lock socket message actions link) :
    ∀ call ∈ link.calls, call.socket? = none := by
  rw [h.calls]
  exact List.forall_mem_singleton.mpr rfl

/-! ### The beginning of a call -/

lemma performing_joined {socket : ℕ} (hcalls : link.calls = []) (hturns : callTurns link = [])
    (hdials : errand.dials) (hmessages : errand.messages = actions.filterMap Action.message?)
    (hpurpose : Purposeful actions) (hrecord : link.record errand.id = base.record errand.id) :
    Performing base errand (some socket) [] actions (link.joined socket) where
  calls := hcalls
  turns := hturns
  session := hdials.symm
  messages := hmessages
  purpose := hpurpose
  record := by
    have hjoined : (((attached link socket).note (.attached socket)).log .info
        s!"Connected to {link.address}").record errand.id = link.record errand.id ++ [.attached socket] :=
      (record_aside (aside_log ..) _).trans (record_note_of_concerns rfl)
    rw [joined, hjoined, hrecord]
    rfl

lemma alone_connect (hphase : IsDown link.phase) (hcalls : link.calls = []) (hturns : callTurns link = [])
    (hdials : errand.dials) (hmessages : errand.messages = actions.filterMap Action.message?)
    (hpurpose : Purposeful actions) (answer : Answer) :
    Alone link errand (link.connect errand.id actions errand.ending answer) := by
  have hconnecting := connecting_connect link errand.id answer
  generalize link.joinedAtOnce? answer = begun at hconnecting
  cases hconnecting with
  | failed clean error haside h hfailed =>
    have hidle : ¬(link.phase = .connecting ∨ link.phase = .active) := by
      rcases hphase with hphase | hphase <;> simp [hphase]
    obtain ⟨hdown, hcurrent, reason, rfl⟩ := hfailed.resolve_left hidle
    rw [h]
    refine .finished none [] _ (haside.calls.trans hcalls) (haside.turns.trans hturns)
      ⟨.unreached reason hdials, fun _ => ⟨hdown, hcurrent⟩, ?_⟩
    rw [record_finish, record_aside haside, passes_failed]
    exact congrArg (· ++ _) (List.append_nil _).symm
  | waiting clean socket haside _ h hcurrent =>
    rw [h]
    have hwaiting : DialsAlone link errand socket actions
        (clean.suspend ⟨errand.id, .opening socket, actions, errand.ending⟩) :=
      ⟨hdials, by rw [suspend, haside.calls, hcalls]; rfl, hmessages, hpurpose, hcurrent,
        haside.turns.trans hturns, record_aside haside _⟩
    exact .dialling hwaiting
  | begun clean socket haside _ h =>
    rw [h]
    exact alone_perform (performing_joined (haside.calls.trans hcalls) (haside.turns.trans hturns) hdials
      hmessages hpurpose (record_aside haside _)) none

/-! ### Events -/

/-- An attempt that waits ends without a session. -/
lemma DialsAlone.fail {socket : ℕ} (h : DialsAlone base errand socket actions link) {error : CallError}
    (hfate : Fate base errand none [] (.failed error)) :
    Alone base errand ({ (link.removeCall errand.id).dropSocket socket with
      phase := .disconnected }.finish errand.id (.failed error)) := by
  have haside := aside_dropped (link.removeCall errand.id) socket
  refine .finished none [] _ (haside.calls.trans (removeCall_of_calls h.calls))
    (haside.turns.trans h.turns) ⟨hfate, fun _ => ⟨rfl, h.current⟩, ?_⟩
  rw [record_finish, record_aside haside, passes_failed]
  exact congrArg (· ++ _) (h.record.trans (List.append_nil _).symm)

lemma DialsAlone.answer {socket : ℕ} (h : DialsAlone base errand socket actions link)
    (hsetup : link.setup = base.setup) (answer : Answer) :
    Alone base errand (link.answerYoungest answer) := by
  have hremoved : (link.removeCall errand.id).calls = [] := removeCall_of_calls h.calls
  obtain ⟨haddress, hchannel⟩ := Prod.mk.inj (Prod.mk.inj hsetup).1
  have hfailed : ∀ reason, Alone base errand
      (((link.removeCall errand.id).dropSocket socket).failConnect errand.id reason) := by
    intro reason
    have hfate : Fate base errand none [] (.failed (.connectFailed link.address link.channel reason)) := by
      rw [haddress, hchannel]
      exact .unreached reason h.dials
    exact h.fail hfate
  rw [answerYoungest, h.calls]
  cases answer with
  | accepted =>
    exact alone_perform (@performing_joined _ (link.removeCall errand.id) _ _ _ hremoved h.turns h.dials
      h.messages h.purpose h.record) none
  | refused error => exact hfailed error.message
  | unsupported => exact hfailed unsupportedText
  | later => exact .dialling h

lemma Alone.cancel (h : Alone base errand link) (hpending : link.calls ≠ []) (hwakes : link.wakes = [])
    (id : ℕ) : Alone base errand (link.cancel id) := by
  have hother : ∀ {call : Call}, link.calls = [call] → id ≠ call.id → link.cancel id = link := by
    intro call hcalls hne
    rw [Link.cancel, hcalls, List.find?_cons_of_neg (by simpa using hne.symm)]
    rfl
  cases h with
  | dialling h =>
    by_cases hid : id = errand.id
    · rw [hid, Link.cancel, find?_call_alone h.calls]
      exact h.fail (.abandoned h.dials)
    · rw [hother h.calls hid]
      exact .dialling h
  | writing h =>
    by_cases hid : id = errand.id
    · have hrunning := h.running (callTurns_eq_nil hwakes)
      rw [hid, Link.cancel, find?_call_alone h.calls]
      exact hrunning.abandon h.messages _ (.inl rfl)
    · rw [hother h.calls hid]
      exact .writing h
  | leaving _ _ _ _ hcalls => exact (hpending hcalls).elim
  | finished _ _ _ hcalls => exact (hpending hcalls).elim

lemma Alone.releaseWrites (h : Alone base errand link) (hpending : link.calls ≠ [])
    (hwakes : link.wakes = []) (id : ℕ) : Alone base errand (link.act id .releaseWrites) := by
  have hwriting : callTurns (link.act id .releaseWrites) =
      ((link.calls.filter Call.isWriting).map fun call : Call => Wake.call call.id) := by
    have hnone : ∀ call : Call, (workerOf? (.call call.id)).isNone := fun _ => rfl
    rw [act, callTurns, wake, hwakes, List.nil_append, List.filter_map]
    simp [workerOf?, Function.comp_def]
  cases h with
  | dialling h =>
    refine .dialling { h with turns := ?_ }
    rw [hwriting, h.calls]
    rfl
  | writing h =>
    refine .writing { h with turns := .inr ?_ }
    rw [hwriting, h.calls]
    rfl
  | leaving _ _ _ _ hcalls => exact (hpending hcalls).elim
  | finished _ _ _ hcalls => exact (hpending hcalls).elim

/-- What happens beside the call, while it waits. -/
lemma Alone.beside (h : Alone base errand link) (hpending : link.calls ≠ [])
    (hcalls : link'.calls = link.calls) (hturns : callTurns link' = callTurns link)
    (hrecord : link'.record errand.id = link.record errand.id)
    (hcurrent : ∀ session, link'.current = some session → link.current = some session) :
    Alone base errand link' := by
  cases h with
  | dialling h =>
    have hnone : link'.current = none := Option.eq_none_iff_forall_ne_some.mpr fun session hsome => by
      cases h.current.symm.trans (hcurrent session hsome)
    exact .dialling { h with
      calls := hcalls.trans h.calls
      current := hnone
      turns := hturns.trans h.turns
      record := hrecord.trans h.record }
  | writing h =>
    exact .writing { h with
      calls := hcalls.trans h.calls
      turns := hturns ▸ h.turns
      record := hrecord.trans h.record }
  | leaving _ _ _ _ hcalls => exact (hpending hcalls).elim
  | finished _ _ _ hcalls => exact (hpending hcalls).elim

/-- While the call waits, whatever is not a call brings it forward at most. -/
lemma Alone.act (h : Alone base errand link) (hpending : link.calls ≠ []) (hwakes : link.wakes = [])
    (hsetup : link.setup = base.setup) {event : Event} (hevent : event.isCall = false)
    (hid : id ≠ errand.id) : Alone base errand (link.act id event) := by
  cases hconcerns : event.concernsCalls with
  | false =>
    have hfewer : Fewer link (link.act id event) := by
      refine fewer_act ?_ ?_ id
      · cases event <;> first | rfl | cases hevent
      · rintro rfl
        cases hconcerns
    obtain ⟨middle, haside, hact⟩ := act_of_concernsCalls_eq_false hconcerns id
    have hbeside := @Alone.beside _ _ (link.act id event) _ h hpending
    rcases hact with hact | ⟨outcome, hact⟩
    · rw [← hact] at haside
      exact hbeside haside.calls haside.turns (record_aside haside _) hfewer.current
    · rw [hact] at hfewer hbeside ⊢
      exact hbeside haside.calls haside.turns
        ((record_finish_of_ne hid outcome).trans (record_aside haside _)) hfewer.current
  | true =>
    cases event with
    | answer answer =>
      cases h with
      | dialling h => exact h.answer hsetup answer
      | writing h =>
        -- nobody waits for the answer
        rw [Link.act, answerYoungest_of_attempts h.attempts]
        exact .writing h
      | leaving _ _ _ _ hcalls => exact (hpending hcalls).elim
      | finished _ _ _ hcalls => exact (hpending hcalls).elim
    | cancel call => exact h.cancel hpending hwakes call
    | releaseWrites => exact h.releaseWrites hpending hwakes id
    | connect | scope | send => cases hevent
    | _ => cases hconcerns

/-! ### Steps -/

lemma Alone.settle (h : Alone base errand link) : Alone base errand link.settle :=
  drain_induction (P := Alone base errand) (fun _ _ _ h hwakes => h.turn hwakes) _ link h

lemma Alone.step (h : Alone base errand link) (hpending : link.calls ≠ []) (hwakes : link.wakes = [])
    (hsetup : link.setup = base.setup) (hid : errand.id < link.clock) {event : Event}
    (hevent : event.isCall = false) : Alone base errand (link.step event) :=
  (h.act hpending hwakes hsetup hevent hid.ne').settle.congr rfl rfl rfl rfl rfl

/-- As long as the call waits for the device, no session is in use; otherwise no attempt waits. -/
lemma Alone.exclusive (h : Alone base errand link) : Exclusive link := by
  cases h with
  | dialling h => exact fun _ _ _ => h.current
  | writing h => exact exclusive_of_attempts h.attempts
  | leaving _ _ _ _ hcalls => exact exclusive_of_attempts (attempts_of_calls hcalls)
  | finished _ _ _ hcalls => exact exclusive_of_attempts (attempts_of_calls hcalls)

/-- At rest a call that no longer waits is over. -/
lemma Alone.exists_over (h : Alone base errand link) (hcalls : link.calls = []) (hwakes : link.wakes = []) :
    ∃ begun written outcome, Over base errand begun written outcome link := by
  cases h with
  | dialling h => cases hcalls.symm.trans h.calls
  | writing h => cases hcalls.symm.trans h.calls
  | leaving turns outcome begun written _ hturns => cases (callTurns_eq_nil hwakes).symm.trans hturns
  | finished begun written outcome _ _ hover => exact ⟨begun, written, outcome, hover⟩

end PixelPanel.Proofs
