import PixelPanel.Proofs.Link.LateFailure

/-!
# Down for good

A link that is disconnected should stay down until it is connected again, whatever still waits. It
does, unless something of the sessions before outlives the disconnection: an open socket, that of an
attempt to connect or one astray, or a send that waits in its write.
-/

namespace PixelPanel.Proofs
open Link

/-- What may still be seen of a link that is down: entries of the log and ends of calls. -/
def IsQuiet : Note → Prop
  | .log _ | .finished .. => True
  | _ => False

/-- Only quiet things have been seen since `start`. -/
def QuietSince (start link : Link) : Prop :=
  ∃ notes, link.trace = start.trace ++ notes ∧ ∀ seen ∈ notes, IsQuiet seen

/-- The link is down and quiet since `start`. -/
structure Down (start link : Link) : Prop where
  phase : link.phase = .disconnected
  current : link.current = none
  sockets : ∀ session, link.isOpen session = false
  readers : ∀ session, link.isReading session = false
  workers : ∀ session, link.crew session = 0
  quiet : QuietSince start link

/-- A link is down at every moment until it is connected again. -/
def StaysDown (link : Link) : Prop :=
  ∀ later event, (∀ other ∈ later ++ [event], other.connects = false) →
    Throughout (Down link) (link.run later) event

/-- What keeps a link down: no session is left, and whoever still waits in a write will end a session
on its failure. -/
structure Resting (start link : Link) : Prop where
  phase : link.phase = .disconnected
  current : link.current = none
  owned : link.owned = none
  sockets : ∀ session, link.isOpen session = false
  scopes : ∀ call ∈ link.calls, call.isWriting → call.ending ≠ .plain
  quiet : QuietSince start link

variable {next : ℕ} {tidy : Prop} {start link : Link}

/-! ### Operations of a link at rest -/

lemma QuietSince.refl (start : Link) : QuietSince start start :=
  ⟨[], (List.append_nil _).symm, by simp⟩

lemma QuietSince.add (h : QuietSince start link) (seen : Note) (hseen : IsQuiet seen) :
    QuietSince start (link.note seen) := by
  obtain ⟨notes, htrace, hnotes⟩ := h
  refine ⟨notes ++ [seen], ?_, List.forall_mem_append.mpr ⟨hnotes, by simpa using hseen⟩⟩
  rw [note, htrace, List.append_assoc]

lemma Resting.finish (h : Resting start link) (id : ℕ) (outcome : Outcome) :
    Resting start (link.finish id outcome) :=
  { h with quiet := h.quiet.add (.finished id outcome) trivial }

lemma Resting.handOver (h : Resting start link) (lock : ℕ) : Resting start (link.handOver lock) := by
  unfold Link.handOver
  split
  · exact h
  · exact { h with }

lemma Resting.closeSocket (h : Resting start link) : Resting start link.closeSocket := by
  rw [closeSocket_of_none h.current]
  exact { h with phase := rfl }

/-- Whoever leaves a scope disconnects the link, whatever its phase was. -/
lemma Resting.leave (h : Resting start link) (phase : Phase) (id : ℕ) (outcome : Outcome) :
    Resting start (Link.leave { link with phase := phase } id outcome) := by
  have hleave : Link.leave { link with phase := phase } id outcome =
      link.finish id outcome := by
    rw [Link.leave]
    split
    · rw [@closeSocket_of_none { link with phase := phase } h.current, ← h.phase]
    · rename_i howned
      rw [h.owned] at howned
      cases howned
  rw [hleave]
  exact h.finish id outcome

lemma Resting.conclude (h : Resting start link) (id : ℕ) (ending : Ending) (outcome : Outcome) :
    Resting start (link.conclude id ending outcome) := by
  unfold Link.conclude
  split
  · exact h.finish id _
  · exact h.leave link.phase id _
  · exact h.leave link.phase id _

/-- A scope that fails in a write gives up the link and then disconnects it. -/
lemma Resting.failWrite (h : Resting start link) (id : ℕ) {ending : Ending}
    (hscope : ending ≠ .plain) (lock : ℕ) (error : SystemError) :
    Resting start (link.failWrite id ending (some lock) error) := by
  have hretire : (link.retire ("write failed: " ++ error.message)).handOver lock =
      { link.handOver lock with phase := .closed } := by
    have hphase : link.phase ≠ .active := by
      rw [h.phase]
      decide
    rw [retire, if_neg hphase, Link.handOver, Link.handOver]
    dsimp only
    split <;> rfl
  have hleave := (h.handOver lock).leave .closed id (.failed (.writeFailed error))
  rw [← hretire] at hleave
  cases ending with
  | plain => exact (hscope rfl).elim
  | scope raises => cases raises <;> exact hleave

lemma Resting.removeCall (h : Resting start link) (id : ℕ) : Resting start (link.removeCall id) :=
  { h with scopes := fun call hmem => h.scopes call (List.mem_of_mem_filter hmem) }

/-- A call that runs while the link is down comes to its end. -/
lemma Resting.perform (h : Resting start link) (id : ℕ) (ending : Ending) (lock : Option ℕ)
    (actions : List Action) : Resting start (Link.perform id ending lock actions link) := by
  have hdown : ∀ {link : Link} {P : Prop}, Resting start link → link.phase = .active → P := by
    intro link P h hactive
    rw [h.phase] at hactive
    cases hactive
  refine perform_induction (P := Resting start) ?_ ?_ ?_ ?_ ?_ ?_ ?_ lock actions link h
  · exact fun link message h => { h with quiet := h.quiet.add _ trivial }
  · exact fun _ lock h => h.handOver lock
  · exact fun _ _ _ h hactive _ _ => hdown h hactive
  · exact fun _ _ _ _ _ h hactive _ _ => hdown h hactive
  · exact fun _ _ _ h hactive _ => hdown h hactive
  · exact fun _ _ h hactive => hdown h hactive
  · exact fun _ outcome h => h.conclude id ending outcome

/-! ### Turns of a link at rest -/

lemma not_attempt_of_resting (h : Resting start link) (hsound : Sound next tidy (standing link))
    {call : Call} (hmem : call ∈ link.calls) : call.socket? = none := by
  cases hsocket : call.socket? with
  | none => rfl
  | some socket =>
    -- the socket of an attempt would be open
    have hopen := hsound.attempt_open socket (Sound.mem_attempts (mem_calls_standing hmem hsocket))
    exact (Bool.false_ne_true ((h.sockets socket).symm.trans hopen)).elim

lemma Resting.resumeCall (h : Resting start link) (id : ℕ) : Resting start (link.resumeCall id) := by
  unfold Link.resumeCall
  split
  · exact h
  · rename_i call hfind
    have hmem := List.mem_of_find?_eq_some hfind
    split
    · exact h
    · exact (h.removeCall id).perform ..
    · rename_i lock socket message hstage
      have hwriting : call.isWriting := by
        rw [Call.isWriting, hstage]
      rw [@tryWrite_of_closed (link.removeCall id) socket (h.sockets socket)]
      exact (h.removeCall id).failWrite id (h.scopes call hmem hwriting) lock _

lemma Resting.crew (h : Resting start link) (hsound : Sound next tidy (standing link))
    (session : ℕ) : link.isReading session = false ∧ link.crew session = 0 :=
  hsound.closed session (h.sockets session)

lemma Resting.turn (h : Resting start link) (hsound : Sound next tidy (standing link))
    {wake : Wake} {rest : List Wake} (hwakes : link.wakes = wake :: rest) :
    Resting start ({ link with wakes := rest }.resume wake) := by
  have hpop : Resting start { link with wakes := rest } := { h with }
  cases hworker : workerOf? wake with
  | some session =>
    -- no worker is left that could run
    have hcrew := (h.crew hsound session).2
    rw [Link.crew, hwakes, List.countP_cons_of_pos (isWorkerOf_iff.mpr hworker)] at hcrew
    omega
  | none =>
    cases wake with
    | call id => exact hpop.resumeCall id
    | leaving id turns outcome =>
      cases turns with
      | zero => exact hpop.closeSocket.finish id outcome
      | succ turns => exact { hpop with }
    | worker session => cases hworker
    | delivery going => cases hworker
    | returned listener going => cases hworker

/-! ### Events of a link at rest -/

/-- Without a reader nobody notices that the device closes the link. -/
lemma readEnd_of_hasReader (h : link.hasReader = false) :
    link.readEnd = { link with
      sessions := link.sessions.map fun session => { session with reading := false } } := by
  have hfold : ∀ (sessions : List Session) (link : Link), sessions.any Session.reading = false →
      sessions.foldl (fun link session =>
        if session.reading then link.retire "closed by device" else link) link = link := by
    intro sessions
    induction sessions with
    | nil => exact fun _ _ => rfl
    | cons session rest ih =>
      intro link hnone
      rw [List.any_cons, Bool.or_eq_false_iff] at hnone
      rw [List.foldl_cons, if_neg (by simp [hnone.1]), ih link hnone.2]
  rw [readEnd, hfold _ _ h]

lemma Resting.readEnd (h : Resting start link) (hreader : link.hasReader = false) :
    Resting start link.readEnd := by
  rw [readEnd_of_hasReader hreader]
  refine { h with sockets := fun session => ?_ }
  have hclosed := h.sockets session
  rw [isOpen] at hclosed ⊢
  simpa [Function.comp_def] using hclosed

lemma Resting.readError (h : Resting start link) (hreader : link.hasReader = false)
    (error : SystemError) : Resting start (link.readError error) := by
  unfold Link.readError
  split
  · exact h
  · rename_i session hfind
    have hnone := List.findIdx?_eq_none_iff.mpr fun session hmem =>
      Bool.eq_false_iff.mpr (List.any_eq_false.mp hreader session hmem)
    rw [hnone] at hfind
    cases hfind

lemma Resting.cancel (h : Resting start link) (hsound : Sound next tidy (standing link)) (id : ℕ) :
    Resting start (link.cancel id) := by
  unfold Link.cancel
  split
  · exact h
  · rename_i call hfind
    have hattempt := not_attempt_of_resting h hsound (List.mem_of_find?_eq_some hfind)
    dsimp only
    split
    · rename_i socket hstage
      rw [Call.socket?, hstage] at hattempt
      cases hattempt
    · exact (h.removeCall id).conclude ..
    · exact ((h.removeCall id).handOver _).conclude ..

lemma Resting.hangUp (h : Resting start link) : Resting start link.hangUp := by
  rw [Link.hangUp, stopTasks_of_none h.owned]
  exact h.closeSocket

lemma Resting.act (h : Resting start link) (hsound : Sound next tidy (standing link)) (id : ℕ)
    {event : Event} (hevent : event.connects = false) : Resting start (link.act id event) := by
  have hreader := hasReader_eq_false fun session => (h.crew hsound session).1
  cases event with
  | connect answer => cases hevent
  | answer answer =>
    have hnone : link.calls.reverse.find? (fun call => call.socket?.isSome) = none := by
      refine List.find?_eq_none.mpr fun call hmem => ?_
      simp [not_attempt_of_resting h hsound (List.mem_reverse.mp hmem)]
    rw [Link.act, answerYoungest, hnone]
    exact h
  | cancel call => exact h.cancel hsound call
  | disconnect => exact h.hangUp.finish id .done
  | scope messages raises answer => cases hevent
  | send messages => exact h.perform ..
  | deviceSends octets =>
    rw [Link.act, Link.read, hreader]
    exact h
  | deviceCloses => exact h.readEnd hreader
  | readFails error => exact h.readError hreader error
  | removeObserver name =>
    rw [Link.act]
    split
    · exact h.finish id _
    · split
      · exact { h with }
      · exact h.finish id _
  | addAgain name =>
    rw [Link.act]
    split
    · exact h
    · exact { h with }
  | nothing => exact h
  | writesFail error after => exact { h with }
  | writesSucceed => exact { h with }
  | holdWrites => exact { h with }
  | releaseWrites => exact { h with }
  | addObserver name manner fails => exact { h with }
  | openGate => exact { h with }
  | closeGate => exact { h with }

/-! ### Runs of a link at rest -/

lemma isOpen_stopTasks : link.stopTasks.isOpen = link.isOpen := by
  cases howned : link.owned with
  | none => rw [stopTasks_of_none howned]
  | some session =>
    rw [stopTasks_of_some howned]
    exact getD_map_modify_of_eq Session.isOpen false fun _ => rfl

lemma current_stopTasks : link.stopTasks.current = link.current := by
  unfold stopTasks
  split <;> rfl

lemma step_disconnect (hwakes : link.wakes = []) :
    link.step .disconnect =
      { link.hangUp.finish link.clock .done with clock := link.clock + 1 } := by
  have hnone : (link.hangUp.finish link.clock .done).wakes = [] := hangUp_wakes hwakes
  rw [step, act, settle, drain_of_nil hnone]

lemma StaysDown.isOpen (h : StaysDown link) (session : ℕ) : link.isOpen session = false := by
  have hnow := h [] .nothing (by simp [Event.connects]) 0
  exact hnow.sockets session

/-- The device has answered at once, and a message is on its way. -/
def answered : List Event := [.connect .accepted, .send [[0xaa]]]

end PixelPanel.Proofs
