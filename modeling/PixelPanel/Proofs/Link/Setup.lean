import PixelPanel.Proofs.Link.Beginning

/-!
# What never changes

Which device a link belongs to, how many chunks may wait for a worker and how many workers a session has
is fixed when the link is made.
-/

namespace PixelPanel.Link

/-- What was fixed when the link was made. -/
def setup (link : Link) : (String × ℤ) × ℤ × ℕ :=
  ((link.address, link.channel), link.capacity, link.workers)

end PixelPanel.Link

namespace PixelPanel.Proofs
open Link

variable {link : Link}

/-! ### Calls -/

lemma setup_handOver (lock : ℕ) : (link.handOver lock).setup = link.setup := by
  unfold handOver
  split <;> rfl

lemma setup_tryWrite (socket : ℕ) (message : Octets) :
    (link.tryWrite socket message).1.setup = link.setup := by
  unfold tryWrite
  split
  · rfl
  · split <;> rfl

lemma setup_retire (reason : String) : (link.retire reason).setup = link.setup := by
  unfold retire
  split <;> rfl

lemma setup_stopTasks : link.stopTasks.setup = link.setup := by
  unfold stopTasks
  split <;> rfl

lemma setup_closeSocket : link.closeSocket.setup = link.setup := by
  unfold closeSocket
  split <;> rfl

lemma setup_hangUp : link.hangUp.setup = link.setup :=
  setup_closeSocket.trans setup_stopTasks

lemma setup_cleaned (link : Link) : link.cleaned.setup = link.setup := by
  unfold cleaned
  split
  · exact setup_hangUp
  · rfl

lemma setup_leave (id : ℕ) (outcome : Outcome) : (link.leave id outcome).setup = link.setup := by
  unfold leave
  split
  · exact setup_closeSocket
  · exact setup_stopTasks

lemma setup_conclude (id : ℕ) (ending : Ending) (outcome : Outcome) :
    (link.conclude id ending outcome).setup = link.setup := by
  unfold conclude
  split
  · rfl
  · exact setup_leave ..
  · exact setup_leave ..

lemma setup_perform (id : ℕ) (ending : Ending) (lock : Option ℕ) (actions : List Action)
    (link : Link) : (perform id ending lock actions link).setup = link.setup := by
  refine perform_induction (P := fun next => next.setup = link.setup)
    (Q := fun next => next.setup = link.setup) ?_ ?_ ?_ ?_ ?_ ?_ ?_ lock actions link rfl
  · exact fun _ _ h => h
  · exact fun _ lock h => (setup_handOver lock).trans h
  · exact fun _ _ _ h _ _ _ => h
  · exact fun _ _ _ _ _ h _ _ _ => h
  · exact fun _ socket message h _ _ => (setup_tryWrite socket message).trans h
  · exact fun _ reason h _ => (setup_retire reason).trans h
  · exact fun _ outcome h => (setup_conclude id ending outcome).trans h

lemma setup_abandon (id : ℕ) (ending : Ending) (lock : Option ℕ) (error : CallError) :
    (link.abandon id ending lock error).setup = link.setup := by
  cases lock with
  | none => exact setup_conclude ..
  | some lock => exact (setup_conclude ..).trans (setup_handOver lock)

lemma setup_resumeCall (id : ℕ) : (link.resumeCall id).setup = link.setup := by
  unfold resumeCall
  split
  · rfl
  · split
    · rfl
    · exact setup_perform ..
    · rename_i lock socket message _
      have htry := @setup_tryWrite (link.removeCall id) socket message
      split <;> rename_i heq <;> rw [heq] at htry
      · exact (setup_perform ..).trans htry
      · exact ((setup_abandon ..).trans (setup_retire _)).trans htry

lemma setup_answerAttempt (id socket : ℕ) (actions : List Action) (ending : Ending)
    (answer : Answer) :
    (link.answerAttempt id socket actions ending answer).setup = link.setup := by
  cases answer with
  | accepted => exact setup_perform ..
  | refused error => rfl
  | unsupported => rfl
  | later => rfl

lemma setup_answerYoungest (answer : Answer) : (link.answerYoungest answer).setup = link.setup := by
  unfold answerYoungest
  split
  · rfl
  · split
    · rfl
    · rfl
    · exact setup_answerAttempt ..

lemma setup_connect (id : ℕ) (actions : List Action) (ending : Ending) (answer : Answer) :
    (link.connect id actions ending answer).setup = link.setup := by
  unfold connect
  split
  · rfl
  · have hclean : (if link.owned.isSome ∨ link.current.isSome then link.hangUp else link).setup =
        link.setup := setup_cleaned link
    rw [← hclean]
    generalize (if link.owned.isSome ∨ link.current.isSome then link.hangUp else link) = clean
    dsimp only
    split
    · rfl
    · split
      · rfl
      · exact setup_answerAttempt ..

lemma setup_cancel (id : ℕ) : (link.cancel id).setup = link.setup := by
  unfold cancel
  split
  · rfl
  · dsimp only
    split
    · rfl
    · exact setup_abandon ..
    · exact setup_abandon ..

/-! ### The device -/

lemma setup_enqueue (chunk : Octets) : (link.enqueue chunk).setup = link.setup := by
  unfold enqueue
  split
  · rfl
  · split <;> rfl

lemma setup_rouse (session : ℕ) : (link.rouse session).setup = link.setup := by
  unfold rouse
  split <;> rfl

lemma setup_read (octets : Octets) : (link.read octets).setup = link.setup := by
  have hfold : ∀ (pieces : List Octets) (link : Link), (pieces.foldl
      (fun link chunk => (link.log .debug ("Received: " ++ Hex.encode chunk)).enqueue chunk)
      link).setup = link.setup := by
    intro pieces
    induction pieces with
    | nil => exact fun _ => rfl
    | cons piece rest ih => exact fun link => (ih _).trans (setup_enqueue piece)
  unfold Link.read
  split
  · dsimp only
    split
    · exact hfold ..
    · exact (setup_rouse _).trans (hfold ..)
  · rfl

lemma setup_readEnd : link.readEnd.setup = link.setup := by
  have hfold : ∀ (sessions : List Session) (link : Link), (sessions.foldl (fun link session =>
      if session.reading then link.retire "closed by device" else link) link).setup = link.setup := by
    intro sessions
    induction sessions with
    | nil => exact fun _ => rfl
    | cons session rest ih =>
      intro link
      rw [List.foldl_cons, ih]
      split
      · exact setup_retire _
      · rfl
  exact hfold ..

lemma setup_readError (error : SystemError) : (link.readError error).setup = link.setup := by
  unfold readError
  split
  · rfl
  · exact setup_retire _

/-! ### Runs -/

lemma setup_act (id : ℕ) (event : Event) : (link.act id event).setup = link.setup := by
  cases event with
  | connect answer => exact setup_connect ..
  | answer answer => exact setup_answerYoungest answer
  | cancel call => exact setup_cancel call
  | disconnect => exact setup_hangUp
  | scope messages raises answer => exact setup_connect ..
  | send messages => exact setup_perform ..
  | deviceSends octets => exact setup_read octets
  | deviceCloses => exact setup_readEnd
  | readFails error => exact setup_readError error
  | addAgain name =>
    rw [act]
    split <;> rfl
  | removeObserver name =>
    rw [act]
    split
    · rfl
    · split <;> rfl
  | _ => rfl

lemma setup_resume (wake : Wake) : (link.resume wake).setup = link.setup := by
  cases hworker : workerOf? wake with
  | some session =>
    obtain ⟨inbox, notes, idle, wakes, blocked, change, -, -, -, hworks⟩ :=
      @resume_works link wake _ hworker
    rw [hworks]
    rfl
  | none =>
    cases wake with
    | call id => exact setup_resumeCall id
    | leaving id turns outcome =>
      cases turns with
      | zero => exact setup_closeSocket
      | succ turns => rfl
    | worker session => cases hworker
    | delivery going => cases hworker
    | returned listener going => cases hworker

lemma setup_step (event : Event) : (link.step event).setup = link.setup := by
  have hdrained := drain_induction (P := fun next => next.setup = (link.act link.clock event).setup)
    (fun _ wake _ h _ => (setup_resume wake).trans h) (link.act link.clock event).load
    (link.act link.clock event) rfl
  exact hdrained.trans (setup_act ..)

end PixelPanel.Proofs
