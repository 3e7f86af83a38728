import PixelPanel.Proofs.Link.FailedConnect
import PixelPanel.Proofs.Link.Setup

/-!
# What sockets are opened to

Only an attempt to connect opens a socket, and it does so with the address and the channel that were
given when the link was made. The address is read first, and the socket gets what was read in the form in
which the system writes it. An address that cannot be read opens nothing; all others leave it to the system
how the attempt ends.
-/

namespace PixelPanel.Link

/-- The address and the channel to which a socket is opened. -/
def Note.opening? : Note → Option (String × ℤ)
  | .opened address channel => some (address, channel)
  | _ => none

/-- What all sockets so far were opened to, from the first one on. -/
def openings (link : Link) : List (String × ℤ) :=
  link.trace.filterMap Note.opening?

/-- What an attempt to connect opens a socket to, if it comes so far. -/
def opening? (link : Link) (answer : Answer) : Option (String × ℤ) :=
  if (link.phase = .connecting ∨ link.phase = .active) ∨ answer = .unsupported then none
  else (Address.ofText? link.address.toList).map fun octets => (Address.text octets, link.channel)

/-- What an event opens a socket to. -/
def openedBy (link : Link) : Event → Option (String × ℤ)
  | .connect answer => link.opening? answer
  | .scope _ _ answer => link.opening? answer
  | _ => none

end PixelPanel.Link

namespace PixelPanel.Proofs
open Link

variable {link : Link}

lemma openings_note {seen : Note} (h : seen.opening? = none) :
    (link.note seen).openings = link.openings := by
  rw [openings, note, List.filterMap_append, List.filterMap_cons_none h, List.filterMap_nil,
    List.append_nil]
  rfl

lemma openings_append {more : List Note} (h : ∀ seen ∈ more, seen.opening? = none) :
    (link.trace ++ more).filterMap Note.opening? = link.openings := by
  rw [List.filterMap_append, List.filterMap_eq_nil_iff.mpr h, List.append_nil]
  rfl

lemma openings_opened (address : String) (channel : ℤ) :
    (link.note (.opened address channel)).openings = link.openings ++ [(address, channel)] :=
  List.filterMap_append

/-! ### Calls -/

lemma openings_handOver (lock : ℕ) : (link.handOver lock).openings = link.openings := by
  rw [openings, trace_handOver]
  rfl

lemma openings_tryWrite (socket : ℕ) (message : Octets) :
    (link.tryWrite socket message).1.openings = link.openings := by
  rcases tryWrite_cases link socket message with ⟨fault, htry⟩ | ⟨error, htry⟩
  · rw [htry]
    exact openings_note rfl
  · rw [htry]

lemma openings_retire (reason : String) : (link.retire reason).openings = link.openings := by
  rw [openings, trace_retire]
  apply openings_append
  split <;> simp [Note.opening?]

lemma openings_stopTasks : link.stopTasks.openings = link.openings := by
  unfold stopTasks
  split <;> rfl

lemma openings_closeSocket : link.closeSocket.openings = link.openings := by
  unfold closeSocket
  split
  · rfl
  · exact (openings_note rfl).trans (openings_note rfl)

lemma openings_hangUp : link.hangUp.openings = link.openings :=
  openings_closeSocket.trans openings_stopTasks

lemma openings_finish (id : ℕ) (outcome : Outcome) :
    (link.finish id outcome).openings = link.openings :=
  openings_note rfl

lemma openings_leave (id : ℕ) (outcome : Outcome) :
    (link.leave id outcome).openings = link.openings := by
  unfold leave
  split
  · exact (openings_finish ..).trans openings_closeSocket
  · exact openings_stopTasks

lemma openings_conclude (id : ℕ) (ending : Ending) (outcome : Outcome) :
    (link.conclude id ending outcome).openings = link.openings := by
  unfold conclude
  split
  · exact openings_finish ..
  · exact openings_leave ..
  · exact openings_leave ..

lemma openings_perform (id : ℕ) (ending : Ending) (lock : Option ℕ) (actions : List Action)
    (link : Link) : (perform id ending lock actions link).openings = link.openings := by
  refine perform_induction (P := fun next => next.openings = link.openings)
    (Q := fun next => next.openings = link.openings) ?_ ?_ ?_ ?_ ?_ ?_ ?_ lock actions link rfl
  · exact fun _ _ h => (openings_note rfl).trans h
  · exact fun _ lock h => (openings_handOver lock).trans h
  · exact fun _ _ _ h _ _ _ => h
  · exact fun _ _ _ _ _ h _ _ _ => h
  · exact fun _ socket message h _ _ => (openings_tryWrite socket message).trans h
  · exact fun _ reason h _ => (openings_retire reason).trans h
  · exact fun _ outcome h => (openings_conclude id ending outcome).trans h

lemma openings_abandon (id : ℕ) (ending : Ending) (lock : Option ℕ) (error : CallError) :
    (link.abandon id ending lock error).openings = link.openings := by
  cases lock with
  | none => exact openings_conclude ..
  | some lock => exact (openings_conclude ..).trans (openings_handOver lock)

lemma openings_resumeCall (id : ℕ) : (link.resumeCall id).openings = link.openings := by
  unfold resumeCall
  split
  · rfl
  · split
    · rfl
    · exact openings_perform ..
    · rename_i lock socket message _
      have htry := @openings_tryWrite (link.removeCall id) socket message
      split <;> rename_i heq <;> rw [heq] at htry
      · exact (openings_perform ..).trans htry
      · exact ((openings_abandon ..).trans (openings_retire _)).trans htry

lemma openings_failConnect (id : ℕ) (reason : String) :
    (link.failConnect id reason).openings = link.openings :=
  openings_note rfl

lemma openings_dropSocket (socket : ℕ) : (link.dropSocket socket).openings = link.openings :=
  openings_note rfl

lemma openings_answerAttempt (id socket : ℕ) (actions : List Action) (ending : Ending)
    (answer : Answer) :
    (link.answerAttempt id socket actions ending answer).openings = link.openings := by
  cases answer with
  | accepted =>
    exact ((openings_perform ..).trans (openings_note rfl)).trans (openings_note rfl)
  | refused error => exact (openings_failConnect ..).trans (openings_dropSocket socket)
  | unsupported => exact (openings_failConnect ..).trans (openings_dropSocket socket)
  | later => rfl

lemma openings_answerYoungest (answer : Answer) :
    (link.answerYoungest answer).openings = link.openings := by
  unfold answerYoungest
  split
  · rfl
  · split
    · rfl
    · rfl
    · exact openings_answerAttempt ..

lemma openings_cleaned (link : Link) : link.cleaned.openings = link.openings := by
  unfold cleaned
  split
  · exact openings_hangUp
  · rfl

/-- An attempt to connect opens one socket at most. -/
lemma openings_connect (id : ℕ) (actions : List Action) (ending : Ending) (answer : Answer) :
    (link.connect id actions ending answer).openings =
      link.openings ++ (link.opening? answer).toList := by
  by_cases hphase : link.phase = .connecting ∨ link.phase = .active
  · rw [connect, if_pos hphase, opening?, if_pos (.inl hphase), openings_finish]
    exact (List.append_nil _).symm
  have hclean : (if link.owned.isSome ∨ link.current.isSome then link.hangUp else link) =
      link.cleaned := rfl
  have hopenings := openings_cleaned link
  have hsetup := setup_cleaned link
  rw [connect, if_neg hphase, hclean]
  generalize link.cleaned = clean at hopenings hsetup ⊢
  obtain ⟨haddress, hchannel⟩ := Prod.mk.inj (Prod.mk.inj hsetup).1
  rw [opening?, ← haddress, ← hchannel, ← hopenings]
  dsimp only
  split
  · rename_i hnone
    have hread : Address.ofText? clean.address.toList = none := hnone
    rw [openings_failConnect, hread, Option.map_none, ite_self, Option.toList_none, List.append_nil]
    exact openings_note rfl
  · rename_i octets hsome
    have hread : Address.ofText? clean.address.toList = some octets := hsome
    by_cases hanswer : answer = .unsupported
    · rw [if_pos hanswer, if_pos (.inr hanswer), openings_failConnect, Option.toList_none,
        List.append_nil]
      exact (openings_note rfl).trans (openings_note rfl)
    · rw [if_neg hanswer, if_neg (not_or.mpr ⟨hphase, hanswer⟩), openings_answerAttempt, hread,
        openings_opened]
      exact congrArg (· ++ _) ((openings_note rfl).trans (openings_note rfl))

/-! ### Workers and the device -/

lemma opening?_of_fromListeners {seen : Note} (h : FromListeners seen) : seen.opening? = none := by
  cases seen <;> first | rfl | exact h.elim

lemma openings_enqueue (chunk : Octets) : (link.enqueue chunk).openings = link.openings := by
  unfold enqueue
  split
  · rfl
  · split
    · exact openings_note rfl
    · rfl

lemma openings_rouse (session : ℕ) : (link.rouse session).openings = link.openings := by
  unfold rouse
  split <;> rfl

lemma openings_read (octets : Octets) : (link.read octets).openings = link.openings := by
  have hfold : ∀ (pieces : List Octets) (link : Link), (pieces.foldl
      (fun link chunk => (link.log .debug ("Received: " ++ Hex.encode chunk)).enqueue chunk)
      link).openings = link.openings := by
    intro pieces
    induction pieces with
    | nil => exact fun _ => rfl
    | cons piece rest ih =>
      exact fun link => (ih _).trans ((openings_enqueue piece).trans (openings_note rfl))
  unfold Link.read
  split
  · dsimp only
    split
    · exact hfold ..
    · exact (openings_rouse _).trans (hfold ..)
  · rfl

lemma openings_readEnd : link.readEnd.openings = link.openings := by
  have hfold : ∀ (sessions : List Session) (link : Link), (sessions.foldl (fun link session =>
      if session.reading then link.retire "closed by device" else link) link).openings =
        link.openings := by
    intro sessions
    induction sessions with
    | nil => exact fun _ => rfl
    | cons session rest ih =>
      intro link
      rw [List.foldl_cons, ih]
      split
      · exact openings_retire _
      · rfl
  exact hfold ..

lemma openings_readError (error : SystemError) : (link.readError error).openings = link.openings := by
  unfold readError
  split
  · rfl
  · exact openings_retire _

/-! ### Runs -/

lemma openings_cancel (id : ℕ) : (link.cancel id).openings = link.openings := by
  unfold cancel
  split
  · rfl
  · dsimp only
    split
    · exact (openings_finish ..).trans (openings_dropSocket _)
    · exact openings_abandon ..
    · exact openings_abandon ..

lemma openings_act (id : ℕ) (event : Event) :
    (link.act id event).openings = link.openings ++ (link.openedBy event).toList := by
  have hnone : link.openings = link.openings ++ (none : Option (String × ℤ)).toList :=
    (List.append_nil _).symm
  cases event with
  | connect answer => exact openings_connect ..
  | scope messages raises answer => exact openings_connect ..
  | answer answer => exact (openings_answerYoungest answer).trans hnone
  | cancel call => exact (openings_cancel call).trans hnone
  | disconnect => exact ((openings_finish ..).trans openings_hangUp).trans hnone
  | send messages => exact (openings_perform ..).trans hnone
  | deviceSends octets => exact (openings_read octets).trans hnone
  | deviceCloses => exact openings_readEnd.trans hnone
  | readFails error => exact (openings_readError error).trans hnone
  | addAgain name =>
    rw [act]
    split <;> exact hnone
  | removeObserver name =>
    rw [act]
    split
    · exact (openings_finish ..).trans hnone
    · split
      · exact hnone
      · exact (openings_finish ..).trans hnone
  | _ => exact hnone

lemma openings_resume (wake : Wake) : (link.resume wake).openings = link.openings := by
  cases hworker : workerOf? wake with
  | some session =>
    obtain ⟨inbox, notes, idle, wakes, blocked, change, hnotes, -, -, hworks⟩ :=
      @resume_works link wake _ hworker
    rw [hworks]
    exact openings_append fun seen hmem => opening?_of_fromListeners (hnotes seen hmem)
  | none =>
    cases wake with
    | call id => exact openings_resumeCall id
    | leaving id turns outcome =>
      cases turns with
      | zero => exact (openings_finish ..).trans openings_closeSocket
      | succ turns => rfl
    | worker session => cases hworker
    | delivery going => cases hworker
    | returned listener going => cases hworker

lemma openings_step (event : Event) :
    (link.step event).openings = link.openings ++ (link.openedBy event).toList := by
  have hdrained := drain_induction
    (P := fun next => next.openings = (link.act link.clock event).openings)
    (fun _ wake _ h _ => (openings_resume wake).trans h) (link.act link.clock event).load
    (link.act link.clock event) rfl
  exact hdrained.trans (openings_act ..)

/-- A socket is opened to what the address of the link is read as, and to its channel. -/
def OpensAs (link : Link) (opening : String × ℤ) : Prop :=
  ∃ octets, Address.ofText? link.address.toList = some octets ∧
    opening = (Address.text octets, link.channel)

lemma opensAs_of_opening? {opening : String × ℤ} {answer : Answer}
    (h : link.opening? answer = some opening) : OpensAs link opening := by
  rw [opening?] at h
  split at h
  · cases h
  · obtain ⟨octets, hoctets, rfl⟩ := Option.map_eq_some_iff.mp h
    exact ⟨octets, hoctets, rfl⟩

lemma opensAs_of_openedBy {opening : String × ℤ} {event : Event}
    (h : link.openedBy event = some opening) : OpensAs link opening := by
  cases event with
  | connect answer => exact opensAs_of_opening? h
  | scope messages raises answer => exact opensAs_of_opening? h
  | _ => cases h

lemma openings_run (events : List Event) : ∃ more,
    (link.run events).openings = link.openings ++ more ∧ ∀ opening ∈ more, OpensAs link opening := by
  induction events generalizing link with
  | nil => exact ⟨[], (List.append_nil _).symm, List.forall_mem_nil _⟩
  | cons event later ih =>
    obtain ⟨more, hmore, hall⟩ := @ih (link.step event)
    obtain ⟨haddress, hchannel⟩ := Prod.mk.inj (Prod.mk.inj (@setup_step link event)).1
    refine ⟨(link.openedBy event).toList ++ more, ?_, List.forall_mem_append.mpr ⟨?_, ?_⟩⟩
    · rw [← List.append_assoc, ← openings_step]
      exact hmore
    · exact fun opening hmem => opensAs_of_openedBy (Option.mem_toList.mp hmem)
    · intro opening hmem
      obtain ⟨octets, hoctets, rfl⟩ := hall opening hmem
      rw [haddress] at hoctets
      exact ⟨octets, hoctets, by rw [hchannel]⟩

/-- Whatever happens, every socket is opened to the address and the channel of the link. -/
lemma opensAs_of_seen {events : List Event} {address : String} {channel : ℤ}
    (h : .opened address channel ∈ seenSince link (link.run events)) :
    OpensAs link (address, channel) := by
  obtain ⟨more, hmore, hall⟩ := @openings_run { link with trace := [] } events
  have hrun : link.run events = ({ link with trace := [] }.run events).after link.trace := by
    rw [← after_run, after, List.append_nil]
  rw [hrun, seenSince_eq rfl] at h
  have hmem : (address, channel) ∈ ({ link with trace := [] }.run events).openings :=
    List.mem_filterMap.mpr ⟨_, h, rfl⟩
  rw [hmore] at hmem
  exact hall _ hmem

/-! ### How an attempt ends -/

variable {answer : Answer} {verdict : Verdict}

end PixelPanel.Proofs
