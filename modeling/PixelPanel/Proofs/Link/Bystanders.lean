import PixelPanel.Proofs.Link.Dispatch
import PixelPanel.Proofs.Link.WriteLedger

/-!
# What leaves the chunks of a session alone

Calls that go on or end, writes that fail and the end of the session have nothing to do with the chunks
that the session has read: they touch neither the queue nor the listeners. What workers are busy with
stays as it is, unless the tasks of the session are stopped altogether.
-/

namespace PixelPanel.Link

/-- Whether a note is taken by those who get the chunks. -/
def Note.byListeners : Note → Bool
  | .heard .. | .told .. => true
  | .log entry => entry.origin != .link
  | _ => false

end PixelPanel.Link

namespace PixelPanel.Proofs
open Link

/-- The reader and the workers of a session are where they were. -/
structure SameTasks (session : ℕ) (link link' : Link) : Prop where
  owned : link'.owned = link.owned
  blocked : link'.blocked = link.blocked
  gate : link'.gateOpen → link.gateOpen
  turns : link'.workerTurns = link.workerTurns
  idle : link'.idle session = link.idle session
  reading : link'.isReading session = link.isReading session

/-- No worker gets a turn, and no note is taken by those who get the chunks. -/
structure Quiet (link link' : Link) : Prop where
  trace : ∃ more, link'.trace = link.trace ++ more ∧ ∀ seen ∈ more, seen.byListeners = false
  turns : link'.workerTurns.Sublist link.workerTurns

/-- Nothing happens to the chunks of a session, but its tasks may be stopped. No attempt to connect
begins to wait. -/
structure Spares (session : ℕ) (link link' : Link) : Prop extends Quiet link link' where
  queue : link'.queueOf session = link.queueOf session
  dropped : link'.dropped = link.dropped
  capacity : link'.capacity = link.capacity
  inbox : link'.inbox = link.inbox
  attempts : ∀ call ∈ link'.calls, call ∈ link.calls ∨ call.socket? = none
  current : ∀ other, link'.current = some other → link.current = some other
  tasks : link'.owned = none ∨ SameTasks session link link'

variable {session id lock : ℕ} {link link' link'' : Link}

/-! ### Steps of a call -/

lemma SameTasks.refl (session : ℕ) (link : Link) : SameTasks session link link :=
  ⟨rfl, rfl, fun h => h, rfl, rfl, rfl⟩

lemma SameTasks.trans (h : SameTasks session link link') (h' : SameTasks session link' link'') :
    SameTasks session link link'' where
  owned := h'.owned.trans h.owned
  blocked := h'.blocked.trans h.blocked
  gate hopen := h.gate (h'.gate hopen)
  turns := h'.turns.trans h.turns
  idle := h'.idle.trans h.idle
  reading := h'.reading.trans h.reading

lemma Quiet.refl (link : Link) : Quiet link link :=
  ⟨⟨[], (List.append_nil _).symm, List.forall_mem_nil _⟩, List.Sublist.refl _⟩

lemma Quiet.trans (h : Quiet link link') (h' : Quiet link' link'') : Quiet link link'' where
  trace := by
    obtain ⟨more, htrace, hquiet⟩ := h.trace
    obtain ⟨later, htrace', hquiet'⟩ := h'.trace
    exact ⟨more ++ later, by rw [htrace', htrace, List.append_assoc],
      List.forall_mem_append.mpr ⟨hquiet, hquiet'⟩⟩
  turns := h'.turns.trans h.turns

/-- No observer takes note. -/
lemma Quiet.exists_trace (h : Quiet link link') :
    ∃ more, link'.trace = link.trace ++ more ∧ more.filterMap Note.heard? = [] := by
  obtain ⟨more, htrace, hquiet⟩ := h.trace
  refine ⟨more, htrace, List.filterMap_eq_nil_iff.mpr fun seen hmem => ?_⟩
  have hseen := hquiet seen hmem
  cases seen <;> first | rfl | cases hseen

lemma Spares.refl (session : ℕ) (link : Link) : Spares session link link :=
  ⟨Quiet.refl link, rfl, rfl, rfl, rfl, fun _ => .inl, fun _ => id, .inr (.refl session link)⟩

lemma Spares.trans (h : Spares session link link') (h' : Spares session link' link'') :
    Spares session link link'' where
  __ := h.toQuiet.trans h'.toQuiet
  queue := h'.queue.trans h.queue
  dropped := h'.dropped.trans h.dropped
  capacity := h'.capacity.trans h.capacity
  inbox := h'.inbox.trans h.inbox
  attempts call hmem := (h'.attempts call hmem).elim (h.attempts call) .inr
  current other hcurrent := h.current other (h'.current other hcurrent)
  tasks := by
    rcases h'.tasks with hnone | hsame'
    · exact .inl hnone
    · rcases h.tasks with hnone | hsame
      · exact .inl (hsame'.owned.trans hnone)
      · exact .inr (hsame.trans hsame')

lemma spares_note {seen : Note} (h : seen.byListeners = false) :
    Spares session link (link.note seen) where
  __ := Spares.refl session link
  trace := ⟨[seen], rfl, List.forall_mem_singleton.mpr h⟩
  tasks := .inr { SameTasks.refl session link with }

lemma spares_wake {wakes : List Wake} (h : ∀ wake ∈ wakes, workerOf? wake = none) :
    Spares session link (link.wake wakes) := by
  have hquiet : (wakes.filter fun wake => (workerOf? wake).isSome) = [] :=
    List.filter_eq_nil_iff.mpr fun wake hmem => by rw [h wake hmem]; exact Bool.false_ne_true
  have hturns : (link.wake wakes).workerTurns = link.workerTurns := by
    rw [workerTurns_wake, hquiet, List.append_nil]
  exact { Spares.refl session link with
    tasks := .inr { SameTasks.refl session link with turns := hturns }
    turns := hturns ▸ List.Sublist.refl _ }

lemma spares_handOver (lock : ℕ) : Spares session link (link.handOver lock) := by
  unfold handOver
  split
  · exact Spares.refl session link
  · exact spares_wake (List.forall_mem_singleton.mpr rfl)

lemma spares_suspend {call : Call} (h : call.socket? = none) :
    Spares session link (link.suspend call) where
  __ := Spares.refl session link
  attempts := forall_mem_concat (fun _ => .inl) (.inr h)
  tasks := .inr { SameTasks.refl session link with }

lemma spares_removeCall (id : ℕ) : Spares session link (link.removeCall id) where
  __ := Spares.refl session link
  attempts _ hmem := .inl (List.mem_of_mem_filter hmem)
  tasks := .inr { SameTasks.refl session link with }

lemma spares_tryWrite (socket : ℕ) (message : Octets) :
    Spares session link (link.tryWrite socket message).1 := by
  rcases tryWrite_cases link socket message with ⟨fault, htry⟩ | ⟨error, htry⟩
  · rw [htry]
    have hfault : Spares session link { link with writeFault := fault } :=
      { Spares.refl session link with tasks := .inr { SameTasks.refl session link with } }
    exact hfault.trans (spares_note rfl)
  · rw [htry]
    exact Spares.refl session link

lemma spares_retire (reason : String) : Spares session link (link.retire reason) := by
  have hclose : ∀ link : Link, Spares session link { link with phase := .closed } := fun link =>
    { Spares.refl session link with tasks := .inr { SameTasks.refl session link with } }
  unfold retire
  dsimp only
  split
  · exact (spares_note rfl).trans (hclose _)
  · exact hclose link

/-! ### The end of a session -/

/-- A session that has changed but for its queue, its idle workers and its reader. -/
lemma spares_modifySession {change : Session → Session}
    (hqueue : ∀ found, (change found).queue = found.queue)
    (hidle : ∀ found, (change found).idle = found.idle)
    (hreading : ∀ found, (change found).reading = found.reading) (other : ℕ) :
    Spares session link (link.modifySession other change) where
  __ := Spares.refl session link
  queue := queueOf_modifySession_of_eq hqueue ..
  tasks := .inr { SameTasks.refl session link with
    idle := idle_modifySession_of_eq hidle ..
    reading := congrFun (getD_map_modify_of_eq Session.reading false hreading) session }

lemma spares_stopTasks : Spares session link link.stopTasks := by
  cases howned : link.owned with
  | none =>
    rw [stopTasks_of_none howned]
    exact Spares.refl session link
  | some other =>
    rw [stopTasks_of_some howned]
    refine { Spares.refl session link with
      queue := ?_, tasks := .inl rfl, turns := List.filter_sublist.filter _ }
    refine queueOf_modifySession_of_eq ?_ other session
    exact fun _ => rfl

lemma spares_closeSocket : Spares session link link.closeSocket := by
  cases hcurrent : link.current with
  | none =>
    rw [closeSocket_of_none hcurrent]
    exact { Spares.refl session link with tasks := .inr { SameTasks.refl session link with } }
  | some other =>
    have hclosed : Spares session link (((link.log .debug
        s!"Closing socket to {link.address}").modifySession other fun found =>
          { found with isOpen := false }).note (.closed other)) := by
      refine ((spares_note rfl).trans (spares_modifySession ?_ ?_ ?_ other)).trans (spares_note rfl)
      all_goals exact fun _ => rfl
    rw [closeSocket_of_some hcurrent]
    refine hclosed.trans { Spares.refl session _ with
      current := fun _ hnone => by cases hnone
      tasks := .inr { SameTasks.refl session _ with } }

lemma spares_hangUp : Spares session link link.hangUp :=
  spares_stopTasks.trans spares_closeSocket

lemma spares_leave (id : ℕ) (outcome : Outcome) : Spares session link (link.leave id outcome) := by
  unfold leave
  split
  · exact spares_closeSocket.trans (spares_note rfl)
  · exact spares_stopTasks.trans (spares_wake (List.forall_mem_singleton.mpr rfl))

lemma spares_conclude (id : ℕ) (ending : Ending) (outcome : Outcome) :
    Spares session link (link.conclude id ending outcome) := by
  unfold conclude
  split
  · exact spares_note rfl
  · exact spares_leave ..
  · exact spares_leave ..

/-! ### Calls -/

lemma spares_perform (id : ℕ) (ending : Ending) (lock : Option ℕ) (actions : List Action) (link : Link) :
    Spares session link (perform id ending lock actions link) := by
  refine perform_induction (P := Spares session link) (Q := Spares session link) ?_ ?_ ?_ ?_ ?_ ?_ ?_
    lock actions link (Spares.refl session link)
  · exact fun _ _ h => h.trans (spares_note rfl)
  · exact fun _ lock h => h.trans (spares_handOver lock)
  · exact fun _ _ _ h _ _ _ => h.trans (spares_suspend rfl)
  · exact fun _ _ _ _ _ h _ _ _ => h.trans (spares_suspend rfl)
  · exact fun _ socket message h _ _ => h.trans (spares_tryWrite socket message)
  · exact fun _ reason h _ => h.trans (spares_retire reason)
  · exact fun _ outcome h => h.trans (spares_conclude id ending outcome)

lemma spares_abandon (id : ℕ) (ending : Ending) (lock : Option ℕ) (error : CallError) :
    Spares session link (link.abandon id ending lock error) := by
  cases lock with
  | none => exact spares_conclude ..
  | some lock => exact (spares_handOver lock).trans (spares_conclude ..)

lemma spares_resumeCall (id : ℕ) : Spares session link (link.resumeCall id) := by
  unfold resumeCall
  split
  · exact Spares.refl session link
  · split
    · exact Spares.refl session link
    · exact (spares_removeCall id).trans (spares_perform ..)
    · rename_i lock socket message _
      have htry := @spares_tryWrite session (link.removeCall id) socket message
      split <;> rename_i heq <;> rw [heq] at htry
      · exact ((spares_removeCall id).trans htry).trans (spares_perform ..)
      · exact ((spares_removeCall id).trans htry).trans ((spares_retire _).trans (spares_abandon ..))

lemma spares_cancel (id : ℕ) : Spares session link (link.cancel id) := by
  unfold cancel
  split
  · exact Spares.refl session link
  · dsimp only
    refine (spares_removeCall id).trans ?_
    split
    · rename_i socket _
      have hdropped : Spares session (link.removeCall id) ((link.removeCall id).dropSocket socket) := by
        refine (spares_modifySession ?_ ?_ ?_ socket).trans (spares_note rfl)
        all_goals exact fun _ => rfl
      refine (hdropped.trans ?_).trans (spares_note rfl)
      exact { Spares.refl session _ with tasks := .inr { SameTasks.refl session _ with } }
    · exact spares_abandon ..
    · exact spares_abandon ..

/-- A turn that is not that of a worker. -/
lemma spares_turn {wake : Wake} {rest : List Wake} (hwakes : link.wakes = wake :: rest)
    (hwake : workerOf? wake = none) : Spares session link ({ link with wakes := rest }.resume wake) := by
  have hturns : workerTurns { link with wakes := rest } = link.workerTurns := by
    rw [workerTurns, workerTurns, hwakes,
      List.filter_cons_of_neg (by rw [hwake]; exact Bool.false_ne_true)]
  have hpop : Spares session link { link with wakes := rest } :=
    { Spares.refl session link with
      tasks := .inr { SameTasks.refl session link with turns := hturns }
      turns := hturns ▸ List.Sublist.refl _ }
  cases wake with
  | call id => exact hpop.trans (spares_resumeCall id)
  | leaving id turns outcome =>
    cases turns with
    | zero => exact hpop.trans (spares_closeSocket.trans (spares_note rfl))
    | succ turns => exact hpop.trans (spares_wake (List.forall_mem_singleton.mpr rfl))
  | worker owner => cases hwake
  | delivery going => cases hwake
  | returned listener going => cases hwake

end PixelPanel.Proofs
