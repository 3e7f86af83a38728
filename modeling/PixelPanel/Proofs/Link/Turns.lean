import Mathlib.Tactic.Lemma
import Mathlib.Data.Nat.Notation
import Mathlib.Algebra.GroupWithZero.Nat
import Mathlib.Algebra.Order.BigOperators.Group.List
import PixelPanel.Proofs.Link.Listeners

/-!
# Everything runs to its end

After an event whatever can run again takes its turn. Every turn uses up some of the load of the
link, so the turns that the load allows for are enough: when they are over, nothing can run without
another event.
-/

namespace PixelPanel.Proofs
open Link

variable {link link' : Link}

/-! ### The load and what changes it -/

lemma load_eq (link : Link) :
    link.load = (link.wakes.map Wake.load).sum +
      (link.calls.map fun call => call.actions.length + 5).sum +
      ((link.sessions.map Session.queue).map fun queue =>
        queue.length * (link.listeners.length + 1)).sum := by
  simp only [load, List.sum_eq_foldr, List.foldr_map]

lemma load_congr (hwakes : link'.wakes = link.wakes) (hcalls : link'.calls = link.calls)
    (hqueues : link'.sessions.map Session.queue = link.sessions.map Session.queue)
    (hlisteners : link'.listeners = link.listeners) : link'.load = link.load := by
  rw [load_eq, load_eq, hwakes, hcalls, hqueues, hlisteners]

lemma map_modify_of_eq {α β : Type} (f : α → β) (g : α → α) (h : ∀ a, f (g a) = f a) (l : List α)
    (i : ℕ) : (l.modify i g).map f = l.map f := by
  induction l generalizing i with
  | nil => rw [List.modify_nil]
  | cons a l ih =>
    cases i with
    | zero => rw [List.modify_zero_cons, List.map_cons, List.map_cons, h]
    | succ i => rw [List.modify_succ_cons, List.map_cons, List.map_cons, ih]

lemma load_modifySession (session : ℕ) (change : Session → Session)
    (h : ∀ found, (change found).queue = found.queue) :
    (link.modifySession session change).load = link.load :=
  load_congr rfl rfl (map_modify_of_eq _ _ h _ _) rfl

@[simp] lemma load_log (level : Level) (message : String) :
    (link.log level message).load = link.load := rfl

@[simp] lemma load_finish (call : ℕ) (outcome : Outcome) :
    (link.finish call outcome).load = link.load := rfl

@[simp] lemma load_wake (wakes : List Wake) :
    (link.wake wakes).load = link.load + (wakes.map Wake.load).sum := by
  simp only [load_eq, wake, List.map_append, List.sum_append]
  omega

@[simp] lemma load_suspend (call : Call) :
    (link.suspend call).load = link.load + (call.actions.length + 5) := by
  simp only [load_eq, suspend, List.map_append, List.sum_append, List.map_singleton,
    List.sum_singleton]
  omega

@[simp] lemma load_retire (reason : String) : (link.retire reason).load = link.load := by
  unfold retire
  split <;> rfl

@[simp] lemma load_tryWrite (socket : ℕ) (message : Octets) :
    (link.tryWrite socket message).1.load = link.load := by
  unfold tryWrite
  split
  · rfl
  · split <;> rfl

lemma load_handOver_le (lock : ℕ) : (link.handOver lock).load ≤ link.load + 1 := by
  unfold handOver
  split
  · omega
  · rw [load_wake]
    simp [Wake.load]

lemma sum_map_filter_le {α : Type} (f : α → ℕ) (p : α → Bool) (l : List α) :
    ((l.filter p).map f).sum ≤ (l.map f).sum := by
  induction l with
  | nil => simp
  | cons a l ih =>
    by_cases h : p a
    · simp only [List.filter_cons_of_pos h, List.map_cons, List.sum_cons]
      omega
    · simp only [List.filter_cons_of_neg h, List.map_cons, List.sum_cons]
      omega

/-- The call that is found by its number. -/
lemma mem_of_find?_id {id : ℕ} {call : Call}
    (h : link.calls.find? (fun call => call.id == id) = some call) :
    call ∈ link.calls ∧ call.id = id :=
  ⟨List.mem_of_find?_eq_some h, by simpa using List.find?_some h⟩

/-- A call that no longer waits takes its part of the load with it. -/
lemma load_removeCall_add_le {call : Call} (hmem : call ∈ link.calls) :
    (link.removeCall call.id).load + (call.actions.length + 5) ≤ link.load := by
  have hsum : ∀ calls : List Call, call ∈ calls →
      ((calls.filter fun other => other.id != call.id).map fun c => c.actions.length + 5).sum +
        (call.actions.length + 5) ≤ (calls.map fun c => c.actions.length + 5).sum := by
    intro calls hmem
    induction calls with
    | nil => cases hmem
    | cons first rest ih =>
      have hle := sum_map_filter_le (fun c : Call => c.actions.length + 5)
        (fun other => other.id != call.id) rest
      rcases List.mem_cons.mp hmem with rfl | hrest
      · simp only [bne_self_eq_false, Bool.false_eq_true, not_false_eq_true,
          List.filter_cons_of_neg, List.map_cons, List.sum_cons]
        omega
      · have hih := ih hrest
        rw [List.filter_cons]
        split <;> simp only [List.map_cons, List.sum_cons] <;> omega
  have hcalls := hsum link.calls hmem
  simp only [load_eq, removeCall]
  omega

lemma load_stopTasks_le : link.stopTasks.load ≤ link.load := by
  unfold stopTasks
  split
  · exact le_rfl
  · rename_i session _
    have hle := sum_map_filter_le Wake.load (fun wake => !wake.isWorkerOf session) link.wakes
    have hqueues := map_modify_of_eq Session.queue
      (fun found => { found with reading := false, idle := 0 }) (fun _ => rfl) link.sessions session
    simp only [load_eq, modifySession, hqueues]
    omega

@[simp] lemma load_closeSocket : link.closeSocket.load = link.load := by
  unfold closeSocket
  split
  · rfl
  · exact @load_modifySession (link.log _ _) _ _ fun _ => rfl

lemma load_leave_le (id : ℕ) (outcome : Outcome) :
    (link.leave id outcome).load ≤ link.load + 3 := by
  unfold leave
  split
  · rw [load_finish, load_closeSocket]
    omega
  · have hle := @load_stopTasks_le link
    rw [load_wake]
    simp only [List.map_singleton, Wake.load, stoppingTurns, List.sum_singleton]
    omega

lemma load_conclude_le (id : ℕ) (ending : Ending) (outcome : Outcome) :
    (link.conclude id ending outcome).load ≤ link.load + 3 := by
  unfold conclude
  split
  · rw [load_finish]
    omega
  · exact load_leave_le ..
  · exact load_leave_le ..

lemma load_abandon_le (id : ℕ) (ending : Ending) (lock : Option ℕ) (error : CallError) :
    (link.abandon id ending lock error).load ≤ link.load + 4 := by
  cases lock with
  | none =>
    have hle := @load_conclude_le link id ending (.failed error)
    exact hle.trans (by omega)
  | some lock =>
    have hle := @load_handOver_le link lock
    exact (@load_conclude_le (link.handOver lock) id ending (.failed error)).trans (by omega)

lemma load_failWrite_le (id : ℕ) (ending : Ending) (lock : Option ℕ) (error : SystemError) :
    (link.failWrite id ending lock error).load ≤ link.load + 4 := by
  unfold failWrite
  exact (load_abandon_le ..).trans (by rw [load_retire])

/-- What a call can add is no more than it would if it waited with all its actions. -/
lemma load_perform_le (id : ℕ) (ending : Ending) (lock : Option ℕ) (actions : List Action)
    (link : Link) : (perform id ending lock actions link).load ≤ link.load + (actions.length + 5) := by
  induction actions generalizing lock link with
  | nil =>
    rw [perform]
    exact (load_conclude_le ..).trans (by omega)
  | cons action rest ih =>
    rw [List.length_cons]
    cases action with
    | acquire =>
      rw [perform]
      split
      · split
        · rw [load_suspend]
          dsimp only
          omega
        · exact (ih ..).trans (by omega)
      · exact (load_abandon_le ..).trans (by omega)
    | write message =>
      rw [perform]
      split
      · rename_i socket _ _
        dsimp only
        split
        · rw [load_suspend, load_log]
          dsimp only
          omega
        · have htry := @load_tryWrite
            (link.log .debug ("Sending: " ++ Hex.encode message)) socket message
          rw [load_log] at htry
          split <;> rename_i heq <;> rw [heq] at htry <;> dsimp only at htry
          · exact (ih ..).trans (by omega)
          · exact (load_failWrite_le ..).trans (by omega)
      · exact (load_abandon_le ..).trans (by omega)
    | release =>
      cases lock with
      | none =>
        rw [perform]
        exact (ih ..).trans (by omega)
      | some lock =>
        rw [perform]
        have hle := @load_handOver_le link lock
        exact (ih ..).trans (by omega)

/-! ### Turns of calls and workers -/

lemma load_resumeCall_le (id : ℕ) : (link.resumeCall id).load ≤ link.load := by
  unfold resumeCall
  split
  · exact le_rfl
  · rename_i call hfind
    obtain ⟨hmem, rfl⟩ := mem_of_find?_id hfind
    have hle := load_removeCall_add_le hmem
    split
    · exact le_rfl
    · exact (load_perform_le ..).trans hle
    · rename_i lock socket message _
      have htry := @load_tryWrite (link.removeCall call.id) socket message
      split <;> rename_i heq <;> rw [heq] at htry <;> dsimp only at htry
      · exact (load_perform_le ..).trans (by omega)
      · exact (load_failWrite_le ..).trans (by omega)

lemma load_handed {session count : ℕ} {chunk : Octets} {result : Link × Bool}
    (h : Handed session chunk count link result) :
    result.1.load ≤ link.load + if result.2 then 0 else count := by
  cases h with
  | through inbox notes hnotes => exact Nat.le_refl _
  | thread inbox notes hnotes listener rest hrest =>
    have hwake := @load_wake { link with inbox := inbox, trace := link.trace ++ notes }
      [.returned listener ⟨session, chunk, rest⟩]
    rw [List.map_singleton, List.sum_singleton, Wake.load] at hwake
    exact hwake.le.trans (Nat.add_le_add_left hrest _)
  | gate inbox notes hnotes rest => exact Nat.le_add_right ..

/-- A chunk that is taken from a queue takes its part of the load with it. -/
lemma load_dequeue {session : ℕ} {chunk : Octets} {rest : List Octets}
    (h : link.queueOf session = chunk :: rest) :
    (link.modifySession session fun found => { found with queue := rest }).load +
      (link.listeners.length + 1) = link.load := by
  have hsum : ∀ (sessions : List Session) (i : ℕ),
      ((sessions[i]?).map Session.queue).getD [] = chunk :: rest → ∀ n : ℕ,
      (((sessions.modify i fun found => { found with queue := rest }).map Session.queue).map
        fun queue => queue.length * n).sum + n =
      ((sessions.map Session.queue).map fun queue => queue.length * n).sum := by
    intro sessions i hqueue n
    induction sessions generalizing i with
    | nil => cases hqueue
    | cons first later ih =>
      cases i with
      | zero =>
        have hfirst : first.queue = chunk :: rest := hqueue
        simp only [List.modify_zero_cons, List.map_cons, List.sum_cons, hfirst, List.length_cons,
          Nat.succ_mul]
        omega
      | succ i =>
        have hlater := ih i hqueue
        simp only [List.modify_succ_cons, List.map_cons, List.sum_cons]
        omega
  have hsessions := hsum link.sessions session h (link.listeners.length + 1)
  simp only [load_eq, modifySession]
  omega

lemma load_work_le {session : ℕ} {queue : List Octets} (h : link.queueOf session = queue) :
    (work session queue link).load ≤ link.load := by
  induction queue generalizing link with
  | nil =>
    have hidle := @load_modifySession link session
      (fun found => { found with idle := found.idle + 1 }) fun _ => rfl
    exact hidle.le
  | cons chunk rest ih =>
    have hdequeue := load_dequeue h
    have hhanded := deliver_handed session chunk link.listeners
      (link.modifySession session fun found => { found with queue := rest })
    have hload := load_handed hhanded
    have hrest : (link.modifySession session fun found =>
        { found with queue := rest }).queueOf session = rest := by
      unfold queueOf at h
      cases hfound : link.sessions[session]? with
      | none => simp [hfound] at h
      | some found => simp [queueOf, modifySession, hfound]
    rw [work_cons]
    dsimp only
    generalize deliver session chunk link.listeners _ = result at hhanded hload ⊢
    cases hhanded with
    | through inbox notes hnotes =>
      refine (ih ?_).trans (hload.trans ?_)
      · exact hrest
      · rw [if_pos rfl]
        omega
    | thread inbox notes hnotes listener rest hle =>
      rw [if_neg Bool.false_ne_true] at hload
      exact hload.trans (by omega)
    | gate inbox notes hnotes rest =>
      rw [if_neg Bool.false_ne_true] at hload
      exact hload.trans (by omega)

lemma load_resumeDelivery_le (going : Delivery) :
    (link.resumeDelivery going).load ≤ link.load + going.listeners.length := by
  have hhanded := deliver_handed going.session going.chunk going.listeners link
  have hload := load_handed hhanded
  rw [resumeDelivery]
  generalize deliver going.session going.chunk going.listeners link = result at hhanded hload ⊢
  cases hhanded with
  | through inbox notes hnotes =>
    rw [if_pos rfl] at hload
    exact (load_work_le rfl).trans (Nat.le_add_right_of_le hload)
  | thread inbox notes hnotes listener rest hle => exact hload
  | gate inbox notes hnotes rest => exact hload

/-- A wake that runs uses up its part of the load. -/
lemma load_resume_lt (wake : Wake) : (link.resume wake).load < link.load + wake.load := by
  cases wake with
  | call id => exact Nat.lt_succ_of_le (load_resumeCall_le id)
  | leaving id turns outcome =>
    cases turns with
    | zero =>
      rw [resume, load_finish, load_closeSocket, Wake.load]
      omega
    | succ turns =>
      rw [resume, load_wake, List.map_singleton, List.sum_singleton, Wake.load, Wake.load]
      omega
  | worker session => exact Nat.lt_succ_of_le (load_work_le rfl)
  | delivery going => exact Nat.lt_succ_of_le (load_resumeDelivery_le going)
  | returned listener going =>
    rcases listener with _ | ⟨serial, name, manner, _ | _⟩
    · exact Nat.lt_succ_of_le (load_resumeDelivery_le going)
    · exact Nat.lt_succ_of_le (load_resumeDelivery_le going)
    · exact Nat.lt_succ_of_le (@load_resumeDelivery_le (link.logFailure _) going)

lemma load_turn_lt {wake : Wake} {rest : List Wake} (hwakes : link.wakes = wake :: rest) :
    ({ link with wakes := rest }.resume wake).load < link.load := by
  have hsum : link.load = { link with wakes := rest }.load + wake.load := by
    simp only [load_eq, hwakes, List.map_cons, List.sum_cons]
    omega
  rw [hsum]
  exact load_resume_lt wake

/-! ### Runs of turns -/

lemma drain_of_nil (h : link.wakes = []) (turns : ℕ) : drain turns link = link := by
  cases turns with
  | zero => rfl
  | succ turns => rw [drain, h]

lemma drain_of_wakes {wake : Wake} {rest : List Wake} (h : link.wakes = wake :: rest) (turns : ℕ) :
    drain (turns + 1) link = drain turns ({ link with wakes := rest }.resume wake) := by
  rw [drain, h]

lemma drain_add (turns more : ℕ) (link : Link) :
    drain (turns + more) link = drain more (drain turns link) := by
  induction turns generalizing link with
  | zero => rw [Nat.zero_add, drain]
  | succ turns ih =>
    rw [Nat.succ_add]
    cases hwakes : link.wakes with
    | nil => rw [drain_of_nil hwakes, drain_of_nil hwakes, drain_of_nil hwakes]
    | cons wake rest => rw [drain_of_wakes hwakes, drain_of_wakes hwakes, ih]

/-- What holds at first and is kept by every turn holds after any number of turns. -/
theorem drain_induction {P : Link → Prop}
    (hturn : ∀ (link : Link) (wake : Wake) (rest : List Wake), P link → link.wakes = wake :: rest →
      P ({ link with wakes := rest }.resume wake))
    (turns : ℕ) (link : Link) (h : P link) : P (drain turns link) := by
  induction turns generalizing link with
  | zero => exact h
  | succ turns ih =>
    rw [drain]
    split
    · exact h
    · rename_i wake rest hwakes
      exact ih _ (hturn link wake rest h hwakes)

lemma wakes_drain_of_load_le (turns : ℕ) (link : Link) (h : link.load ≤ turns) :
    (drain turns link).wakes = [] := by
  induction turns generalizing link with
  | zero =>
    rw [drain]
    cases hwakes : link.wakes with
    | nil => rfl
    | cons wake rest =>
      -- a link without load has no turn left
      have hlt := load_turn_lt hwakes
      omega
  | succ turns ih =>
    rw [drain]
    split
    · assumption
    · rename_i wake rest hwakes
      refine ih _ ?_
      have hlt := load_turn_lt hwakes
      omega

/-- When a link has settled, nothing can run without another event. -/
theorem wakes_settle (link : Link) : link.settle.wakes = [] :=
  wakes_drain_of_load_le _ _ (Nat.le_refl _)

theorem wakes_step (link : Link) (event : Event) : (link.step event).wakes = [] :=
  wakes_settle _

/-- An event after which nothing can run is over at once. -/
lemma step_of_wakes (event : Event) (h : (link.act link.clock event).wakes = []) :
    link.step event = { link.act link.clock event with clock := link.clock + 1 } := by
  rw [step]
  dsimp only
  rw [settle, drain_of_nil h]

end PixelPanel.Proofs
