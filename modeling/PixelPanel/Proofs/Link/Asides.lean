import PixelPanel.Proofs.Link.Reachable

/-!
# What happens beside the calls

Workers, the reader, the device and the end of a session leave the calls of a link alone: none of them
begins or ends a call, writes a message or lets a call go on, and none makes the link active.
-/

namespace PixelPanel.Link

/-- Whether an event begins or ends a call, or lets one go on. -/
def Event.concernsCalls : Event → Bool
  | .connect _ | .scope .. | .answer _ | .cancel _ | .send _ | .releaseWrites => true
  | _ => false

end PixelPanel.Link

namespace PixelPanel.Proofs
open Link

/-- Notes that have nothing to do with writes, with calls or with the beginning of a session. Reports
that are told have been decoded. -/
def IsAside : Note → Prop
  | .written _ | .attached _ | .finished .. => False
  | .told _ report => report.IsDecoded
  | _ => True

lemma isAside_of_fromListeners {seen : Note} (h : FromListeners seen) : IsAside seen := by
  cases seen <;> first | exact h | trivial

/-- The turns to come that are not those of workers. -/
def callTurns (link : Link) : List Wake :=
  link.wakes.filter fun wake => (workerOf? wake).isNone

/-- What workers, the device and the user do beside the calls. -/
structure Aside (link link' : Link) : Prop where
  phase : link'.phase = .active → link.phase = .active ∧ link'.current = link.current
  calls : link'.calls = link.calls
  writesHeld : link.writesHeld → link'.writesHeld
  turns : callTurns link' = callTurns link
  trace : ∃ more, link'.trace = link.trace ++ more ∧ ∀ seen ∈ more, IsAside seen

variable {link link' : Link}

lemma callTurns_eq_nil (h : link.wakes = []) : callTurns link = [] := by
  rw [callTurns, h]
  rfl

lemma Aside.refl (link : Link) : Aside link link :=
  ⟨fun hactive => ⟨hactive, rfl⟩, rfl, id, rfl, [], (List.append_nil _).symm, by simp⟩

lemma Aside.trans {link'' : Link} (h : Aside link link') (h' : Aside link' link'') :
    Aside link link'' where
  phase hactive := by
    obtain ⟨hphase, hcurrent⟩ := h'.phase hactive
    exact ⟨(h.phase hphase).1, hcurrent.trans (h.phase hphase).2⟩
  calls := h'.calls.trans h.calls
  writesHeld hheld := h'.writesHeld (h.writesHeld hheld)
  turns := h'.turns.trans h.turns
  trace := by
    obtain ⟨more, htrace, hmore⟩ := h.trace
    obtain ⟨later, htrace', hlater⟩ := h'.trace
    refine ⟨more ++ later, ?_, List.forall_mem_append.mpr ⟨hmore, hlater⟩⟩
    rw [htrace', htrace, List.append_assoc]

/-! ### Workers and the device -/

lemma aside_of_works {worker : ℕ} (h : Works worker link link') : Aside link link' := by
  obtain ⟨inbox, added, idle, wakes, blocked, change, hadded, hparked, -, rfl⟩ := h
  refine ⟨fun hactive => ⟨hactive, rfl⟩, rfl, id, ?_, added, rfl,
    fun seen hmem => isAside_of_fromListeners (hadded seen hmem)⟩
  rw [callTurns, List.filter_append]
  cases hparked <;> simp [callTurns, workerOf?]

lemma aside_log (level : Level) (message : String) : Aside link (link.log level message) :=
  ⟨fun hactive => ⟨hactive, rfl⟩, rfl, id, rfl, [_], rfl, by simp [IsAside]⟩

lemma aside_retire (reason : String) : Aside link (link.retire reason) := by
  refine ⟨Phase.noConfusion, calls_retire reason, fun hheld => ?_, ?_, _, trace_retire reason,
    by split <;> simp [IsAside]⟩
  · unfold retire
    split <;> exact hheld
  · rw [callTurns, wakes_retire]
    rfl

lemma aside_enqueue (chunk : Octets) : Aside link (link.enqueue chunk) := by
  unfold enqueue
  split
  · exact Aside.refl link
  · split
    · exact (show Aside link { link with dropped := link.dropped + 1 } from
        { Aside.refl link with }).trans (aside_log ..)
    · exact { Aside.refl link with }

lemma aside_rouse (worker : ℕ) : Aside link (link.rouse worker) := by
  unfold rouse
  split
  · exact Aside.refl link
  · refine { Aside.refl link with turns := ?_ }
    rw [callTurns, wake, List.filter_append]
    simp [callTurns, modifySession, workerOf?]

lemma aside_read (octets : Octets) : Aside link (link.read octets) := by
  have hfold : ∀ (pieces : List Octets) (link : Link), Aside link (pieces.foldl
      (fun link chunk => (link.log .debug ("Received: " ++ Hex.encode chunk)).enqueue chunk) link) := by
    intro pieces
    induction pieces with
    | nil => exact Aside.refl
    | cons piece rest ih =>
      exact fun link => ((aside_log ..).trans (aside_enqueue piece)).trans (ih _)
  unfold Link.read
  split
  · dsimp only
    split
    · exact hfold _ _
    · exact (hfold _ _).trans (aside_rouse _)
  · exact Aside.refl link

lemma aside_readEnd : Aside link link.readEnd := by
  have hfold : ∀ (sessions : List Session) (link : Link), Aside link (sessions.foldl
      (fun link session =>
        if session.reading then link.retire "closed by device" else link) link) := by
    intro sessions
    induction sessions with
    | nil => exact Aside.refl
    | cons session rest ih =>
      intro link
      rw [List.foldl_cons]
      split
      · exact (aside_retire _).trans (ih _)
      · exact ih link
  have hquiet : Aside link { link with
      sessions := link.sessions.map fun session => { session with reading := false } } :=
    { Aside.refl link with }
  exact hquiet.trans (hfold _ _)

lemma aside_readError (error : SystemError) : Aside link (link.readError error) := by
  unfold readError
  split
  · exact Aside.refl link
  · rename_i reader _
    have hquiet : Aside link (link.modifySession reader fun found =>
        { found with reading := false }) := { Aside.refl link with }
    exact hquiet.trans (aside_retire _)

lemma aside_stopTasks : Aside link link.stopTasks := by
  cases howned : link.owned with
  | none =>
    rw [stopTasks_of_none howned]
    exact Aside.refl link
  | some worker =>
    rw [stopTasks_of_some howned]
    refine { Aside.refl link with turns := ?_ }
    rw [callTurns, callTurns, List.filter_filter]
    refine List.filter_congr fun wake _ => ?_
    cases hwake : workerOf? wake with
    | none => simp [Bool.eq_false_iff, isWorkerOf_iff, hwake]
    | some other => simp

lemma aside_closeSocket : Aside link link.closeSocket := by
  refine ⟨fun hactive => ?_, closeSocket_calls, fun hheld => ?_, ?_, ?_⟩
  · rw [closeSocket_phase] at hactive
    cases hactive
  · unfold closeSocket
    split <;> exact hheld
  · rw [callTurns, closeSocket_wakes]
    rfl
  · cases hcurrent : link.current with
    | none =>
      rw [closeSocket_of_none hcurrent]
      exact ⟨[], (List.append_nil _).symm, by simp⟩
    | some current =>
      rw [closeSocket_of_some hcurrent]
      exact ⟨[_, _], List.append_assoc .., by simp [IsAside]⟩

lemma aside_hangUp : Aside link link.hangUp :=
  aside_stopTasks.trans aside_closeSocket

lemma aside_openGate : Aside link
    ({ link with gateOpen := true, blocked := [] }.wake (link.blocked.map .delivery)) := by
  refine { Aside.refl link with turns := ?_ }
  rw [callTurns, wake, List.filter_append]
  simp [callTurns, workerOf?]

/-- As long as only workers have turns, calls are left alone. -/
lemma aside_drain (hturns : callTurns link = []) (turns : ℕ) : Aside link (drain turns link) := by
  refine drain_induction (P := Aside link) ?_ turns link (Aside.refl link)
  intro later wake rest haside hwakes
  have hnone : callTurns later = [] := haside.turns.trans hturns
  have hpopped : Aside later { later with wakes := rest } := by
    refine { Aside.refl later with turns := ?_ }
    rw [hnone, callTurns]
    rw [callTurns, hwakes] at hnone
    exact List.filter_eq_nil_iff.mpr fun wake hmem =>
      List.filter_eq_nil_iff.mp hnone wake (List.mem_cons_of_mem _ hmem)
  cases hworker : workerOf? wake with
  | none =>
    rw [callTurns, hwakes, List.filter_cons_of_pos (by simp [hworker])] at hnone
    cases hnone
  | some worker =>
    have hturn := aside_of_works (@resume_works { later with wakes := rest } _ _ hworker)
    exact haside.trans (hpopped.trans hturn)

/-! ### Events -/

/-- An event that concerns no call happens beside the calls; then it may end as a call that is over at
once. -/
lemma act_of_concernsCalls_eq_false {event : Event} (h : event.concernsCalls = false) (id : ℕ) :
    ∃ middle, Aside link middle ∧
      (link.act id event = middle ∨ ∃ outcome, link.act id event = middle.finish id outcome) := by
  have hsame : Aside link link := Aside.refl link
  have hquiet : Aside link (link.act id event) → ∃ middle, Aside link middle ∧
      (link.act id event = middle ∨ ∃ outcome, link.act id event = middle.finish id outcome) :=
    fun haside => ⟨_, haside, .inl rfl⟩
  cases event with
  | disconnect => exact ⟨_, aside_hangUp, .inr ⟨.done, rfl⟩⟩
  | deviceSends octets => exact hquiet (aside_read octets)
  | deviceCloses => exact hquiet aside_readEnd
  | readFails error => exact hquiet (aside_readError error)
  | openGate => exact hquiet aside_openGate
  | addAgain name =>
    apply hquiet
    rw [act]
    split
    · exact hsame
    · exact { hsame with }
  | removeObserver name =>
    have hkept : ∀ kept, Aside link { link with listeners := kept } := fun _ => { hsame with }
    rw [act]
    split
    · exact ⟨link, hsame, .inr ⟨_, rfl⟩⟩
    · split
      · exact ⟨_, hkept _, .inl rfl⟩
      · exact ⟨link, hsame, .inr ⟨_, rfl⟩⟩
  | nothing => exact hquiet hsame
  | writesFail error after => exact hquiet { hsame with }
  | writesSucceed => exact hquiet { hsame with }
  | holdWrites => exact hquiet { hsame with writesHeld := fun _ => rfl }
  | addObserver name manner fails => exact hquiet { hsame with }
  | closeGate => exact hquiet { hsame with }
  | _ => cases h

end PixelPanel.Proofs
