import PixelPanel.Proofs.Link.Strays
import PixelPanel.Proofs.Link.Traffic

/-!
# While the device is awaited

A link that is down, on which no attempt waits, comes up by another attempt only. While one attempt waits
no session is in use, so it is the only one that the device can answer.
-/

namespace PixelPanel.Proofs
open Link

/-- The attempt with this number still waits for the device. -/
def Waits (id : ℕ) (link : Link) : Prop :=
  ∃ call ∈ link.calls, call.id = id ∧ call.socket?.isSome

/-- No session is in use in this phase, nor is one to come. -/
def IsDown (phase : Phase) : Prop :=
  phase = .disconnected ∨ phase = .closed

/-- The link is down, and no attempt waits. -/
structure Idle (link : Link) : Prop where
  phase : IsDown link.phase
  attempts : ∀ call ∈ link.calls, call.socket? = none

/-- If an attempt waits it is the one with this number, and no session is in use. -/
structure Dialling (id : ℕ) (actions : List Action) (ending : Ending) (link : Link) : Prop where
  current : link.current = none
  only : ∀ call ∈ link.calls, call.socket?.isSome →
    call.id = id ∧ call.actions = actions ∧ call.ending = ending

variable {id : ℕ} {actions : List Action} {ending : Ending} {link link' before : Link}
  {meanwhile : List Event}

/-! ### A link that is down -/

lemma isDown_conclude (h : IsDown link.phase) (id : ℕ) (ending : Ending) (outcome : Outcome) :
    IsDown (link.conclude id ending outcome).phase := by
  have hleave : ∀ outcome, IsDown (link.leave id outcome).phase := by
    intro outcome
    unfold leave
    split
    · exact .inl closeSocket_phase
    · have hphase : link.stopTasks.phase = link.phase := by
        unfold stopTasks
        split <;> rfl
      change IsDown link.stopTasks.phase
      rwa [hphase]
  unfold conclude
  split
  · exact h
  · exact hleave _
  · exact hleave _

lemma isDown_abandon (h : IsDown link.phase) (id : ℕ) (ending : Ending) (lock : Option ℕ)
    (error : CallError) : IsDown (link.abandon id ending lock error).phase := by
  cases lock with
  | none => exact isDown_conclude h ..
  | some lock =>
    refine isDown_conclude ?_ ..
    rwa [phase_handOver]

lemma isDown_perform (h : IsDown link.phase) (id : ℕ) (ending : Ending) (lock : Option ℕ)
    (actions : List Action) : IsDown (perform id ending lock actions link).phase := by
  have hdown : ∀ {link : Link} {P : Prop}, IsDown link.phase → link.phase = .active → P := by
    intro link P h hactive
    simp [IsDown, hactive] at h
  refine perform_induction (P := fun link => IsDown link.phase)
    (Q := fun link => IsDown link.phase) ?_ ?_ ?_ ?_ ?_ ?_ ?_ lock actions link h
  · exact fun _ _ h => h
  · exact fun _ lock h => by rwa [phase_handOver]
  · exact fun _ _ _ h hactive _ _ => hdown h hactive
  · exact fun _ _ _ _ _ h hactive _ _ => hdown h hactive
  · exact fun _ _ _ h hactive _ => hdown h hactive
  · exact fun _ _ h hactive => hdown h hactive
  · exact fun _ outcome h => isDown_conclude h id ending outcome

lemma isDown_resumeCall (h : IsDown link.phase) (id : ℕ) : IsDown (link.resumeCall id).phase := by
  have hremoved : IsDown (link.removeCall id).phase := h
  unfold resumeCall
  split
  · exact h
  · split
    · exact h
    · exact isDown_perform hremoved ..
    · rename_i lock socket message _
      have htry := @phase_tryWrite (link.removeCall id) socket message
      split <;> rename_i heq <;> rw [heq] at htry
      · refine isDown_perform ?_ ..
        rwa [htry]
      · exact isDown_abandon (.inr rfl) ..

lemma isDown_turn (h : IsDown link.phase) (wake : Wake) (rest : List Wake) :
    IsDown ({ link with wakes := rest }.resume wake).phase := by
  cases hworker : workerOf? wake with
  | some owner =>
    obtain ⟨inbox, notes, idle, wakes, blocked, change, -, -, -, hworks⟩ :=
      @resume_works { link with wakes := rest } _ _ hworker
    rw [hworks]
    exact h
  | none =>
    cases wake with
    | call id => exact @isDown_resumeCall { link with wakes := rest } h id
    | leaving id turns outcome =>
      cases turns with
      | zero => exact .inl closeSocket_phase
      | succ turns => exact h
    | worker session => cases hworker
    | delivery going => cases hworker
    | returned listener going => cases hworker

lemma answerYoungest_of_attempts (h : ∀ call ∈ link.calls, call.socket? = none) (answer : Answer) :
    link.answerYoungest answer = link := by
  have hnone : link.calls.reverse.find? (fun call => call.socket?.isSome) = none := by
    refine List.find?_eq_none.mpr fun call hmem => ?_
    simp [h call (List.mem_reverse.mp hmem)]
  rw [answerYoungest, hnone]

lemma isDown_act (h : Idle link) (id : ℕ) {event : Event} (hevent : event.connects = false) :
    IsDown (link.act id event).phase := by
  have hphase := h.phase
  cases event with
  | connect answer => cases hevent
  | scope messages raises answer => cases hevent
  | answer answer =>
    rw [act, answerYoungest_of_attempts h.attempts]
    exact hphase
  | cancel call =>
    have hremoved : IsDown (link.removeCall call).phase := hphase
    rw [act, cancel]
    split
    · exact hphase
    · dsimp only
      split
      · exact .inl rfl
      · exact isDown_abandon hremoved ..
      · exact isDown_abandon hremoved ..
  | disconnect => exact .inl closeSocket_phase
  | send messages => exact isDown_perform hphase ..
  | deviceSends octets =>
    have hread := congrArg Standing.phase (@standing_read link octets)
    change IsDown (standing (link.read octets)).phase
    rwa [hread]
  | deviceCloses =>
    have hend := congrArg Standing.phase (@standing_readEnd link)
    change IsDown (standing link.readEnd).phase
    rw [hend]
    dsimp only
    split
    · exact .inr rfl
    · exact hphase
  | readFails error =>
    change IsDown (standing (link.readError error)).phase
    obtain heq | ⟨reader, heq⟩ := @exists_standing_readError link error
    · rwa [heq]
    · rw [heq]
      exact .inr rfl
  | addAgain name =>
    rw [act]
    split <;> exact hphase
  | removeObserver name =>
    rw [act]
    split
    · exact hphase
    · split <;> exact hphase
  | _ => exact hphase

/-- Without an attempt that waits only another one can bring the link up. -/
lemma Idle.step (h : Idle link) {event : Event} (hevent : event.connects = false) :
    Idle (link.step event) := by
  have hfewer : Fewer link (link.act link.clock event) := by
    by_cases hanswer : event = .answer .accepted
    · rw [hanswer, act, answerYoungest_of_attempts h.attempts]
      exact Fewer.refl link
    · exact fewer_act hevent hanswer link.clock
  refine ⟨?_, (fewer_step hfewer).attempts_none h.attempts⟩
  exact drain_induction (P := fun moment => IsDown moment.phase)
    (fun _ wake rest hmoment _ => isDown_turn hmoment wake rest) _ _ (isDown_act h link.clock hevent)

lemma Idle.run (h : Idle link) {events : List Event}
    (hevents : ∀ event ∈ events, event.connects = false) : Idle (link.run events) := by
  induction events generalizing link with
  | nil => exact h
  | cons event later ih =>
    obtain ⟨hevent, hlater⟩ := List.forall_mem_cons.mp hevents
    exact ih (h.step hevent) hlater

/-! ### An attempt that waits -/

lemma Dialling.fewer (h : Dialling id actions ending link) (hfewer : Fewer link link') :
    Dialling id actions ending link' := by
  refine ⟨Option.eq_none_iff_forall_ne_some.mpr fun other hcurrent => ?_, fun call hmem hwaits => ?_⟩
  · cases h.current.symm.trans (hfewer.current other hcurrent)
  · refine h.only call ((hfewer.attempts call hmem).resolve_right fun hnone => ?_) hwaits
    rw [hnone] at hwaits
    cases hwaits

lemma Waits.of_fewer (h : Waits id link') (hfewer : Fewer link link') : Waits id link := by
  obtain ⟨call, hmem, hid, hwaits⟩ := h
  refine ⟨call, (hfewer.attempts call hmem).resolve_right fun hnone => ?_, hid, hwaits⟩
  rw [hnone] at hwaits
  cases hwaits

/-- What is left of an earlier session is cleaned up before the attempt waits. -/
lemma dialling_connect (hphase : ¬(link.phase = .connecting ∨ link.phase = .active))
    (hattempts : ∀ call ∈ link.calls, call.socket? = none) (id : ℕ) (actions : List Action)
    (ending : Ending) : Dialling id actions ending (link.connect id actions ending .later) := by
  have hcurrent := (@connect_of_not_accepted link hphase .later Answer.noConfusion id actions
    ending).1
  have hconnecting := connecting_connect link id .later
  rw [joinedAtOnce?, if_pos (.inr Answer.noConfusion)] at hconnecting
  refine ⟨hcurrent, fun call hmem hwaits => ?_⟩
  have hold : call ∉ link.calls := fun hold => by
    rw [hattempts call hold] at hwaits
    cases hwaits
  cases hconnecting with
  | failed clean error haside h =>
    rw [h] at hmem
    exact (hold (haside.calls ▸ hmem)).elim
  | waiting clean socket haside _ h =>
    rw [h] at hmem
    rcases List.mem_append.mp hmem with hmem | hmem
    · exact (hold (haside.calls ▸ hmem)).elim
    · rw [List.mem_singleton.mp hmem]
      exact ⟨rfl, rfl, rfl⟩

/-- The attempt that waits is the one that the device answers. -/
lemma Dialling.answerYoungest (h : Dialling id actions ending link) (hwaits : Waits id link)
    (answer : Answer) (hanswer : answer ≠ .later) : ∃ socket,
    link.answerYoungest answer =
      (link.removeCall id).answerAttempt id socket actions ending answer := by
  have hfound : (link.calls.reverse.find? fun call => call.socket?.isSome).isSome := by
    obtain ⟨call, hmem, -, hsome⟩ := hwaits
    exact List.find?_isSome.mpr ⟨call, List.mem_reverse.mpr hmem, hsome⟩
  obtain ⟨call, hfind⟩ := Option.isSome_iff_exists.mp hfound
  have hsome := @List.find?_some _ (fun call : Call => call.socket?.isSome) _ _ hfind
  obtain ⟨socket, hsocket⟩ := Option.isSome_iff_exists.mp hsome
  obtain ⟨rfl, rfl, rfl⟩ :=
    h.only call (List.mem_reverse.mp (List.mem_of_find?_eq_some hfind)) hsome
  refine ⟨socket, ?_⟩
  rw [Link.answerYoungest, hfind]
  simp only [hsocket]

lemma Dialling.removeCall (h : Dialling id actions ending link) :
    ∀ call ∈ (link.removeCall id).calls, call.socket? = none := by
  intro call hmem
  obtain ⟨hmem, hne⟩ := List.mem_filter.mp hmem
  rw [bne_iff_ne] at hne
  refine Option.not_isSome_iff_eq_none.mp fun hwaits => hne (h.only call hmem hwaits).1

lemma Waits.of_step {event : Event} (hevent : event.connects = false)
    (h : Waits id (link.step event)) : Waits id link := by
  by_cases hanswer : event = .answer .accepted
  · subst hanswer
    have hanswering := answering_answerYoungest link .accepted
    have hacted : Waits id (link.answerYoungest .accepted) :=
      h.of_fewer (fewer_step (Fewer.refl (link.act link.clock (.answer .accepted))))
    generalize link.answerYoungest .accepted = result at hanswering hacted
    generalize link.sentAnswering .accepted = sent at hanswering
    -- a call that is answered no longer waits, and the others are those of before
    have hremoved : ∀ {clean : Link} (removed : ℕ), clean.calls = (link.removeCall removed).calls →
        Waits id clean → Waits id link := by
      rintro clean removed hcalls ⟨call, hmem, hwaits⟩
      rw [hcalls] at hmem
      exact ⟨call, List.mem_of_mem_filter hmem, hwaits⟩
    cases hanswering with
    | nothing => exact hacted
    | ended call hmem clean haside error => exact hremoved call.id haside.calls hacted
    | begun call socket hmem hsocket =>
      have hperform := (@spares_perform 0 call.id call.ending none call.actions
        ((link.removeCall call.id).joined socket)).fewer
      have hjoined : Waits id ((link.removeCall call.id).joined socket) := hacted.of_fewer hperform
      exact hremoved call.id rfl hjoined
  · exact h.of_fewer (fewer_step (fewer_act hevent hanswer link.clock))

/-- As long as the attempt waits, no session comes into use. -/
lemma Dialling.step (h : Dialling id actions ending link) {event : Event}
    (hevent : event.connects = false) (hwaits : Waits id (link.step event)) :
    Dialling id actions ending (link.step event) := by
  by_cases hanswer : event = .answer .accepted
  · -- the attempt would have ended
    subst hanswer
    obtain ⟨socket, hact⟩ := h.answerYoungest (hwaits.of_step hevent) .accepted
      Answer.noConfusion
    have hbegun : Fewer (attached (link.removeCall id) socket)
        (link.act link.clock (.answer .accepted)) := by
      rw [act, hact]
      exact fewer_attach id socket actions ending
    obtain ⟨call, hmem, -, hsome⟩ := hwaits.of_fewer (fewer_step hbegun)
    rw [h.removeCall call hmem] at hsome
    cases hsome
  · exact h.fewer (fewer_step (fewer_act hevent hanswer link.clock))

lemma Dialling.run (h : Dialling id actions ending link)
    (hmeanwhile : ∀ event ∈ meanwhile, event.connects = false)
    (hwaits : Waits id (link.run meanwhile)) : Dialling id actions ending (link.run meanwhile) := by
  induction meanwhile using List.reverseRecOn with
  | nil => exact h
  | append_singleton before event ih =>
    rw [List.forall_mem_append, List.forall_mem_singleton] at hmeanwhile
    rw [run_concat] at hwaits ⊢
    exact (ih hmeanwhile.1 (hwaits.of_step hmeanwhile.2)).step hmeanwhile.2 hwaits

/-- While the attempt waits, no session is in use beside it. -/
lemma Dialling.exclusive (h : Dialling id actions ending link) : Exclusive link :=
  fun _ _ _ => h.current

lemma attempts_of_calls (h : link.calls = []) : ∀ call ∈ link.calls, call.socket? = none := by
  rw [h]
  exact List.forall_mem_nil _

lemma exclusive_of_attempts (h : ∀ call ∈ link.calls, call.socket? = none) : Exclusive link := by
  intro call hmem hsome
  rw [h call hmem] at hsome
  cases hsome

end PixelPanel.Proofs
