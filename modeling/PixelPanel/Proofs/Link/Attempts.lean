import PixelPanel.Proofs.Link.Audience
import PixelPanel.Proofs.Link.Conservation
import PixelPanel.Proofs.Link.Quiet

/-!
# One attempt at a time

Where no attempt to connect is made while another one waits, at most one socket is taken at any time.
So every session begins without anything left of an earlier one, and the inbox has been empty since its
attempt was made.
-/

namespace PixelPanel.Proofs
open Link

/-- No attempt begins to wait, and no other session comes into use. -/
structure Fewer (link link' : Link) : Prop where
  attempts : ∀ call ∈ link'.calls, call ∈ link.calls ∨ call.socket? = none
  current : ∀ other, link'.current = some other → link.current = some other

variable {session next id : ℕ} {tidy : Prop} {link link' link'' : Link}

/-! ### What brings no attempt -/

lemma Fewer.refl (link : Link) : Fewer link link :=
  ⟨fun _ => .inl, fun _ => id⟩

lemma Fewer.trans (h : Fewer link link') (h' : Fewer link' link'') : Fewer link link'' where
  attempts call hmem := (h'.attempts call hmem).elim (h.attempts call) .inr
  current other hcurrent := h.current other (h'.current other hcurrent)

lemma Fewer.attempts_none (h : Fewer link link') (hnone : ∀ call ∈ link.calls, call.socket? = none) :
    ∀ call ∈ link'.calls, call.socket? = none :=
  fun call hmem => (h.attempts call hmem).elim (hnone call) id

lemma Spares.fewer (h : Spares session link link') : Fewer link link' :=
  ⟨h.attempts, h.current⟩

lemma Aside.fewer (h : Aside link link') (hcurrent : link'.current = link.current) :
    Fewer link link' :=
  ⟨fun _ hmem => .inl (h.calls ▸ hmem), fun _ hother => hcurrent ▸ hother⟩

lemma fewer_turn {wake : Wake} {rest : List Wake} (hwakes : link.wakes = wake :: rest) :
    Fewer link ({ link with wakes := rest }.resume wake) := by
  cases hworker : workerOf? wake with
  | none => exact (@spares_turn 0 _ _ _ hwakes hworker).fewer
  | some owner =>
    obtain ⟨inbox, notes, idle, wakes, blocked, change, -, -, -, hworks⟩ :=
      @resume_works { link with wakes := rest } _ _ hworker
    rw [hworks]
    exact ⟨fun _ => .inl, fun _ => id⟩

lemma fewer_drain (turns : ℕ) (link : Link) : Fewer link (drain turns link) :=
  drain_induction (P := Fewer link) (fun _ _ _ h hwakes => h.trans (fewer_turn hwakes)) turns link
    (Fewer.refl link)

lemma fewer_step {start : Link} {event : Event} (h : Fewer start (link.act link.clock event)) :
    Fewer start (link.step event) := by
  have hrun := h.trans (fewer_drain (link.act link.clock event).load (link.act link.clock event))
  exact ⟨hrun.attempts, hrun.current⟩

lemma fewer_attach (id socket : ℕ) (actions : List Action) (ending : Ending) :
    Fewer (attached link socket) (link.attach id socket actions ending) := by
  rw [attach_eq]
  exact (((@spares_note 0 _ _ rfl).trans (spares_note rfl)).trans (spares_perform ..)).fewer

lemma fewer_answerYoungest {answer : Answer} (hanswer : answer ≠ .accepted) :
    Fewer link (link.answerYoungest answer) := by
  have hended : ∀ (call : Call) socket, answer ≠ .later → Fewer link
      ((link.removeCall call.id).answerAttempt call.id socket call.actions call.ending answer) := by
    intro call socket hlater
    have hremoved := (@spares_removeCall 0 link call.id).fewer
    cases answer with
    | accepted => exact (hanswer rfl).elim
    | refused error => exact ⟨hremoved.attempts, fun _ => id⟩
    | unsupported => exact ⟨hremoved.attempts, fun _ => id⟩
    | later => exact (hlater rfl).elim
  unfold answerYoungest
  split
  · exact Fewer.refl link
  · split
    · exact Fewer.refl link
    · exact Fewer.refl link
    · rename_i hlater
      exact hended _ _ fun heq => hlater heq

/-- Only an attempt, or a success of one, takes a socket. -/
lemma fewer_act {event : Event} (hconnects : event.connects = false)
    (hanswer : event ≠ .answer .accepted) (id : ℕ) : Fewer link (link.act id event) := by
  have hsame : Fewer link link := Fewer.refl link
  cases event with
  | connect answer => cases hconnects
  | scope messages raises answer => cases hconnects
  | answer answer => exact fewer_answerYoungest fun heq => hanswer (heq ▸ rfl)
  | cancel call => exact (@spares_cancel 0 link call).fewer
  | disconnect => exact ((@spares_hangUp 0 link).trans (spares_note rfl)).fewer
  | send messages => exact (@spares_perform 0 ..).fewer
  | deviceSends octets =>
    exact (aside_read octets).fewer (congrArg Standing.current (standing_read octets))
  | deviceCloses => exact aside_readEnd.fewer (congrArg Standing.current standing_readEnd)
  | readFails error =>
    refine (aside_readError error).fewer ?_
    obtain heq | ⟨reader, heq⟩ := @exists_standing_readError link error
    all_goals exact congrArg Standing.current heq
  | openGate => exact aside_openGate.fewer rfl
  | addAgain name =>
    rw [act]
    split
    · exact hsame
    · exact { hsame with }
  | removeObserver name =>
    rw [act]
    split
    · exact { hsame with }
    · split <;> exact { hsame with }
  | _ => exact { hsame with }

/-! ### Where no worker has a turn -/

/-- As long as no worker has a turn, the turns of calls spare a session and the audience. -/
lemma spares_drain (hturns : link.workerTurns = []) (turns : ℕ) :
    Spares session link (drain turns link) ∧ (drain turns link).audience = link.audience := by
  have hdrained := drain_induction (P := fun later => later.workerTurns = [] ∧
    Spares session link later ∧ later.audience = link.audience) ?_ turns link
    ⟨hturns, Spares.refl session link, rfl⟩
  · exact hdrained.2
  · intro later wake rest ⟨hnone, hspares, haudience⟩ hwakes
    cases hworker : workerOf? wake with
    | some owner => exact (workerTurns_ne_nil hwakes hworker hnone).elim
    | none =>
      have hturn := @spares_turn session _ _ _ hwakes hworker
      refine ⟨List.sublist_nil.mp (hnone ▸ hturn.turns), hspares.trans hturn, ?_⟩
      exact (@audience_resume { later with wakes := rest } wake hworker).trans haudience

/-- No event by itself hands anything to the inbox. -/
lemma inbox_act (id : ℕ) (event : Event) : (link.act id event).inbox = link.inbox := by
  by_cases h : event.concernsAudience = false
  · exact congrArg Audience.inbox (@audience_act link event h id)
  · cases event with
    | addAgain name =>
      rw [act]
      split <;> rfl
    | removeObserver name =>
      rw [act]
      split
      · rfl
      · split <;> rfl
    | addObserver | openGate | closeGate => rfl
    | _ => exact (h rfl).elim

lemma inbox_step_of_turns {event : Event} (hturns : (link.act link.clock event).workerTurns = []) :
    (link.step event).inbox = link.inbox := by
  have hdrained := (@spares_drain 0 _ hturns (link.act link.clock event).load).1.inbox
  exact hdrained.trans (inbox_act ..)

/-- Without a session in use no worker gets a turn. -/
lemma turns_act_of_current (hsound : Sound next True (standing link)) (hwakes : link.wakes = [])
    (hcurrent : link.current = none) (id : ℕ) (event : Event) :
    (link.act id event).workerTurns = [] := by
  have hnone : link.workerTurns = [] := workerTurns_of_nil hwakes
  by_cases hsends : ∃ octets, event = .deviceSends octets
  · obtain ⟨octets, rfl⟩ := hsends
    have hreader : link.hasReader = false := hasReader_eq_false fun other =>
      (crew_of_ne_current hsound trivial (by simp [hcurrent])).1
    have hread : link.read octets = link := by
      rw [Link.read, hreader]
      rfl
    rw [act, hread]
    exact hnone
  · by_cases hgate : event = .openGate
    · subst hgate
      rw [act, blocked_eq_nil hsound hcurrent, workerTurns_wake]
      exact (List.append_nil _).trans hnone
    · exact turns_act_of_quiet hwakes (fun octets heq => hsends ⟨octets, heq⟩) hgate id

/-! ### At rest -/

/-- At rest at most one socket is taken, and what is left of an envelope has been forgotten as long as
an attempt waits. -/
structure Calm (link : Link) : Prop where
  sound : Sound link.clock True (standing link)
  wakes : link.wakes = []
  one : (taken link).length ≤ 1
  empty : ∀ call ∈ link.calls, call.socket?.isSome → link.inbox.assembler = {}

lemma mem_taken_of_fewer (h : Fewer link link') {socket : ℕ} (hmem : socket ∈ taken link') :
    socket ∈ taken link := by
  rcases List.mem_append.mp hmem with hattempt | hcurrent
  · obtain ⟨call, hcall, hsocket⟩ := List.mem_filterMap.mp hattempt
    have hbefore := (h.attempts call hcall).resolve_right (by simp [hsocket])
    exact List.mem_append_left _ (List.mem_filterMap.mpr ⟨call, hbefore, hsocket⟩)
  · have hbefore := h.current socket (Option.mem_toList.mp hcurrent)
    exact List.mem_append_right _ (Option.mem_toList.mpr hbefore)

lemma length_taken_le_of_fewer (h : Fewer link link') (hsound : Sound next tidy (standing link')) :
    (taken link').length ≤ (taken link).length :=
  (List.subperm_of_subset (nodup_taken hsound) fun _ => mem_taken_of_fewer h).length_le

lemma length_taken_le_of_attempts (h : ∀ call ∈ link.calls, call.socket? = none) :
    (taken link).length ≤ 1 := by
  have hnone : link.calls.filterMap Call.socket? = [] := List.filterMap_eq_nil_iff.mpr h
  rw [taken, hnone, List.nil_append]
  cases link.current <;> simp

lemma calm_of_attempts (hsound : Sound link.clock True (standing link)) (hwakes : link.wakes = [])
    (hattempts : ∀ call ∈ link.calls, call.socket? = none) : Calm link := by
  refine ⟨hsound, hwakes, length_taken_le_of_attempts hattempts, fun call hmem hsocket => ?_⟩
  rw [hattempts call hmem] at hsocket
  cases hsocket

lemma Calm.exclusive (h : Calm link) : Exclusive link :=
  exclusive_of_length_taken_le h.one

/-- Nobody is told anything while an attempt waits. -/
lemma Calm.step (h : Calm link) {event : Event} (hfewer : Fewer link (link.act link.clock event)) :
    Calm (link.step event) := by
  have hsound := sound_step h.sound h.wakes (fun _ => h.exclusive) event
  have hstep := fewer_step hfewer
  refine ⟨hsound, wakes_step .., (length_taken_le_of_fewer hstep hsound).trans h.one, ?_⟩
  intro call hmem hsocket
  have hbefore : call ∈ link.calls := (hstep.attempts call hmem).resolve_right fun hnone => by
    rw [hnone] at hsocket
    cases hsocket
  have hturns := turns_act_of_current h.sound h.wakes (h.exclusive call hbefore hsocket) link.clock event
  rw [inbox_step_of_turns hturns]
  exact h.empty call hbefore hsocket

/-! ### The beginning of a session -/

lemma eq_of_mem_taken (h : (taken link).length ≤ 1) {first second : ℕ} (hfirst : first ∈ taken link)
    (hsecond : second ∈ taken link) : first = second := by
  rcases htaken : taken link with _ | ⟨socket, _ | ⟨other, rest⟩⟩
  · rw [htaken] at hfirst
    cases hfirst
  · rw [htaken, List.mem_singleton] at hfirst hsecond
    exact hfirst.trans hsecond.symm
  · simp [htaken] at h

lemma mem_taken_of_attempt {call : Call} {socket : ℕ} (hmem : call ∈ link.calls)
    (hsocket : call.socket? = some socket) : socket ∈ taken link :=
  List.mem_append_left _ (List.mem_filterMap.mpr ⟨call, hmem, hsocket⟩)

/-- An attempt that waits is the only one. -/
lemma Calm.eq_of_attempts (h : Calm link) {call other : Call} {socket : ℕ} (hmem : call ∈ link.calls)
    (hsocket : call.socket? = some socket) (hother : other ∈ link.calls)
    (hsome : other.socket?.isSome) : other.id = call.id := by
  obtain ⟨socket', hsocket'⟩ := Option.isSome_iff_exists.mp hsome
  obtain rfl := eq_of_mem_taken h.one (mem_taken_of_attempt hmem hsocket)
    (mem_taken_of_attempt hother hsocket')
  exact h.sound.eq_of_attempt (mem_calls_standing hother hsocket') (mem_calls_standing hmem hsocket)

/-- When a session has begun beside which no attempt waits, none waits at rest either. -/
lemma Calm.attach (h : Calm link) {event : Event} {before : Link} {id socket : ℕ}
    {actions : List Action} {ending : Ending}
    (hact : link.act link.clock event = before.attach id socket actions ending)
    (hattempts : ∀ call ∈ before.calls, call.socket? = none) : Calm (link.step event) := by
  have hbegun : Fewer (attached before socket) (link.act link.clock event) :=
    hact.symm ▸ fewer_attach id socket actions ending
  exact calm_of_attempts (sound_step h.sound h.wakes (fun _ => h.exclusive) event) (wakes_step ..)
    ((fewer_step hbegun).attempts_none hattempts)

/-- A session begins with an empty inbox. -/
structure BegunAnew (session : ℕ) (start : Link) : Prop extends Begun session start where
  empty : start.inbox.assembler = {}

/-- Whether a session begins with an event, it does so anew. -/
def BeginsAnew (link link' : Link) : Prop :=
  ∀ session, link.current ≠ some session → link'.current = some session → BegunAnew session link'

lemma Fewer.beginsAnew (h : Fewer link link') : BeginsAnew link link' :=
  fun session hbefore hafter => (hbefore (h.current session hafter)).elim

/-- The answer to the attempt that waits begins a session. -/
lemma Calm.answer (h : Calm link) : Calm (link.step (.answer .accepted)) ∧
    BeginsAnew link (link.step (.answer .accepted)) := by
  cases hfind : link.calls.reverse.find? fun call => call.socket?.isSome with
  | none =>
    have hact : link.act link.clock (.answer .accepted) = link := by
      rw [act, answerYoungest, hfind]
    have hfewer : Fewer link (link.act link.clock (.answer .accepted)) := hact.symm ▸ Fewer.refl link
    exact ⟨h.step hfewer, (fewer_step hfewer).beginsAnew⟩
  | some call =>
    have hmem := List.mem_reverse.mp (List.mem_of_find?_eq_some hfind)
    have hsome := @List.find?_some _ (fun call : Call => call.socket?.isSome) _ _ hfind
    obtain ⟨socket, hsocket⟩ := Option.isSome_iff_exists.mp hsome
    have hcurrent := h.exclusive call hmem hsome
    have honly : ∀ other ∈ link.calls, other.socket?.isSome → other.id = call.id :=
      fun other hother => h.eq_of_attempts hmem hsocket hother
    have hact : link.act link.clock (.answer .accepted) =
        (link.removeCall call.id).attach call.id socket call.actions call.ending := by
      rw [act, answerYoungest, hfind]
      dsimp only
      rw [hsocket]
      rfl
    refine ⟨h.attach hact fun other hother => ?_, fun session _ hafter =>
      ⟨begun_answer h.sound h.wakes hcurrent hfind honly hafter, ?_⟩⟩
    · obtain ⟨hbefore, hne⟩ := List.mem_filter.mp hother
      rw [bne_iff_ne] at hne
      by_contra hattempt
      exact hne (honly other hbefore (Option.isSome_iff_ne_none.mpr hattempt))
    · rw [inbox_step_of_turns (turns_act_of_current h.sound h.wakes hcurrent ..)]
      exact h.empty call hmem hsome

/-- How an attempt to connect goes on if no session begins at once. -/
lemma connect_of_not_accepted (hphase : ¬(link.phase = .connecting ∨ link.phase = .active))
    {answer : Answer} (hanswer : answer = .accepted → Address.ofText? link.address.toList = none)
    (id : ℕ) (actions : List Action) (ending : Ending) :
    (link.connect id actions ending answer).current = none ∧
      ((link.connect id actions ending answer).calls = link.calls ∨
        ∃ call, (link.connect id actions ending answer).calls = link.calls ++ [call]) := by
  have hclean : (if link.owned.isSome ∨ link.current.isSome then link.hangUp else link) =
      link.cleaned := rfl
  rw [← (cleaned_eq link).1] at hanswer
  rw [connect, if_neg hphase, hclean, ← calls_cleaned link]
  have hnone := current_cleaned link
  have hrefused : ∀ (opened : Link) (socket : ℕ) (reason : String),
      (((opened.dropSocket socket).failConnect id reason).current = opened.current) ∧
        ((opened.dropSocket socket).failConnect id reason).calls = opened.calls :=
    fun _ _ _ => ⟨rfl, rfl⟩
  generalize link.cleaned = clean at *
  dsimp only
  split
  · exact ⟨hnone, .inl rfl⟩
  · rename_i octets hoctets
    split
    · exact ⟨hnone, .inl rfl⟩
    · cases answer with
      | accepted => cases (hanswer rfl).symm.trans hoctets
      | refused error => exact ⟨(hrefused ..).1.trans hnone, .inl (hrefused ..).2⟩
      | unsupported => exact ⟨(hrefused ..).1.trans hnone, .inl (hrefused ..).2⟩
      | later => exact ⟨hnone, .inr ⟨_, rfl⟩⟩

/-- Where no session has begun, only the attempt itself may wait. -/
lemma Calm.wait (h : Calm link) (hattempts : ∀ call ∈ link.calls, call.socket? = none) {event : Event}
    (hempty : (link.step event).inbox.assembler = {})
    (hcurrent : (link.act link.clock event).current = none)
    (hcalls : (link.act link.clock event).calls = link.calls ∨
      ∃ call, (link.act link.clock event).calls = link.calls ++ [call]) :
    Calm (link.step event) ∧ BeginsAnew link (link.step event) := by
  have hstep := fewer_step (Fewer.refl (link.act link.clock event))
  have hsound := sound_step h.sound h.wakes (fun _ => h.exclusive) event
  have hone : (taken (link.act link.clock event)).length ≤ 1 := by
    have hnone : link.calls.filterMap Call.socket? = [] := List.filterMap_eq_nil_iff.mpr hattempts
    rw [taken, hcurrent, Option.toList_none, List.append_nil]
    obtain hsame | ⟨call, hmore⟩ := hcalls
    · rw [hsame, hnone]
      exact Nat.zero_le 1
    · rw [hmore, List.filterMap_append, hnone, List.nil_append]
      exact List.length_filterMap_le _ [call]
  refine ⟨⟨hsound, wakes_step .., (length_taken_le_of_fewer hstep hsound).trans hone,
    fun _ _ _ => hempty⟩, fun session _ hafter => ?_⟩
  cases hcurrent.symm.trans (hstep.current session hafter)

/-- An attempt to connect beside which no other one waits. -/
lemma Calm.connect (h : Calm link) (hattempts : ∀ call ∈ link.calls, call.socket? = none)
    (hempty : link.inbox.assembler = {}) {event : Event} (hevent : event.connects) :
    Calm (link.step event) ∧ BeginsAnew link (link.step event) := by
  obtain ⟨actions, ending, answer, hact⟩ : ∃ actions ending answer,
      link.act link.clock event = link.connect link.clock actions ending answer := by
    cases event with
    | connect answer => exact ⟨_, _, _, rfl⟩
    | scope messages raises answer => exact ⟨_, _, _, rfl⟩
    | _ => cases hevent
  have hinbox : (link.step event).inbox.assembler = {} := by
    rw [inbox_step_of_turns]
    · exact hempty
    · cases event with
      | connect answer =>
        exact turns_act_of_quiet h.wakes (fun _ => Event.noConfusion) Event.noConfusion _
      | scope messages raises answer =>
        exact turns_act_of_quiet h.wakes (fun _ => Event.noConfusion) Event.noConfusion _
      | _ => cases hevent
  by_cases hopen : link.phase = .connecting ∨ link.phase = .active
  · have hfewer : Fewer link (link.act link.clock event) := by
      rw [hact, Link.connect, if_pos hopen]
      exact (@spares_note 0 _ _ rfl).fewer
    exact ⟨h.step hfewer, (fewer_step hfewer).beginsAnew⟩
  · have hphase : link.phase = .disconnected ∨ link.phase = .closed := by
      cases hphase : link.phase <;> simp_all
    by_cases haccepted : answer = .accepted ∧ (Address.ofText? link.address.toList).isSome
    · obtain ⟨rfl, haddress⟩ := haccepted
      obtain ⟨notes, hconnect⟩ := exists_connect_eq hphase haddress link.clock actions ending
      refine ⟨h.attach (hact.trans hconnect) ?_, fun session _ hafter =>
        ⟨begun_connect h.sound h.wakes hattempts hphase haddress hact hafter, hinbox⟩⟩
      change ∀ call ∈ link.cleaned.calls, _
      rw [calls_cleaned]
      exact hattempts
    · have hanswer : answer = .accepted → Address.ofText? link.address.toList = none := fun heq =>
        Option.not_isSome_iff_eq_none.mp fun haddress => haccepted ⟨heq, haddress⟩
      obtain ⟨hcurrent, hcalls⟩ :=
        @connect_of_not_accepted link hopen answer hanswer link.clock actions ending
      rw [← hact] at hcurrent hcalls
      exact h.wait hattempts hinbox hcurrent hcalls

end PixelPanel.Proofs
