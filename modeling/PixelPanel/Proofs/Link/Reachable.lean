import Mathlib.Data.List.Induction
import PixelPanel.Proofs.Link.Sessions

/-!
# Runs of a link

A link starts with no session and no call. What holds of its sessions at every moment is kept by every
event and by every turn after it, so it holds in every state that a run reaches. No session is astray
as long as no attempt waits while a session is in use.
-/

namespace PixelPanel.Link

/-- Whether an event tries to connect the link. -/
def Event.connects : Event → Bool
  | .connect _ | .scope .. => true
  | _ => false

end PixelPanel.Link

namespace PixelPanel.Proofs
open Link

/-- Nothing has happened to the link yet. -/
structure IsNew (link : Link) : Prop where
  phase : link.phase = .disconnected
  sessions : link.sessions = []
  current : link.current = none
  owned : link.owned = none
  calls : link.calls = []
  blocked : link.blocked = []
  wakes : link.wakes = []

/-- A link that has just been made is new. -/
lemma isNew_of_make {address : String} {channel capacity workers : ℤ} {link : Link}
    (h : make address channel capacity workers = .ok link) : IsNew link := by
  unfold make at h
  split at h
  · cases h
  · cases h
    exact ⟨rfl, rfl, rfl, rfl, rfl, rfl, rfl⟩

/-- A link with one worker. -/
def sampleLink : Link := { address := "11:22:33:44:55:66", channel := 1 }

lemma isNew_sampleLink : IsNew sampleLink :=
  @isNew_of_make "11:22:33:44:55:66" 1 64 1 _ rfl

variable {next : ℕ} {tidy : Prop} {link : Link}

/-! ### The end of a session -/

lemma closeSocket_phase : link.closeSocket.phase = .disconnected := by
  unfold closeSocket
  split <;> rfl

lemma closeSocket_current : link.closeSocket.current = none := by
  unfold closeSocket
  split
  · assumption
  · rfl

lemma closeSocket_calls : link.closeSocket.calls = link.calls := by
  unfold closeSocket
  split <;> rfl

lemma closeSocket_wakes : link.closeSocket.wakes = link.wakes := by
  unfold closeSocket
  split <;> rfl

lemma stopTasks_owned : link.stopTasks.owned = none := by
  unfold stopTasks
  split
  · assumption
  · rfl

lemma stopTasks_calls : link.stopTasks.calls = link.calls := by
  unfold stopTasks
  split <;> rfl

lemma stopTasks_wakes_sublist : link.stopTasks.wakes.Sublist link.wakes := by
  unfold stopTasks
  split
  · exact List.Sublist.refl _
  · exact List.filter_sublist

@[simp] lemma hangUp_current : link.hangUp.current = none := closeSocket_current

@[simp] lemma hangUp_calls : link.hangUp.calls = link.calls :=
  closeSocket_calls.trans stopTasks_calls

lemma hangUp_wakes (hwakes : link.wakes = []) : link.hangUp.wakes = [] := by
  have hsub := @stopTasks_wakes_sublist link
  rw [hwakes] at hsub
  exact closeSocket_wakes.trans (List.sublist_nil.mp hsub)

lemma sound_hangUp (h : Sound next tidy (standing link)) :
    Sound next tidy (standing link.hangUp) := by
  unfold hangUp
  cases howned : link.owned with
  | none =>
    rw [stopTasks_of_none howned]
    exact sound_closeSocket (standing link).isLeaving h howned
  | some session =>
    refine sound_closeSocket true ?_ stopTasks_owned
    rw [standing_stopTasks howned (lt_of_current h (h.owned_current session howned))]
    exact h.stopTasks howned

/-! ### Attempts to connect -/

/-- The answer to an attempt, when the attempt no longer waits. -/
lemma sound_answerAttempt {st : Standing} {id socket : ℕ} (h : Sound next tidy st)
    (hmem : (id, some socket) ∈ st.calls)
    (hlink : standing link = { st with calls := st.calls.filter fun call => call.1 != id })
    (hleaving : st.isLeaving = false) (htidy : tidy → st.current = none) (actions : List Action)
    (ending : Ending) {answer : Answer} (hanswer : answer ≠ .later) :
    Sound next tidy (standing (link.answerAttempt id socket actions ending answer)) := by
  have hopen : link.isOpen socket = true := by
    have hsame := congrFun (congrArg Standing.isOpen hlink) socket
    exact hsame.trans (h.attempt_open socket (Sound.mem_attempts hmem))
  have hlt := lt_of_isOpen hopen
  have hdrop : Sound next tidy (standing (link.dropSocket socket)) := by
    have hdropped := h.dropAttempt hmem
    rw [standing_dropSocket hlt]
    have hflags : link.isOpen = st.isOpen := congrArg Standing.isOpen hlink
    rw [hlink, hflags]
    exact hdropped
  cases answer with
  | accepted =>
    have hcrew : link.crew socket = 0 := by
      have hsame := congrFun (congrArg Standing.crew hlink) socket
      exact hsame.trans (h.attempt_idle socket (Sound.mem_attempts hmem)).2
    have hattached := standing_attached hlt hcrew
    have hsound : Sound next tidy (standing (attached link socket)) := by
      have hreading : link.isReading = st.isReading := congrArg Standing.isReading hlink
      have hcrews : link.crew = st.crew := congrArg Standing.crew hlink
      have hworkers : link.workers = st.workers := congrArg Standing.workers hlink
      rw [hattached, hlink, hreading, hcrews, hworkers]
      exact h.attach hmem hleaving htidy
    change Sound next tidy (standing (link.attach id socket actions ending))
    rw [attach_eq]
    refine @sound_perform _ _ (((attached link socket).note (.attached socket)).log .info
      s!"Connected to {link.address}") hsound _ (h.ids_lt _ hmem) ?_ ending none actions
    have hids : (link.calls.map Call.id) =
        (st.calls.filter fun call => call.1 != id).map Prod.fst := by
      have hcalls := congrArg (fun st => st.calls.map Prod.fst) hlink
      simpa only [standing, List.map_map, Function.comp_def] using hcalls
    change id ∉ link.calls.map Call.id
    rw [hids]
    simp
  | refused error => exact hdrop.setPhase .disconnected Phase.noConfusion
  | unsupported => exact hdrop.setPhase .disconnected Phase.noConfusion
  | later => exact (hanswer rfl).elim

/-- The answer to an attempt on a new socket. -/
lemma sound_newAttempt (h : Sound next tidy (standing link)) (hcurrent : link.current = none)
    (hwakes : link.wakes = []) {id : ℕ} (hlt : id < next) (hnew : id ∉ link.calls.map Call.id)
    (actions : List Action) (ending : Ending) (answer : Answer) :
    Sound next tidy (standing (answerAttempt
      { link with sessions := link.sessions ++ [{ isOpen := true }] } id link.sessions.length actions
      ending answer)) := by
  have hids : (standing link).calls.map Prod.fst = link.calls.map Call.id := by
    simp only [standing, List.map_map, Function.comp_def]
  have hclosed : link.isOpen link.sessions.length = false :=
    Bool.eq_false_iff.mpr fun hopen => (Nat.lt_irrefl _ (lt_of_isOpen hopen)).elim
  -- the attempt waits for a moment, whatever the answer is
  have hadded := h.addAttempt hlt (hids ▸ hnew) hclosed
  by_cases hanswer : answer = .later
  · subst hanswer
    change Sound next tidy (standing (suspend { link with
      sessions := link.sessions ++ [{ isOpen := true }] } _))
    rw [standing_suspend, standing_newSocket]
    exact hadded
  · have hlink : standing { link with sessions := link.sessions ++ [{ isOpen := true }] } =
        { standing link with
          calls := ((standing link).calls ++ [(id, some link.sessions.length)]).filter
            fun call => call.1 != id
          isOpen := Function.update link.isOpen link.sessions.length true } := by
      have hfilter : ((standing link).calls ++ [(id, some link.sessions.length)]).filter
          (fun call => call.1 != id) = (standing link).calls := by
        rw [List.filter_append, List.filter_cons_of_neg (by simp), List.filter_nil,
          List.append_nil, List.filter_eq_self]
        intro call hmem
        rw [bne_iff_ne]
        rintro rfl
        exact hnew (hids ▸ List.mem_map_of_mem hmem)
      rw [hfilter]
      exact standing_newSocket
    have hleaving : (standing link).isLeaving = false := by
      simp [standing, hwakes]
    exact sound_answerAttempt hadded (List.mem_append_right _ List.mem_cons_self) hlink hleaving
      (fun _ => hcurrent) actions ending hanswer

lemma sound_connect (h : Sound next tidy (standing link)) (hwakes : link.wakes = []) {id : ℕ}
    (hlt : id < next) (hnew : id ∉ link.calls.map Call.id) (actions : List Action)
    (ending : Ending) (answer : Answer) :
    Sound next tidy (standing (link.connect id actions ending answer)) := by
  unfold connect
  split
  · exact h
  · -- whatever is left of an earlier session is cleaned up
    obtain ⟨start, hstart, hsound, hcurrent, hcalls, hidle⟩ : ∃ start,
        (if link.owned.isSome ∨ link.current.isSome then link.hangUp else link) = start ∧
        Sound next tidy (standing start) ∧ start.current = none ∧ start.calls = link.calls ∧
        start.wakes = [] := by
      refine ⟨_, rfl, ?_⟩
      split
      · exact ⟨sound_hangUp h, hangUp_current, hangUp_calls, hangUp_wakes hwakes⟩
      · rename_i hnone
        rw [not_or] at hnone
        exact ⟨h, by simpa using hnone.2, rfl, hwakes⟩
    have hconnecting : Sound next tidy (standing { start with phase := .connecting }) :=
      hsound.setPhase .connecting Phase.noConfusion
    rw [hstart]
    dsimp only
    split
    · exact hconnecting.setPhase .disconnected Phase.noConfusion
    · split
      · exact hconnecting.setPhase .disconnected Phase.noConfusion
      · rename_i octets _ _
        have hattempt := @sound_newAttempt next tidy ((({ start with phase := .connecting }.log .info
          s!"Connecting to {start.address} on RFCOMM channel {start.channel}").log .debug
          s!"bdaddr (sockaddr_rc order): {Hex.encode octets}").note
          (.opened (Address.text octets) start.channel)) hconnecting hcurrent hidle id hlt
        exact hattempt (hcalls ▸ hnew) actions ending answer

/-- An attempt waits only while no session is in use. -/
def Exclusive (link : Link) : Prop :=
  ∀ call ∈ link.calls, call.socket?.isSome → link.current = none

lemma mem_calls_standing {call : Call} {socket : ℕ} (hmem : call ∈ link.calls)
    (hsocket : call.socket? = some socket) : (call.id, some socket) ∈ (standing link).calls :=
  List.mem_map.mpr ⟨call, hmem, by rw [hsocket]⟩

lemma sound_answerYoungest (h : Sound next tidy (standing link)) (hwakes : link.wakes = [])
    (htidy : tidy → Exclusive link)
    (answer : Answer) : Sound next tidy (standing (link.answerYoungest answer)) := by
  unfold answerYoungest
  split
  · exact h
  · rename_i call hfind
    have hmem : call ∈ link.calls := List.mem_reverse.mp (List.mem_of_find?_eq_some hfind)
    split
    · exact h
    · exact h
    · rename_i socket hsocket hlater
      have hleaving : (standing link).isLeaving = false := by
        simp [standing, hwakes]
      exact sound_answerAttempt h (mem_calls_standing hmem hsocket) (standing_removeCall _) hleaving
        (fun ht => htidy ht call hmem (by rw [hsocket]; rfl)) _ _ hlater

lemma sound_cancel (h : Sound next tidy (standing link)) (id : ℕ) :
    Sound next tidy (standing (link.cancel id)) := by
  unfold cancel
  split
  · exact h
  · rename_i call hfind
    obtain ⟨hmem, rfl⟩ := mem_of_find?_id hfind
    dsimp only
    split
    · rename_i socket hstage
      have hcall := @mem_calls_standing _ _ socket hmem (by rw [Call.socket?, hstage])
      have hopen : link.isOpen socket := h.attempt_open socket (Sound.mem_attempts hcall)
      have hdropped := h.dropAttempt hcall
      have hstanding := @standing_dropSocket (link.removeCall call.id) _ (lt_of_isOpen hopen)
      rw [standing_removeCall] at hstanding
      exact (sound_of_eq hdropped hstanding).setPhase .disconnected Phase.noConfusion
    · rename_i hstage
      exact sound_abandon (sound_removeCall h hmem (by rw [Call.socket?, hstage])) ..
    · rename_i hstage
      exact sound_abandon (sound_removeCall h hmem (by rw [Call.socket?, hstage])) ..

/-! ### The device -/

lemma Sound.readEnd {st : Standing} (h : Sound next tidy st) (reading : Bool)
    (hreading : ∀ session, st.isReading session → reading) :
    Sound next tidy { st with
      isReading := fun _ => false
      phase := if reading then .closed else st.phase } := by
  refine { h with
    attempt_idle := fun socket hmem => ⟨rfl, (h.attempt_idle socket hmem).2⟩
    stopped := fun session hcurrent howned => ⟨rfl, (h.stopped session hcurrent howned).2⟩
    closed := fun session hclosed => ⟨rfl, (h.closed session hclosed).2⟩
    active_current := fun hactive => ?_
    active_reading := fun session hactive howned => ?_ }
  · dsimp only at hactive
    split at hactive
    · cases hactive
    · exact h.active_current hactive
  · -- an active link has a reader, so it does not stay active
    dsimp only at hactive
    split at hactive
    · cases hactive
    · rename_i hnone
      exact (hnone (hreading session (h.active_reading session hactive howned))).elim

lemma Sound.readError {st : Standing} (h : Sound next tidy st) (session : ℕ) :
    Sound next tidy { st with
      isReading := Function.update st.isReading session false
      phase := .closed } := by
  have hquiet : ∀ other, st.isReading other = false →
      Function.update st.isReading session false other = false := by
    intro other hother
    by_cases heq : other = session
    · simp [heq]
    · rwa [Function.update_of_ne heq]
  exact { h with
    attempt_idle := fun socket hmem => (h.attempt_idle socket hmem).imp_left (hquiet socket)
    stopped := fun other hcurrent howned => (h.stopped other hcurrent howned).imp_left (hquiet other)
    closed := fun other hclosed => (h.closed other hclosed).imp_left (hquiet other)
    active_current := fun hactive => by cases hactive
    active_reading := fun _ hactive => by cases hactive }

lemma hasReader_of_isReading {session : ℕ} (h : link.isReading session) : link.hasReader := by
  unfold isReading at h
  cases hfound : link.sessions[session]? with
  | none => simp [hfound] at h
  | some found =>
    rw [hfound] at h
    exact List.any_eq_true.mpr ⟨found, List.mem_of_getElem? hfound, h⟩

lemma hasReader_eq_false (h : ∀ session, link.isReading session = false) :
    link.hasReader = false := by
  refine List.any_eq_false.mpr fun session hmem => ?_
  obtain ⟨i, hi⟩ := List.getElem?_of_mem hmem
  have hreading := h i
  rw [isReading, hi] at hreading
  exact Bool.eq_false_iff.mp hreading

/-! ### Events, steps and runs -/

/-- What an event does by itself keeps what holds of the sessions. -/
lemma sound_act (h : Sound link.clock tidy (standing link)) (hwakes : link.wakes = [])
    (htidy : tidy → Exclusive link)
    (event : Event) : Sound (link.clock + 1) tidy (standing (link.act link.clock event)) := by
  have hnew : link.clock ∉ link.calls.map Call.id := by
    intro hmem
    obtain ⟨call, hcall, heq⟩ := List.mem_map.mp hmem
    exact absurd (id_lt_of_mem h hcall) (by omega)
  replace h := h.mono (Nat.le_succ _)
  cases event with
  | connect answer => exact sound_connect h hwakes (Nat.lt_succ_self _) hnew ..
  | answer answer => exact sound_answerYoungest h hwakes htidy answer
  | cancel call => exact sound_cancel h call
  | disconnect => exact sound_hangUp h
  | scope messages raises answer => exact sound_connect h hwakes (Nat.lt_succ_self _) hnew ..
  | send messages => exact sound_perform h (Nat.lt_succ_self _) hnew ..
  | deviceSends octets => exact sound_of_eq h (standing_read octets)
  | deviceCloses =>
    have hend := h.readEnd link.hasReader fun _ => hasReader_of_isReading
    exact sound_of_eq hend standing_readEnd
  | readFails error =>
    rcases @exists_standing_readError link error with heq | ⟨session, heq⟩
    · exact sound_of_eq h heq
    · exact sound_of_eq (h.readError session) heq
  | writesFail error after => exact h
  | writesSucceed => exact h
  | holdWrites => exact h
  | releaseWrites =>
    have hmap : (link.calls.filter Call.isWriting).map (fun call : Call => Wake.call call.id) =
        ((link.calls.filter Call.isWriting).map Call.id).map Wake.call := by
      rw [List.map_map]
      rfl
    change Sound _ _ (standing (Link.wake { link with writesHeld := false } _))
    rw [hmap, standing_wake_call]
    exact h
  | addObserver name manner fails => exact h
  | addAgain name =>
    unfold act
    dsimp only
    split <;> exact h
  | removeObserver name =>
    unfold act
    dsimp only
    split
    · exact h
    · split <;> exact h
  | openGate => exact sound_of_eq h standing_openGate
  | closeGate => exact h
  | nothing => exact h

/-- The link after an event and some of the turns that follow. -/
def momentOf (link : Link) (event : Event) (turns : ℕ) : Link :=
  drain turns (link.act link.clock event)

/-- What holds at every moment of a step. -/
def Throughout (P : Link → Prop) (link : Link) (event : Event) : Prop :=
  ∀ turns, P (momentOf link event turns)

lemma sound_throughout (h : Sound link.clock tidy (standing link)) (hwakes : link.wakes = [])
    (htidy : tidy → Exclusive link)
    (event : Event) :
    Throughout (fun moment => Sound (link.clock + 1) tidy (standing moment)) link event :=
  fun turns => drain_induction (P := fun moment => Sound (link.clock + 1) tidy (standing moment))
    (fun _ _ _ h hwakes => sound_turn h hwakes) turns _ (sound_act h hwakes htidy event)

lemma sound_step (h : Sound link.clock tidy (standing link)) (hwakes : link.wakes = [])
    (htidy : tidy → Exclusive link)
    (event : Event) :
    Sound (link.step event).clock tidy (standing (link.step event)) :=
  sound_throughout h hwakes htidy event _

lemma IsNew.sound (h : IsNew link) : Sound link.clock tidy (standing link) := by
  have hstanding : standing link =
      ⟨.disconnected, none, none, [], fun _ => false, fun _ => false, fun _ => 0, false,
        link.workers⟩ := by
    refine Standing.ext h.phase h.current h.owned ?_ ?_ ?_ ?_ ?_ rfl
    · simp [standing, h.calls]
    · funext session
      simp [standing, isOpen, h.sessions]
    · funext session
      simp [standing, isReading, h.sessions]
    · funext session
      simp [standing, crew, idle, h.sessions, h.blocked, h.wakes]
    · simp [standing, h.wakes]
  rw [hstanding]
  constructor <;> simp [Standing.attempts]

lemma run_append (link : Link) (events later : List Event) :
    link.run (events ++ later) = (link.run events).run later :=
  List.foldl_append

lemma run_concat (link : Link) (events : List Event) (event : Event) :
    link.run (events ++ [event]) = (link.run events).step event := by
  rw [run_append]
  rfl

lemma IsNew.wakes_run (h : IsNew link) (events : List Event) : (link.run events).wakes = [] := by
  cases events using List.reverseRecOn with
  | nil => exact h.wakes
  | append_singleton events event =>
    rw [run_concat]
    exact wakes_step ..

/-- What holds of the sessions in every state that a run reaches. No session is astray if no attempt
ever waited while a session was in use. -/
theorem IsNew.sound_run (h : IsNew link) (tidy : Prop) (events : List Event)
    (htidy : tidy → ∀ before after, events = before ++ after → Exclusive (link.run before)) :
    Sound (link.run events).clock tidy (standing (link.run events)) := by
  induction events using List.reverseRecOn with
  | nil => exact h.sound
  | append_singleton events event ih =>
    rw [run_concat]
    have hbefore := ih fun ht before after heq =>
      htidy ht before (after ++ [event]) (by rw [heq, List.append_assoc])
    exact sound_step hbefore (h.wakes_run events) (fun ht => htidy ht events [event] rfl) event

end PixelPanel.Proofs
