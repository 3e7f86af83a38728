import Mathlib.Data.List.Nodup
import Mathlib.Data.List.Pairwise
import PixelPanel.Proofs.Link.Actions

/-!
# Sessions in every reachable state

What holds of the sessions of a link at every moment of every run: the sockets of attempts that wait
and the socket in use are open and different; a session whose socket is closed has no reader and no
workers; the session in use has its whole crew until its tasks are stopped, and an active link has a
session in use whose reader runs.

A session is astray if its socket is open but neither in use nor that of an attempt. That happens
only if an attempt is accepted while another session is in use.
-/

namespace PixelPanel.Proofs
open Link

/-- What holds of the standing of a link at every moment. Calls are numbered below `next`; as long as
`tidy` holds, no session is astray. -/
structure Sound (next : ℕ) (tidy : Prop) (st : Standing) : Prop where
  ids : (st.calls.map Prod.fst).Nodup
  ids_lt : ∀ call ∈ st.calls, call.1 < next
  attempts : st.attempts.Nodup
  attempt_open : ∀ socket ∈ st.attempts, st.isOpen socket
  attempt_idle : ∀ socket ∈ st.attempts, st.isReading socket = false ∧ st.crew socket = 0
  attempt_ne : ∀ socket ∈ st.attempts, st.current ≠ some socket
  current_open : ∀ session, st.current = some session → st.isOpen session
  owned_current : ∀ session, st.owned = some session → st.current = some session
  owned_crew : ∀ session, st.owned = some session → st.crew session = st.workers
  stopped : ∀ session, st.current = some session → st.owned = none →
    st.isReading session = false ∧ st.crew session = 0
  closed : ∀ session, st.isOpen session = false →
    st.isReading session = false ∧ st.crew session = 0
  active_current : st.phase = .active → st.current.isSome
  active_reading : ∀ session, st.phase = .active → st.owned = some session → st.isReading session
  leaving : st.isLeaving → st.owned = none
  left : st.owned = none → st.current.isSome → st.isLeaving
  strays : tidy → ∀ session, st.isOpen session →
    st.current = some session ∨ session ∈ st.attempts

namespace Sound

variable {next : ℕ} {tidy : Prop} {st : Standing}

lemma mono {later : ℕ} (h : Sound next tidy st) (hle : next ≤ later) : Sound later tidy st where
  __ := h
  ids_lt call hmem := (h.ids_lt call hmem).trans_le hle

lemma setPhase (h : Sound next tidy st) (phase : Phase) (hphase : phase ≠ .active) :
    Sound next tidy { st with phase := phase } where
  __ := h
  active_current h := (hphase h).elim
  active_reading _ h := (hphase h).elim

/-- Nothing depends on scopes that end once there is no session in use. -/
lemma setLeaving (h : Sound next tidy st) (howned : st.owned = none) (hcurrent : st.current = none)
    (isLeaving : Bool) : Sound next tidy { st with isLeaving := isLeaving } where
  __ := h
  leaving _ := howned
  left _ hsome := by simp [hcurrent] at hsome

lemma nodup_ids_append {calls : List (ℕ × Option ℕ)} {call : ℕ × Option ℕ}
    (h : (calls.map Prod.fst).Nodup) (hnew : call.1 ∉ calls.map Prod.fst) :
    ((calls ++ [call]).map Prod.fst).Nodup := by
  rw [List.map_append, List.map_singleton]
  refine List.nodup_append.mpr ⟨h, List.pairwise_singleton .., ?_⟩
  rintro a ha b hb rfl
  rw [List.mem_singleton.mp hb] at ha
  exact hnew ha

lemma ids_append_lt (h : Sound next tidy st) {call : ℕ × Option ℕ} (hlt : call.1 < next) :
    ∀ other ∈ st.calls ++ [call], other.1 < next := by
  intro other hmem
  rcases List.mem_append.mp hmem with hmem | hmem
  · exact h.ids_lt other hmem
  · rw [List.mem_singleton.mp hmem]
    exact hlt

/-- A call that begins to wait, but not for the device. -/
lemma addCall (h : Sound next tidy st) {id : ℕ} (hlt : id < next)
    (hnew : id ∉ st.calls.map Prod.fst) :
    Sound next tidy { st with calls := st.calls ++ [(id, none)] } := by
  have hattempts : ({ st with calls := st.calls ++ [(id, none)] } : Standing).attempts =
      st.attempts := by
    simp [Standing.attempts]
  exact { h with
    ids := nodup_ids_append h.ids hnew
    ids_lt := h.ids_append_lt hlt
    attempts := by rw [hattempts]; exact h.attempts
    attempt_open := by rw [hattempts]; exact h.attempt_open
    attempt_idle := by rw [hattempts]; exact h.attempt_idle
    attempt_ne := by rw [hattempts]; exact h.attempt_ne
    strays := by rw [hattempts]; exact h.strays }

/-- An attempt that begins to wait on a new socket. -/
lemma addAttempt (h : Sound next tidy st) {id socket : ℕ} (hlt : id < next)
    (hnew : id ∉ st.calls.map Prod.fst) (hclosed : st.isOpen socket = false) :
    Sound next tidy { st with
      calls := st.calls ++ [(id, some socket)]
      isOpen := Function.update st.isOpen socket true } := by
  have hattempts : ({ st with
      calls := st.calls ++ [(id, some socket)]
      isOpen := Function.update st.isOpen socket true } : Standing).attempts =
      st.attempts ++ [socket] := by
    simp [Standing.attempts]
  have hne : ∀ other, st.isOpen other → other ≠ socket := by
    rintro other hopen rfl
    rw [hclosed] at hopen
    cases hopen
  have hopen : ∀ other, st.isOpen other → Function.update st.isOpen socket true other := by
    intro other hother
    rwa [Function.update_of_ne (hne other hother)]
  refine { h with
    ids := nodup_ids_append h.ids hnew
    ids_lt := h.ids_append_lt hlt
    attempts := ?_
    attempt_open := ?_
    attempt_idle := ?_
    attempt_ne := ?_
    current_open := fun session hsession => hopen session (h.current_open session hsession)
    closed := ?_
    strays := ?_ }
  · rw [hattempts]
    refine List.nodup_append.mpr ⟨h.attempts, List.pairwise_singleton .., ?_⟩
    rintro a ha b hb rfl
    exact hne a (h.attempt_open a ha) (List.mem_singleton.mp hb)
  · rw [hattempts, List.forall_mem_append]
    exact ⟨fun other hmem => hopen other (h.attempt_open other hmem), by simp⟩
  · rw [hattempts, List.forall_mem_append]
    exact ⟨h.attempt_idle, by simpa using h.closed socket hclosed⟩
  · rw [hattempts, List.forall_mem_append]
    refine ⟨h.attempt_ne, fun other hmem hcurrent => ?_⟩
    exact hne other (h.current_open other hcurrent) (List.mem_singleton.mp hmem)
  · intro other hother
    have hother' : other ≠ socket := by
      rintro rfl
      simp at hother
    exact h.closed other (by simpa [Function.update_of_ne hother'] using hother)
  · intro htidy other hother
    rw [hattempts]
    by_cases heq : other = socket
    · exact .inr (by simp [heq])
    · have hstray := h.strays htidy other (by simpa [Function.update_of_ne heq] using hother)
      exact hstray.imp_right fun hmem => List.mem_append_left _ hmem

lemma attempts_filter_sublist (id : ℕ) :
    ({ st with calls := st.calls.filter fun call => call.1 != id } : Standing).attempts.Sublist
      st.attempts :=
  List.filter_sublist.filterMap _

/-- A call that no longer waits, and did not wait for the device. -/
lemma removeCall (h : Sound next tidy st) {id : ℕ} (hid : ∀ socket, (id, some socket) ∉ st.calls) :
    Sound next tidy { st with calls := st.calls.filter fun call => call.1 != id } := by
  have hsub := @attempts_filter_sublist st id
  refine { h with
    ids := (List.filter_sublist.map _).nodup h.ids
    ids_lt := fun call hmem => h.ids_lt call (List.mem_of_mem_filter hmem)
    attempts := hsub.nodup h.attempts
    attempt_open := fun socket hmem => h.attempt_open socket (hsub.subset hmem)
    attempt_idle := fun socket hmem => h.attempt_idle socket (hsub.subset hmem)
    attempt_ne := fun socket hmem => h.attempt_ne socket (hsub.subset hmem)
    strays := fun htidy session hopen => (h.strays htidy session hopen).imp_right ?_ }
  intro hmem
  obtain ⟨call, hcall, hsocket⟩ := List.mem_filterMap.mp hmem
  refine List.mem_filterMap.mpr ⟨call, List.mem_filter.mpr ⟨hcall, ?_⟩, hsocket⟩
  rw [bne_iff_ne]
  rintro rfl
  exact hid session (hsocket ▸ hcall)

/-- A number belongs to one call. -/
lemma eq_of_id (h : Sound next tidy st) {id : ℕ} {found found' : Option ℕ}
    (hmem : (id, found) ∈ st.calls) (hmem' : (id, found') ∈ st.calls) : found = found' :=
  congrArg Prod.snd (List.inj_on_of_nodup_map h.ids hmem hmem' rfl)

/-- A socket belongs to one attempt. -/
lemma eq_of_attempt (h : Sound next tidy st) {id id' socket : ℕ}
    (hmem : (id, some socket) ∈ st.calls) (hmem' : (id', some socket) ∈ st.calls) : id = id' := by
  by_contra hne
  have hpairs := List.pairwise_filterMap.mp h.attempts
  have hsymm : Std.Symm fun a b : ℕ × Option ℕ =>
      ∀ c, a.2 = some c → ∀ d, b.2 = some d → c ≠ d :=
    ⟨fun a b hab c hc d hd => (hab d hd c hc).symm⟩
  exact hpairs.forall hmem hmem' (fun heq => hne (congrArg Prod.fst heq)) socket rfl socket rfl rfl

lemma mem_attempts {id socket : ℕ} (hmem : (id, some socket) ∈ st.calls) : socket ∈ st.attempts :=
  List.mem_filterMap.mpr ⟨_, hmem, rfl⟩

/-- The attempts that still wait when one of them is over. -/
lemma mem_attempts_filter_iff (h : Sound next tidy st) {id socket : ℕ}
    (hmem : (id, some socket) ∈ st.calls) (other : ℕ) :
    other ∈ ({ st with calls := st.calls.filter fun call => call.1 != id } : Standing).attempts ↔
      other ∈ st.attempts ∧ other ≠ socket := by
  constructor
  · intro hother
    refine ⟨(attempts_filter_sublist id).subset hother, ?_⟩
    rintro rfl
    obtain ⟨⟨id', found⟩, hcall, hfound⟩ := List.mem_filterMap.mp hother
    obtain rfl : found = some other := hfound
    obtain ⟨hcall, hne⟩ := List.mem_filter.mp hcall
    rw [bne_iff_ne] at hne
    exact hne (h.eq_of_attempt hcall hmem)
  · rintro ⟨hother, hne⟩
    obtain ⟨⟨id', found⟩, hcall, hfound⟩ := List.mem_filterMap.mp hother
    obtain rfl : found = some other := hfound
    refine List.mem_filterMap.mpr ⟨_, List.mem_filter.mpr ⟨hcall, ?_⟩, rfl⟩
    rw [bne_iff_ne]
    rintro rfl
    exact hne (Option.some.inj (h.eq_of_id hcall hmem))

/-- An attempt that is over without a session; its socket is closed. -/
lemma dropAttempt (h : Sound next tidy st) {id socket : ℕ}
    (hmem : (id, some socket) ∈ st.calls) :
    Sound next tidy { st with
      calls := st.calls.filter fun call => call.1 != id
      isOpen := Function.update st.isOpen socket false } := by
  have hiff := h.mem_attempts_filter_iff hmem
  have hopen : ∀ other, other ≠ socket → st.isOpen other →
      Function.update st.isOpen socket false other := by
    intro other hne hother
    rwa [Function.update_of_ne hne]
  refine { h with
    ids := (List.filter_sublist.map _).nodup h.ids
    ids_lt := fun call hmem => h.ids_lt call (List.mem_of_mem_filter hmem)
    attempts := (attempts_filter_sublist id).nodup h.attempts
    attempt_open := fun other hother => ?_
    attempt_idle := fun other hother => h.attempt_idle other ((hiff other).mp hother).1
    attempt_ne := fun other hother => h.attempt_ne other ((hiff other).mp hother).1
    current_open := fun session hsession => ?_
    closed := fun other hother => ?_
    strays := fun htidy other hother => ?_ }
  · obtain ⟨hattempt, hne⟩ := (hiff other).mp hother
    exact hopen other hne (h.attempt_open other hattempt)
  · refine hopen session ?_ (h.current_open session hsession)
    rintro rfl
    exact h.attempt_ne session (mem_attempts hmem) hsession
  · by_cases heq : other = socket
    · rw [heq]
      exact h.attempt_idle socket (mem_attempts hmem)
    · exact h.closed other (by simpa [Function.update_of_ne heq] using hother)
  · have hne : other ≠ socket := by
      rintro rfl
      simp at hother
    have hstray := h.strays htidy other (by simpa [Function.update_of_ne hne] using hother)
    exact hstray.imp_right fun hattempt => (hiff other).mpr ⟨hattempt, hne⟩

/-- An attempt that is accepted begins a session. -/
lemma attach (h : Sound next tidy st) {id socket : ℕ} (hmem : (id, some socket) ∈ st.calls)
    (hleaving : st.isLeaving = false) (htidy : tidy → st.current = none) :
    Sound next tidy { st with
      calls := st.calls.filter fun call => call.1 != id
      phase := .active
      current := some socket
      owned := some socket
      isReading := Function.update st.isReading socket true
      crew := Function.update st.crew socket st.workers } := by
  have hiff := h.mem_attempts_filter_iff hmem
  have hidle : ∀ other, other ≠ socket → st.isReading other = false ∧ st.crew other = 0 →
      Function.update st.isReading socket true other = false ∧
        Function.update st.crew socket st.workers other = 0 := by
    intro other hne hother
    rwa [Function.update_of_ne hne, Function.update_of_ne hne]
  refine { h with
    ids := (List.filter_sublist.map _).nodup h.ids
    ids_lt := fun call hmem => h.ids_lt call (List.mem_of_mem_filter hmem)
    attempts := (attempts_filter_sublist id).nodup h.attempts
    attempt_open := fun other hother => h.attempt_open other ((hiff other).mp hother).1
    attempt_idle := fun other hother => ?_
    attempt_ne := fun other hother heq => ((hiff other).mp hother).2 (Option.some.inj heq).symm
    current_open := ?_
    owned_current := fun session hsession => hsession
    owned_crew := ?_
    stopped := fun session _ hnone => by cases hnone
    closed := fun other hother => ?_
    active_current := fun _ => rfl
    active_reading := ?_
    leaving := fun hleft => by rw [hleaving] at hleft; cases hleft
    left := fun hnone => by cases hnone
    strays := fun ht other hother => ?_ }
  · obtain ⟨hattempt, hne⟩ := (hiff other).mp hother
    exact hidle other hne (h.attempt_idle other hattempt)
  · rintro session hsession
    obtain rfl := Option.some.inj hsession
    exact h.attempt_open _ (mem_attempts hmem)
  · rintro session hsession
    obtain rfl := Option.some.inj hsession
    simp
  · have hne : other ≠ socket := by
      rintro rfl
      have hopen := h.attempt_open other (mem_attempts hmem)
      rw [hother] at hopen
      cases hopen
    exact hidle other hne (h.closed other hother)
  · rintro session - hsession
    obtain rfl := Option.some.inj hsession
    simp
  · by_cases heq : other = socket
    · exact .inl (by rw [heq])
    · rcases h.strays ht other hother with hcurrent | hattempt
      · rw [htidy ht] at hcurrent
        cases hcurrent
      · exact .inr ((hiff other).mpr ⟨hattempt, heq⟩)

/-- The socket in use is closed when its tasks have been stopped. -/
lemma closeSocket (h : Sound next tidy st) (howned : st.owned = none) {session : ℕ}
    (hcurrent : st.current = some session) :
    Sound next tidy { st with
      phase := .disconnected
      current := none
      isOpen := Function.update st.isOpen session false } := by
  refine { h with
    attempt_open := fun socket hmem => ?_
    attempt_ne := fun _ _ => by simp
    current_open := fun _ h => by cases h
    owned_current := fun _ ho => by rw [howned] at ho; cases ho
    stopped := fun _ h => by cases h
    closed := fun other hclosed => ?_
    active_current := fun h => by cases h
    active_reading := fun _ h => by cases h
    left := fun _ h => by cases h
    strays := fun htidy other hother => ?_ }
  · have hne : socket ≠ session := fun heq => h.attempt_ne socket hmem (heq ▸ hcurrent)
    simpa [Function.update_of_ne hne] using h.attempt_open socket hmem
  · by_cases heq : other = session
    · rw [heq]
      exact h.stopped session hcurrent howned
    · exact h.closed other (by simpa [Function.update_of_ne heq] using hclosed)
  · have hne : other ≠ session := by
      rintro rfl
      simp at hother
    rcases h.strays htidy other (by simpa [Function.update_of_ne hne] using hother) with hc | ha
    · exact (hne (Option.some.inj (hc.symm.trans hcurrent))).elim
    · exact .inr ha

/-- The tasks of the session in use are stopped, and a scope waits for them. -/
lemma stopTasks (h : Sound next tidy st) {session : ℕ} (howned : st.owned = some session) :
    Sound next tidy { st with
      owned := none
      isReading := Function.update st.isReading session false
      crew := Function.update st.crew session 0
      isLeaving := true } := by
  have hidle : ∀ other, st.isReading other = false ∧ st.crew other = 0 →
      Function.update st.isReading session false other = false ∧
        Function.update st.crew session 0 other = 0 := by
    intro other hother
    by_cases heq : other = session
    · subst heq
      simp
    · simpa [Function.update_of_ne heq] using hother
  refine { h with
    attempt_idle := fun socket hmem => hidle socket (h.attempt_idle socket hmem)
    owned_current := fun _ ho => by cases ho
    owned_crew := fun _ ho => by cases ho
    stopped := fun other hcurrent _ => ?_
    closed := fun other hclosed => hidle other (h.closed other hclosed)
    active_reading := fun _ _ ho => by cases ho
    leaving := fun _ => rfl
    left := fun _ _ => rfl }
  obtain rfl := Option.some.inj ((h.owned_current session howned).symm.trans hcurrent)
  simp

end Sound

/-! ### What a call does to the sessions -/

section Calls

variable {next : ℕ} {tidy : Prop} {link : Link}

lemma sound_of_eq {st : Standing} (h : Sound next tidy st) (heq : standing link = st) :
    Sound next tidy (standing link) :=
  heq ▸ h

lemma lt_of_current {session : ℕ} (h : Sound next tidy (standing link))
    (hcurrent : link.current = some session) : session < link.sessions.length :=
  lt_of_isOpen (h.current_open session hcurrent)

/-- The socket in use may be closed whatever is known of the scopes that end. -/
lemma sound_closeSocket (isLeaving : Bool)
    (h : Sound next tidy { standing link with isLeaving := isLeaving })
    (howned : link.owned = none) : Sound next tidy (standing link.closeSocket) := by
  cases hcurrent : link.current with
  | none =>
    rw [standing_closeSocket_of_none hcurrent]
    exact (h.setLeaving howned hcurrent _).setPhase .disconnected (by decide)
  | some session =>
    have hlt := @lt_of_isOpen link _ (h.current_open session hcurrent)
    rw [standing_closeSocket hcurrent hlt]
    exact (h.closeSocket howned hcurrent).setLeaving howned rfl _

lemma sound_leave (h : Sound next tidy (standing link)) (id : ℕ) (outcome : Outcome) :
    Sound next tidy (standing (link.leave id outcome)) := by
  unfold leave
  split
  · rename_i howned
    rw [standing_finish]
    exact sound_closeSocket _ h howned
  · rename_i session howned
    have hcurrent := h.owned_current session howned
    rw [standing_wake_leaving, standing_stopTasks howned (lt_of_current h hcurrent)]
    exact h.stopTasks howned

lemma sound_conclude (h : Sound next tidy (standing link)) (id : ℕ) (ending : Ending)
    (outcome : Outcome) : Sound next tidy (standing (link.conclude id ending outcome)) := by
  unfold conclude
  split
  · exact h
  · exact sound_leave h ..
  · exact sound_leave h ..

lemma sound_retire (h : Sound next tidy (standing link)) (reason : String) :
    Sound next tidy (standing (link.retire reason)) := by
  rw [standing_retire]
  exact h.setPhase .closed (by decide)

lemma sound_abandon (h : Sound next tidy (standing link)) (id : ℕ) (ending : Ending)
    (lock : Option ℕ) (error : CallError) :
    Sound next tidy (standing (link.abandon id ending lock error)) := by
  cases lock with
  | none => exact sound_conclude h ..
  | some lock => exact sound_conclude (sound_of_eq h (standing_handOver lock)) ..

lemma sound_suspend (h : Sound next tidy (standing link)) {call : Call} (hlt : call.id < next)
    (hnew : call.id ∉ link.calls.map Call.id) (hsocket : call.socket? = none) :
    Sound next tidy (standing (link.suspend call)) := by
  rw [standing_suspend, hsocket]
  refine h.addCall hlt ?_
  simpa [standing] using hnew

lemma sound_perform (h : Sound next tidy (standing link)) {id : ℕ} (hlt : id < next)
    (hnew : id ∉ link.calls.map Call.id) (ending : Ending) (lock : Option ℕ)
    (actions : List Action) : Sound next tidy (standing (perform id ending lock actions link)) := by
  have hcalls : ∀ {link link' : Link}, standing link' = standing link →
      Sound next tidy (standing link) ∧ id ∉ link.calls.map Call.id →
      Sound next tidy (standing link') ∧ id ∉ link'.calls.map Call.id := by
    rintro link link' heq ⟨h, hnew⟩
    refine ⟨sound_of_eq h heq, ?_⟩
    have hmap : link'.calls.map Call.id = link.calls.map Call.id := by
      have hids := congrArg (fun st => st.calls.map Prod.fst) heq
      simpa only [standing, List.map_map, Function.comp_def] using hids
    rwa [hmap]
  refine perform_induction (P := fun link => Sound next tidy (standing link) ∧
    id ∉ link.calls.map Call.id) (Q := fun link => Sound next tidy (standing link))
    ?_ ?_ ?_ ?_ ?_ ?_ ?_ lock actions link ⟨h, hnew⟩
  · exact fun link message h => hcalls (standing_log ..) h
  · exact fun link lock h => hcalls (standing_handOver lock) h
  · exact fun link session rest h _ _ _ => sound_suspend h.1 hlt h.2 rfl
  · exact fun link lock socket message rest h _ _ _ => sound_suspend h.1 hlt h.2 rfl
  · exact fun link socket message h _ _ => hcalls (standing_tryWrite ..) h
  · intro link reason h _
    refine ⟨sound_retire h.1 reason, ?_⟩
    rw [calls_retire]
    exact h.2
  · exact fun link outcome h => sound_conclude h.1 ..

lemma sound_failWrite (h : Sound next tidy (standing link)) (id : ℕ) (ending : Ending)
    (lock : Option ℕ) (error : SystemError) :
    Sound next tidy (standing (link.failWrite id ending lock error)) :=
  sound_abandon (sound_retire h _) ..

lemma sound_removeCall (h : Sound next tidy (standing link)) {call : Call}
    (hmem : call ∈ link.calls) (hsocket : call.socket? = none) :
    Sound next tidy (standing (link.removeCall call.id)) := by
  rw [standing_removeCall]
  refine h.removeCall fun socket hattempt => ?_
  have hcall : (call.id, none) ∈ (standing link).calls :=
    List.mem_map.mpr ⟨call, hmem, by rw [hsocket]⟩
  cases h.eq_of_id hcall hattempt

lemma not_mem_removeCall (id : ℕ) : id ∉ (link.removeCall id).calls.map Call.id := by
  simp [removeCall]

lemma id_lt_of_mem (h : Sound next tidy (standing link)) {call : Call} (hmem : call ∈ link.calls) :
    call.id < next :=
  h.ids_lt (call.id, call.socket?) (List.mem_map.mpr ⟨call, hmem, rfl⟩)

lemma sound_resumeCall (h : Sound next tidy (standing link)) (id : ℕ) :
    Sound next tidy (standing (link.resumeCall id)) := by
  unfold resumeCall
  split
  · exact h
  · rename_i call hfind
    obtain ⟨hmem, rfl⟩ := mem_of_find?_id hfind
    have hlt := id_lt_of_mem h hmem
    split
    · exact h
    · rename_i lock hstage
      have hremoved := sound_removeCall h hmem (by rw [Call.socket?, hstage])
      exact sound_perform hremoved hlt (not_mem_removeCall _) ..
    · rename_i lock socket message hstage
      have hremoved := sound_removeCall h hmem (by rw [Call.socket?, hstage])
      have htry := sound_of_eq hremoved (standing_tryWrite socket message)
      have hnew := @not_mem_removeCall link call.id
      rw [← calls_tryWrite socket message] at hnew
      split <;> rename_i heq <;> rw [heq] at htry hnew
      · exact sound_perform htry hlt hnew ..
      · exact sound_failWrite htry ..

/-! ### Turns -/

lemma standing_pop {wake : Wake} {rest : List Wake} (hwakes : link.wakes = wake :: rest)
    (hworker : workerOf? wake = none) :
    standing { link with wakes := rest } = { standing link with
      isLeaving := rest.any Wake.isLeaving } := by
  refine Standing.ext rfl rfl rfl rfl rfl rfl ?_ rfl rfl
  funext session
  have hnot : ¬(wake.isWorkerOf session) := by
    rw [isWorkerOf_iff, hworker]
    simp
  simp only [standing, crew, hwakes, List.countP_cons, if_neg hnot, Nat.add_zero]
  rfl

/-- A turn keeps what holds of the sessions. -/
lemma sound_turn (h : Sound next tidy (standing link)) {wake : Wake} {rest : List Wake}
    (hwakes : link.wakes = wake :: rest) :
    Sound next tidy (standing ({ link with wakes := rest }.resume wake)) := by
  cases hworker : workerOf? wake with
  | some session =>
    refine sound_of_eq h (standing_resume_worker hwakes hworker ?_)
    -- a worker that can run is one of the crew, and only an open session has a crew
    by_contra hle
    have hclosed : link.isOpen session = false :=
      Bool.eq_false_iff.mpr fun hopen => hle (lt_of_isOpen hopen)
    have hcrew : link.crew session = 0 := (h.closed session hclosed).2
    rw [crew, hwakes, List.countP_cons_of_pos (isWorkerOf_iff.mpr hworker)] at hcrew
    omega
  | none =>
    have hpop := standing_pop hwakes hworker
    cases wake with
    | call id =>
      refine sound_resumeCall ?_ id
      rw [hpop]
      have hsame : rest.any Wake.isLeaving = (standing link).isLeaving := by
        simp [standing, hwakes, Wake.isLeaving]
      rw [hsame]
      exact h
    | leaving id turns outcome =>
      have hleaving : (standing link).isLeaving = true := by
        simp [standing, hwakes, Wake.isLeaving]
      have howned := h.leaving hleaving
      cases turns with
      | zero =>
        refine sound_closeSocket true ?_ howned
        rw [hpop, ← hleaving]
        exact h
      | succ turns =>
        rw [resume, standing_wake_leaving, hpop, ← hleaving]
        exact h
    | worker session => cases hworker
    | delivery going => cases hworker
    | returned listener going => cases hworker

end Calls

end PixelPanel.Proofs
