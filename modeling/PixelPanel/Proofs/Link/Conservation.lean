import PixelPanel.Proofs.Link.Beginning
import PixelPanel.Proofs.Link.SerialWrites
import PixelPanel.Proofs.Link.Stock

/-!
# No chunk is lost on the way

From the beginning of a session until another one begins, the accounts of its chunks add up at every
moment of every run: what the device sends arrives in chunks, every chunk is dropped, waits or is
taken, and whatever is taken reaches all listeners unless the gate or the end of the session holds
it up.
-/

namespace PixelPanel.Link

/-- The chunks that arrive in a session while events happen. -/
def arrivals (session : ℕ) (link : Link) : List Event → List Arrival
  | [] => []
  | event :: later => link.arrivalsWith session event ++ arrivals session (link.step event) later

/-- What the device sends to a session with an event. -/
def octetsWith (session : ℕ) (link : Link) : Event → Octets
  | .deviceSends octets => if link.current = some session then octets else []
  | _ => []

/-- What the device sends to a session until it closes the link or a read fails. -/
def received (session : ℕ) (link : Link) : List Event → Octets
  | [] => []
  | event :: later =>
    if event.endsReading then []
    else link.octetsWith session event ++ received session (link.step event) later

/-- The jobs that workers of a session take in some turns. -/
def jobsDraining (session : ℕ) : ℕ → Link → List Job
  | 0, _ => []
  | turns + 1, link =>
    match link.wakes with
    | [] => []
    | wake :: rest =>
      let next := { link with wakes := rest }.resume wake
      jobsIn session link next ++ jobsDraining session turns next

/-- The jobs that workers of a session take in some turns after an event. -/
def jobsWith (session : ℕ) (link : Link) (event : Event) (turns : ℕ) : List Job :=
  jobsDraining session turns (link.act link.clock event)

/-- The jobs that workers of a session take while events happen. -/
def jobs (session : ℕ) (link : Link) : List Event → List Job
  | [] => []
  | event :: later => link.jobsWith session event (link.act link.clock event).load ++
    jobs session (link.step event) later

end PixelPanel.Link

namespace PixelPanel.Proofs
open Link

variable {session next : ℕ} {start link : Link} {listens : Bool} {arrived : List Arrival}
  {taken : List Job}

/-! ### Events and turns -/

lemma arrivalsWith_of_ne {event : Event} (h : ∀ octets, event ≠ .deviceSends octets) :
    link.arrivalsWith session event = [] := by
  cases event <;> first | rfl | exact (h _ rfl).elim

lemma Running.act (h : Running session start listens arrived taken link)
    (hlively : Lively session link) (hsound : Sound next True (standing link))
    (hwakes : link.wakes = []) {event : Event} (hevent : event.connects → link.phase = .active)
    (id : ℕ) :
    Running session start (listens && !event.endsReading)
        (arrived ++ link.arrivalsWith session event) taken (link.act id event) ∧
      Lively session (link.act id event) := by
  by_cases hsends : ∃ octets, event = .deviceSends octets
  · obtain ⟨octets, rfl⟩ := hsends
    have hsame : (listens && !(Event.deviceSends octets).endsReading) = listens :=
      Bool.and_true listens
    rw [hsame]
    exact h.read hlively hsound hwakes octets
  · rw [arrivalsWith_of_ne fun octets heq => hsends ⟨octets, heq⟩, List.append_nil]
    by_cases hends : event.endsReading
    · rw [hends, Bool.not_true, Bool.and_false]
      cases event with
      | deviceCloses => exact h.readEnd hlively
      | readFails error => exact h.readError hlively hsound error
      | _ => cases hends
    · rw [Bool.eq_false_iff.mpr hends, Bool.not_false, Bool.and_true]
      by_cases hgate : event = .openGate
      · subst hgate
        exact h.openGate hlively
      · have hspares : Spares session link (link.act id event) :=
          (spares_act h.attempts hevent id).resolve_right (by simp [hends, hgate, hsends])
        exact ⟨h.spares hspares, hlively.spares hspares⟩

lemma Running.drain (h : Running session start listens arrived taken link)
    (hlively : Lively session link) (hsound : Sound next True (standing link)) (turns : ℕ) :
    Running session start listens arrived (taken ++ jobsDraining session turns link)
        (drain turns link) ∧
      Lively session (Link.drain turns link) := by
  induction turns generalizing link taken with
  | zero =>
    rw [jobsDraining, List.append_nil]
    exact ⟨h, hlively⟩
  | succ turns ih =>
    rw [jobsDraining, Link.drain]
    cases hwakes : link.wakes with
    | nil =>
      rw [List.append_nil]
      exact ⟨h, hlively⟩
    | cons wake rest =>
      obtain ⟨hturn, hlively'⟩ := h.turn hlively hsound hwakes
      rw [← List.append_assoc]
      exact ih hturn hlively' (sound_turn hsound hwakes)

lemma Running.exclusive (h : Running session start listens arrived taken link) : Exclusive link := by
  intro call hmem hsocket
  rw [h.attempts call hmem] at hsocket
  cases hsocket

/-- The accounts at a moment of a step. -/
lemma Running.moment (h : Running session start listens arrived taken link)
    (hlively : Lively session link) (hsound : Sound link.clock True (standing link))
    (hwakes : link.wakes = []) {event : Event} (hevent : event.connects → link.phase = .active)
    (turns : ℕ) :
    Running session start (listens && !event.endsReading)
        (arrived ++ link.arrivalsWith session event) (taken ++ link.jobsWith session event turns)
        (momentOf link event turns) ∧
      Lively session (momentOf link event turns) := by
  obtain ⟨hact, hlively'⟩ := h.act hlively hsound hwakes hevent link.clock
  exact hact.drain hlively' (sound_act hsound hwakes (fun _ => h.exclusive) event) turns

/-- A session at rest. -/
structure Settled (session : ℕ) (start : Link) (listens : Bool) (arrived : List Arrival)
    (taken : List Job) (link : Link) : Prop where
  running : Running session start listens arrived taken link
  lively : Lively session link
  sound : Sound link.clock True (standing link)
  wakes : link.wakes = []

lemma Settled.step (h : Settled session start listens arrived taken link) {event : Event}
    (hevent : event.connects → link.phase = .active) :
    Settled session start (listens && !event.endsReading)
      (arrived ++ link.arrivalsWith session event)
      (taken ++ link.jobsWith session event (link.act link.clock event).load) (link.step event) := by
  obtain ⟨hrunning, hlively⟩ := h.running.moment h.lively h.sound h.wakes hevent
    (link.act link.clock event).load
  obtain ⟨passes, underway, hconserved⟩ := hrunning.conserved
  exact ⟨{ hrunning with conserved := ⟨passes, underway, { hconserved with }⟩ }, hlively,
    sound_step h.sound h.wakes (fun _ => h.running.exclusive) event, wakes_step ..⟩

lemma Settled.run (h : Settled session start listens arrived taken link) (events : List Event)
    (hlasts : lasts link events) :
    Settled session start (listens && !events.any Event.endsReading)
      (arrived ++ link.arrivals session events) (taken ++ link.jobs session events)
      (link.run events) := by
  induction events generalizing link listens arrived taken with
  | nil =>
    rw [Link.arrivals, Link.jobs, List.append_nil, List.append_nil, List.any_nil, Bool.not_false,
      Bool.and_true]
    exact h
  | cons event later ih =>
    obtain ⟨hevent, hlater⟩ := connects_imp_of_lasts hlasts
    have hrun := ih (h.step hevent) hlater
    rw [List.append_assoc, List.append_assoc, Bool.and_assoc, ← Bool.not_or] at hrun
    exact hrun

/-- At rest only the reader of a session in use reads. -/
lemma Settled.isReading (h : Settled session start listens arrived taken link) :
    link.isReading session = (listens && decide (link.current = some session)) :=
  h.running.reader h.sound h.wakes

/-- A session has just begun. No attempt to connect waits beside it, and no earlier session is still
alive. -/
structure Begun (session : ℕ) (start : Link) : Prop where
  sound : Sound start.clock True (standing start)
  current : start.current = some session
  attempts : ∀ call ∈ start.calls, call.socket? = none
  wakes : start.wakes = []
  reading : start.isReading session
  idle : start.idle session = start.workers
  queue : start.queueOf session = []
  dropped : start.dropped = 0

lemma Begun.owned (h : Begun session start) : start.owned = some session :=
  owned_of_current h.sound h.wakes h.current

/-- Someone who waits at the gate belongs to the session in use. -/
lemma current_of_mem_blocked (hsound : Sound next True (standing link)) {going : Delivery}
    (hmem : going ∈ link.blocked) :
    0 < link.blocked.countP (fun other => other.session == going.session) ∧
      link.current = some going.session := by
  have hpos : 0 < link.blocked.countP fun other => other.session == going.session :=
    List.countP_pos_iff.mpr ⟨going, hmem, beq_self_eq_true going.session⟩
  refine ⟨hpos, ?_⟩
  by_contra hne
  have hcrew := (crew_of_ne_current hsound trivial hne).2
  rw [crew] at hcrew
  omega

lemma blocked_eq_nil (hsound : Sound next True (standing link)) (hcurrent : link.current = none) :
    link.blocked = [] := by
  refine List.eq_nil_iff_forall_not_mem.mpr fun going hmem => ?_
  cases hcurrent.symm.trans (current_of_mem_blocked hsound hmem).2

/-- Nobody waits at the gate, since all workers wait for a chunk. -/
lemma Begun.blocked (h : Begun session start) : start.blocked = [] := by
  refine List.eq_nil_iff_forall_not_mem.mpr fun going hmem => ?_
  obtain ⟨hpos, hcurrent⟩ := current_of_mem_blocked h.sound hmem
  obtain rfl := Option.some.inj (h.current.symm.trans hcurrent)
  have hall : start.crew going.session = start.workers := h.sound.owned_crew _ h.owned
  rw [crew, h.idle] at hall
  omega

/-- No chunk has arrived. -/
lemma running_of_unread (hcurrent : link.current = some session)
    (hattempts : ∀ call ∈ link.calls, call.socket? = none) (hwakes : link.wakes = [])
    (hblocked : link.blocked = []) (hreading : link.isReading session)
    (hqueue : link.queueOf session = []) (hdropped : link.dropped = 0) :
    Running session link true [] [] link ∧ Lively session link := by
  have hprogress : link.inProgress = [] := by
    rw [inProgress, hblocked, workerTurns_of_nil hwakes]
    rfl
  refine ⟨⟨⟨[], [], hdropped, ?_, ⟨[], (List.append_nil _).symm, rfl⟩, rfl,
    ⟨List.forall_mem_nil _, List.nodup_nil, List.forall_mem_nil _, ?_⟩, fun _ => ?_⟩, rfl, ?_,
    hattempts, ?_, fun _ => ?_, fun _ => hreading⟩, fun _ => .inr ?_⟩
  · rw [hqueue]
    rfl
  · exact fun id job hjob => by cases hjob
  · rw [hprogress]
    exact List.Perm.refl _
  · intro hpos
    rw [hqueue]
    exact hpos.le
  · exact fun other hother => Option.some.inj (hother.symm.trans hcurrent)
  · rw [hblocked]
    exact List.forall_mem_nil _
  · rw [hqueue]
    exact Nat.zero_le _

lemma Begun.settled (h : Begun session start) : Settled session start true [] [] start := by
  obtain ⟨hrunning, hlively⟩ := running_of_unread h.current h.attempts h.wakes h.blocked h.reading
    h.queue h.dropped
  exact ⟨hrunning, hlively, h.sound, h.wakes⟩

/-- Where no chunk has arrived yet, all workers wait for one. -/
lemma Settled.begun (h : Settled session start true [] taken link)
    (hcurrent : link.current = some session) : Begun session link := by
  have howned := owned_of_current h.sound h.wakes hcurrent
  obtain ⟨passes, underway, hconserved⟩ := h.running.conserved
  obtain ⟨htaken, hqueue⟩ := List.append_eq_nil_iff.mp hconserved.accepted.symm
  rw [List.map_eq_nil_iff] at htaken
  have hblocked : link.blocked = [] := by
    have hnone : underway = [] := by
      refine List.eq_nil_iff_forall_not_mem.mpr fun one hmem => ?_
      obtain ⟨job, hjob, -⟩ := hconserved.rota.rest one hmem
      rw [htaken] at hjob
      cases hjob
    have htasks := hconserved.tasks howned
    rw [hnone, inProgress, List.map_nil, List.nil_perm] at htasks
    exact (List.append_eq_nil_iff.mp htasks).1
  have hcrew : link.crew session = link.workers := h.sound.owned_crew session howned
  rw [crew, hblocked, h.wakes] at hcrew
  exact ⟨h.sound, hcurrent, h.running.attempts, h.wakes, h.running.reading howned, hcrew, hqueue,
    hconserved.dropped⟩

/-- A session begins when an attempt succeeds beside which no other one waits; it has begun if the call
that has connected leaves it in use. -/
lemma begun_attach (hsound : Sound link.clock True (standing link)) (hwakes : link.wakes = [])
    (hexclusive : Exclusive link) {event : Event} {before : Link} {id socket : ℕ}
    {actions : List Action} {ending : Ending}
    (hact : link.act link.clock event = before.attach id socket actions ending)
    (hlt : socket < before.sessions.length)
    (hattempts : ∀ call ∈ before.calls, call.socket? = none) (hquiet : before.wakes = [])
    (hblocked : before.blocked = []) (hcurrent : (link.step event).current = some session) :
    Begun session (link.step event) := by
  have hfresh : (attached before socket).isReading socket = true ∧
      (attached before socket).queueOf socket = [] := by
    simp [isReading, queueOf, attached, modifySession, List.getElem?_eq_getElem hlt]
  obtain ⟨hrunning, hlively⟩ := @running_of_unread socket (attached before socket) rfl hattempts
    hquiet hblocked hfresh.1 hfresh.2 rfl
  have hspares : Spares socket (attached before socket) (link.act link.clock event) := by
    rw [hact, attach_eq]
    exact ((spares_note rfl).trans (spares_note rfl)).trans (spares_perform ..)
  obtain ⟨hdrained, hlively'⟩ := (hrunning.spares hspares).drain (hlively.spares hspares)
    (sound_act hsound hwakes (fun _ => hexclusive) event) (link.act link.clock event).load
  obtain ⟨passes, underway, hconserved⟩ := hdrained.conserved
  have hsettled : Settled socket (attached before socket) true [] _ (link.step event) :=
    ⟨{ hdrained with conserved := ⟨passes, underway, { hconserved with }⟩ }, hlively',
      sound_step hsound hwakes (fun _ => hexclusive) event, wakes_step ..⟩
  obtain rfl := hsettled.running.current session hcurrent
  exact hsettled.begun hcurrent

/-- A connection that the device accepts at once begins a session, also that of a scope. -/
theorem begun_connect (hsound : Sound link.clock True (standing link)) (hwakes : link.wakes = [])
    (hattempts : ∀ call ∈ link.calls, call.socket? = none)
    (hphase : link.phase = .disconnected ∨ link.phase = .closed)
    (haddress : (Address.ofText? link.address.toList).isSome) {event : Event}
    {actions : List Action} {ending : Ending}
    (hact : link.act link.clock event = link.connect link.clock actions ending .accepted)
    (hcurrent : (link.step event).current = some session) : Begun session (link.step event) := by
  have hexclusive : Exclusive link := fun call hmem hsome => by
    rw [hattempts call hmem] at hsome
    cases hsome
  have hblocked := blocked_eq_nil (sound_cleaned hsound) (current_cleaned link)
  obtain ⟨notes, hconnect⟩ := exists_connect_eq hphase haddress link.clock actions ending
  refine begun_attach hsound hwakes hexclusive (hact.trans hconnect) ?_ ?_ (wakes_cleaned hwakes)
    hblocked hcurrent
  · rw [dialling, List.length_append]
    exact Nat.lt_succ_self _
  · change ∀ call ∈ link.cleaned.calls, _
    rw [calls_cleaned]
    exact hattempts

/-- A connection that the device accepts later begins a session too. -/
theorem begun_answer (hsound : Sound link.clock True (standing link)) (hwakes : link.wakes = [])
    (hcurrent : link.current = none) {call : Call}
    (hfind : (link.calls.reverse.find? fun call => call.socket?.isSome) = some call)
    (honly : ∀ other ∈ link.calls, other.socket?.isSome → other.id = call.id)
    (huse : (link.step (.answer .accepted)).current = some session) :
    Begun session (link.step (.answer .accepted)) := by
  have hmem := List.mem_reverse.mp (List.mem_of_find?_eq_some hfind)
  have hsome := @List.find?_some _ (fun call : Call => call.socket?.isSome) _ _ hfind
  obtain ⟨socket, hsocket⟩ := Option.isSome_iff_exists.mp hsome
  have hopen : link.isOpen socket :=
    hsound.attempt_open socket (Sound.mem_attempts (mem_calls_standing hmem hsocket))
  have hact : link.act link.clock (.answer .accepted) =
      (link.removeCall call.id).attach call.id socket call.actions call.ending := by
    rw [act, answerYoungest, hfind]
    dsimp only
    rw [hsocket]
    rfl
  have hblocked := blocked_eq_nil hsound hcurrent
  refine begun_attach hsound hwakes (fun _ _ _ => hcurrent) hact (lt_of_isOpen hopen)
    (fun other hother => ?_) hwakes hblocked huse
  rw [removeCall, List.mem_filter, bne_iff_ne] at hother
  by_contra hsome
  exact hother.2 (honly other hother.1 (Option.isSome_iff_ne_none.mpr hsome))

/-! ### A whole session -/

/-- When nothing more can happen without another event, the jobs under way are held up at the gate, and
a chunk waits only if all workers are. -/
lemma Running.at_rest (h : Running session start listens arrived taken link)
    (hlively : Lively session link) (hsound : Sound next True (standing link))
    (hwakes : link.wakes = []) (howned : link.owned = some session) {passes : List Pass}
    {underway : List (ℕ × Delivery)}
    (hconserved : Conserved session start arrived taken passes underway link) :
    (∀ one ∈ underway, AtGate link one.2) ∧
      (link.queueOf session ≠ [] → underway.length = link.workers) := by
  have hall : (underway.map Prod.snd).Perm link.blocked := by
    have htasks := hconserved.tasks howned
    rwa [inProgress, workerTurns_of_nil hwakes, List.filterMap_nil, List.append_nil] at htasks
  refine ⟨fun one hmem => ?_, fun hqueue => ?_⟩
  · exact h.gate howned one.2 (hall.mem_iff.mp (List.mem_map_of_mem hmem))
  · -- a worker that waits for a chunk would have been woken
    have hidle : link.idle session = 0 := by
      refine (hlively howned).resolve_right fun hle => hqueue ?_
      rw [workerTurns_of_nil hwakes] at hle
      exact List.length_eq_zero_iff.mp (Nat.le_zero.mp hle)
    have hsame : ∀ going ∈ link.blocked, (going.session == session) = true := by
      intro going hmem
      obtain ⟨one, hone, rfl⟩ := List.mem_map.mp (hall.mem_iff.mpr hmem)
      obtain ⟨job, -, hsession, -⟩ := hconserved.rota.rest one hone
      exact beq_iff_eq.mpr hsession
    have hcrew : link.crew session = link.workers := hsound.owned_crew session howned
    rw [crew, hidle, List.countP_eq_length.mpr hsame, hwakes, ← hall.length_eq,
      List.length_map] at hcrew
    exact (Nat.zero_add _).symm.trans hcrew

end PixelPanel.Proofs
