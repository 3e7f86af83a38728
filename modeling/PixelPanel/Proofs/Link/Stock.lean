import PixelPanel.Proofs.Link.Arrivals
import PixelPanel.Proofs.Link.Bystanders
import PixelPanel.Proofs.Link.OneSession

/-!
# The chunks of a session, turn by turn

In a session chunks arrive, wait in the queue and are taken. At every moment each chunk that has
arrived was lost, waits or has become a job, and the workers are busy with the jobs that are under
way. Whatever happens keeps it so.
-/

namespace PixelPanel.Link

/-- Whether the device ends the reading. -/
def Event.endsReading : Event → Bool
  | .deviceCloses | .readFails _ => true
  | _ => false

/-- The chunks that arrive in a session with an event. -/
def arrivalsWith (session : ℕ) (link : Link) : Event → List Arrival
  | .deviceSends octets =>
    if link.isReading session then arriving session (chunks octets) link else []
  | _ => []

/-- The chunks that leave the queue of a session from one state to another. -/
def jobsIn (session : ℕ) (link link' : Link) : List Job :=
  ((link.queueOf session).take
    ((link.queueOf session).length - (link'.queueOf session).length)).map fun chunk =>
      ⟨chunk, link.listeners⟩

end PixelPanel.Link

namespace PixelPanel.Proofs
open Link

/-- The accounts of a session. Every chunk that has arrived was lost, or has become a job or waits in
the queue, in the order of arrival. The jobs were passed to their listeners, and while the session has
its tasks, its workers are busy with the jobs that are under way. -/
structure Conserved (session : ℕ) (start : Link) (arrivals : List Arrival) (jobs : List Job)
    (passes : List Pass) (underway : List (ℕ × Delivery)) (link : Link) : Prop where
  dropped : link.dropped = arrivals.countP (Arrival.isLost start.capacity)
  accepted : accepted start.capacity arrivals = jobs.map Job.chunk ++ link.queueOf session
  trace : ∃ notes, link.trace = start.trace ++ notes ∧ Fit passes notes
  inbox : link.inbox = passes.foldl Pass.reach start.inbox
  rota : Rota session jobs passes underway
  tasks : link.owned = some session → (underway.map Prod.snd).Perm link.inProgress

/-- A session at a moment. While it has its tasks, its reader listens or has come to its end, and
workers that have stopped with a chunk wait at the gate. -/
structure Running (session : ℕ) (start : Link) (listens : Bool) (arrivals : List Arrival)
    (jobs : List Job) (link : Link) : Prop where
  conserved : ∃ passes underway, Conserved session start arrivals jobs passes underway link
  capacity : link.capacity = start.capacity
  room : HasRoom session link
  attempts : ∀ call ∈ link.calls, call.socket? = none
  current : ∀ other, link.current = some other → other = session
  gate : link.owned = some session → ∀ going ∈ link.blocked, AtGate link going
  reading : link.owned = some session → link.isReading session = listens

/-- No worker is idle beside a chunk that nobody will take. -/
def Lively (session : ℕ) (link : Link) : Prop :=
  link.owned = some session → link.idle session = 0 ∨
    (link.queueOf session).length ≤ link.workerTurns.count (.worker session)

variable {session next : ℕ} {start link link' : Link} {listens : Bool} {arrivals : List Arrival}
  {jobs : List Job}

/-! ### Where nothing happens to the chunks -/

lemma inProgress_congr (hblocked : link'.blocked = link.blocked)
    (hturns : link'.workerTurns = link.workerTurns) : link'.inProgress = link.inProgress := by
  rw [inProgress, inProgress, hblocked, hturns]

lemma Spares.same (h : Spares session link link') (howned : link'.owned = some session) :
    SameTasks session link link' ∧ link.owned = some session := by
  rcases h.tasks with hnone | hsame
  · cases hnone.symm.trans howned
  · exact ⟨hsame, hsame.owned.symm.trans howned⟩

lemma Lively.spares (h : Lively session link) (hspares : Spares session link link') :
    Lively session link' := by
  intro howned
  obtain ⟨hsame, hbefore⟩ := hspares.same howned
  rw [hsame.idle, hspares.queue, hsame.turns]
  exact h hbefore

lemma Running.spares (h : Running session start listens arrivals jobs link)
    (hspares : Spares session link link') : Running session start listens arrivals jobs link' := by
  refine ⟨?_, hspares.capacity.trans h.capacity, ?_, ?_, ?_, ?_, ?_⟩
  · obtain ⟨passes, underway, hconserved⟩ := h.conserved
    obtain ⟨notes, htrace, hfit⟩ := hconserved.trace
    obtain ⟨more, hmore, hquiet⟩ := hspares.exists_trace
    refine ⟨passes, underway, hspares.dropped.trans hconserved.dropped, ?_,
      ⟨notes ++ more, by rw [hmore, htrace, List.append_assoc], hfit.quiet hquiet⟩,
      hspares.inbox.trans hconserved.inbox, hconserved.rota, fun howned => ?_⟩
    · rw [hspares.queue]
      exact hconserved.accepted
    · -- what the workers are busy with matters only as long as the session has its tasks
      obtain ⟨hsame, hbefore⟩ := hspares.same howned
      rw [inProgress_congr hsame.blocked hsame.turns]
      exact hconserved.tasks hbefore
  · intro hpos
    rw [hspares.queue, hspares.capacity] at *
    exact h.room hpos
  · exact fun call hmem => (hspares.attempts call hmem).elim (h.attempts call) id
  · exact fun other hcurrent => h.current other (hspares.current other hcurrent)
  · intro howned going hmem
    obtain ⟨hsame, hbefore⟩ := hspares.same howned
    rw [hsame.blocked] at hmem
    obtain ⟨hclosed, hgated⟩ := h.gate hbefore going hmem
    refine ⟨Bool.eq_false_iff.mpr fun hopen => ?_, hgated⟩
    exact Bool.false_ne_true (hclosed.symm.trans (hsame.gate hopen))
  · intro howned
    obtain ⟨hsame, hbefore⟩ := hspares.same howned
    exact hsame.reading.trans (h.reading hbefore)

lemma jobsIn_eq {done : List Octets}
    (h : link.queueOf session = done ++ link'.queueOf session) :
    jobsIn session link link' = done.map fun chunk => ⟨chunk, link.listeners⟩ := by
  rw [jobsIn, h, List.length_append, Nat.add_sub_cancel, List.take_left']
  rfl

/-! ### Turns -/

/-- The only workers that take turns are those of the session, and they do it only while the session
has its tasks. -/
lemma Running.owned_of_worker (h : Running session start listens arrivals jobs link)
    (hsound : Sound next True (standing link)) {wake : Wake} (hmem : wake ∈ link.wakes) {owner : ℕ}
    (hworker : workerOf? wake = some owner) : owner = session ∧ link.owned = some session := by
  have hpos : link.crew owner ≠ 0 := by
    have hcount := List.countP_pos_iff.mpr ⟨wake, hmem, isWorkerOf_iff.mpr hworker⟩
    rw [crew]
    omega
  have hcurrent : link.current = some owner := by
    by_contra hne
    exact hpos (crew_of_ne_current hsound trivial hne).2
  obtain rfl := h.current owner hcurrent
  refine ⟨rfl, ?_⟩
  cases howned : link.owned with
  | none => exact (hpos (hsound.stopped owner hcurrent howned).2).elim
  | some other => exact (hsound.owned_current other howned).symm.trans hcurrent

/-- What a worker does not touch. -/
lemma kept_of_works (h : Works session link link') :
    link'.dropped = link.dropped ∧ link'.capacity = link.capacity ∧ link'.calls = link.calls ∧
      link'.current = link.current ∧ link'.owned = link.owned ∧ link'.isReading = link.isReading ∧
      link'.workerTurns.count (.worker session) = link.workerTurns.count (.worker session) := by
  obtain ⟨inbox, notes, idle, wakes, blocked, change, -, hparked, hchange, rfl⟩ := h
  refine ⟨rfl, rfl, rfl, rfl, rfl, getD_map_modify_of_eq Session.reading false hchange.reading, ?_⟩
  rw [workerTurns, List.filter_append, List.count_append]
  change link.workerTurns.count _ + _ = _
  cases hparked <;> simp [workerOf?]

lemma Running.turn (h : Running session start listens arrivals jobs link)
    (hlively : Lively session link) (hsound : Sound next True (standing link)) {wake : Wake}
    {rest : List Wake} (hwakes : link.wakes = wake :: rest) :
    Running session start listens arrivals
        (jobs ++ jobsIn session link ({ link with wakes := rest }.resume wake))
        ({ link with wakes := rest }.resume wake) ∧
      Lively session ({ link with wakes := rest }.resume wake) := by
  cases hworker : workerOf? wake with
  | none =>
    -- a call goes on, which takes nothing from the queue
    have hspares := @spares_turn session link wake rest hwakes hworker
    have hkept : link.queueOf session =
        [] ++ ({ link with wakes := rest }.resume wake).queueOf session := hspares.queue.symm
    rw [jobsIn_eq hkept, List.map_nil, List.append_nil]
    exact ⟨h.spares hspares, hlively.spares hspares⟩
  | some owner =>
    obtain ⟨rfl, howned⟩ := h.owned_of_worker hsound (hwakes ▸ List.mem_cons_self) hworker
    obtain ⟨passes, underway, hconserved⟩ := h.conserved
    obtain ⟨done, later, hqueue, hdealing, hleft⟩ := turn_advances hwakes hworker
      ⟨hconserved.trace, hconserved.inbox, ⟨underway, hconserved.rota, hconserved.tasks howned⟩,
        h.gate howned⟩
    obtain ⟨hdropped, hcapacity, hcalls, hcurrent, howned', hreading, hcount⟩ :=
      kept_of_works (@resume_works { link with wakes := rest } _ _ hworker)
    obtain ⟨underway', hrota, hall⟩ := hdealing.carries
    have hchunks : (done.map fun chunk => (⟨chunk, link.listeners⟩ : Job)).map Job.chunk = done := by
      rw [List.map_map]
      exact List.map_id done
    have hlength := congrArg List.length hqueue
    rw [List.length_append] at hlength
    rw [jobsIn_eq hqueue]
    refine ⟨⟨⟨later, underway', hdropped.trans hconserved.dropped, ?_, hdealing.trace,
      hdealing.inbox, hrota, fun _ => hall⟩, hcapacity.trans h.capacity, ?_, ?_, ?_,
      fun _ => hdealing.gate, fun _ => ?_⟩, fun _ => ?_⟩
    · rw [hconserved.accepted, hqueue, List.map_append, hchunks, List.append_assoc]
    · intro hpos
      rw [hcapacity] at hpos ⊢
      have hle := h.room hpos
      change _ ≤ link.capacity
      omega
    · rw [hcalls]
      exact h.attempts
    · rw [hcurrent]
      exact h.current
    · rw [hreading]
      exact h.reading howned
    · rcases hleft with hnone | ⟨hidle, hleast⟩
      · rw [hnone]
        exact .inr (Nat.zero_le _)
      · -- the worker has taken the chunk for which it was woken
        refine (hlively howned).imp hidle.trans fun hle => ?_
        simp only [workerTurns_cons hwakes hworker, List.count_cons, beq_iff_eq] at hle
        rw [hcount]
        omega

/-! ### The reader -/

/-- As many workers are woken as there are chunks for them. -/
lemma rouse_eq_wake (hlt : session < link.sessions.length) :
    link.rouse session = (link.modifySession session fun found =>
        { found with idle := found.idle - min (link.idle session) (link.queueOf session).length }).wake
      (List.replicate (min (link.idle session) (link.queueOf session).length) (.worker session)) := by
  have hfound := List.getElem?_eq_getElem hlt
  have hidle : link.idle session = link.sessions[session].idle := by
    rw [Link.idle, hfound]
    rfl
  have hqueue : link.queueOf session = link.sessions[session].queue := by
    rw [queueOf, hfound]
    rfl
  rw [rouse, hfound, hidle, hqueue]

/-- At rest only the session in use has a reader. -/
lemma Running.reader (h : Running session start listens arrivals jobs link)
    (hsound : Sound next True (standing link)) (hwakes : link.wakes = []) :
    link.isReading session = (listens && decide (link.current = some session)) := by
  by_cases hcurrent : link.current = some session
  · rw [h.reading (owned_of_current hsound hwakes hcurrent), decide_eq_true hcurrent, Bool.and_true]
  · rw [(crew_of_ne_current hsound trivial hcurrent).1, decide_eq_false hcurrent, Bool.and_false]

lemma Running.isReading_of_ne (h : Running session start listens arrivals jobs link)
    (hsound : Sound next True (standing link)) {other : ℕ} (hne : other ≠ session) :
    link.isReading other = false :=
  (crew_of_ne_current hsound trivial fun hcurrent => hne (h.current other hcurrent)).1

lemma rouse_spec (hlt : session < link.sessions.length) (hwakes : link.wakes = []) :
    (link.rouse session).queueOf session = link.queueOf session ∧
      (link.rouse session).idle session =
        link.idle session - min (link.idle session) (link.queueOf session).length ∧
      (link.rouse session).isReading session = link.isReading session ∧
      (link.rouse session).workerTurns =
        List.replicate (min (link.idle session) (link.queueOf session).length) (.worker session) := by
  rw [rouse_eq_wake hlt]
  generalize min (link.idle session) (link.queueOf session).length = count
  refine ⟨?_, ?_, ?_, ?_⟩
  · refine queueOf_modifySession_of_eq ?_ session session
    exact fun _ => rfl
  · have hidle := congrFun (@getD_map_modify link.sessions
      (fun found => { found with idle := found.idle - count }) session _ Session.idle 0
      (link.idle session - count) (fun found hfound => by rw [Link.idle, hfound]; rfl) hlt) session
    exact hidle.trans (Function.update_self ..)
  · refine congrFun (getD_map_modify_of_eq Session.reading false ?_) session
    exact fun _ => rfl
  · have hnone : (link.modifySession session fun found =>
        { found with idle := found.idle - count }).workerTurns = [] := workerTurns_of_nil hwakes
    rw [workerTurns_wake, hnone, List.nil_append]
    exact List.filter_eq_self.mpr fun wake hmem => by rw [List.eq_of_mem_replicate hmem]; rfl

lemma heard_fromReader {capacity : ℤ} {notes : List Note}
    (h : ∀ seen ∈ notes, FromReader capacity arrivals seen) : notes.filterMap Note.heard? = [] := by
  refine List.filterMap_eq_nil_iff.mpr fun seen hmem => ?_
  obtain ⟨entry, rfl, -⟩ := h seen hmem
  rfl

lemma Running.arrive (h : Running session start listens arrivals jobs link)
    (hlt : session < link.sessions.length) (more : List Arrival) {notes : List Note}
    (hquiet : notes.filterMap Note.heard? = [])
    (hroom : HasRoom session (withArrivals link session more notes)) :
    Running session start listens (arrivals ++ more) jobs (withArrivals link session more notes) := by
  refine ⟨?_, h.capacity, hroom, h.attempts, h.current, h.gate, fun howned => ?_⟩
  · obtain ⟨passes, underway, hconserved⟩ := h.conserved
    obtain ⟨before, htrace, hfit⟩ := hconserved.trace
    refine ⟨passes, underway, ?_, ?_, ⟨before ++ notes, ?_, hfit.quiet hquiet⟩, hconserved.inbox,
      hconserved.rota, hconserved.tasks⟩
    · rw [withArrivals, h.capacity, hconserved.dropped, List.countP_append]
    · rw [queueOf_withArrivals hlt, accepted_append, hconserved.accepted, h.capacity,
        List.append_assoc]
    · rw [withArrivals, htrace, List.append_assoc]
  · refine (congrFun (getD_map_modify_of_eq Session.reading false ?_) session).trans
      (h.reading howned)
    exact fun _ => rfl

/-- A change of sessions and of turns to come that leaves the queue and the deliveries alone. -/
lemma Running.change {sessions : List Session} {wakes : List Wake} {listens' : Bool}
    (h : Running session start listens arrivals jobs link)
    (hqueue : queueOf { link with sessions := sessions, wakes := wakes } session =
      link.queueOf session)
    (hturns : (workerTurns { link with sessions := sessions, wakes := wakes }).filterMap Wake.going? =
      link.workerTurns.filterMap Wake.going?)
    (hreading : link.owned = some session →
      isReading { link with sessions := sessions, wakes := wakes } session = listens') :
    Running session start listens' arrivals jobs
      { link with sessions := sessions, wakes := wakes } := by
  refine ⟨?_, h.capacity, ?_, h.attempts, h.current, h.gate, hreading⟩
  · obtain ⟨passes, underway, hconserved⟩ := h.conserved
    refine ⟨passes, underway, hconserved.dropped, ?_, hconserved.trace, hconserved.inbox,
      hconserved.rota, fun howned => ?_⟩
    · rw [hqueue]
      exact hconserved.accepted
    · rw [inProgress, hturns]
      exact hconserved.tasks howned
  · intro hpos
    rw [hqueue]
    exact h.room hpos

lemma Running.rouse (h : Running session start listens arrivals jobs link)
    (hlt : session < link.sessions.length) (hwakes : link.wakes = []) :
    Running session start listens arrivals jobs (link.rouse session) ∧
      Lively session (link.rouse session) := by
  obtain ⟨hqueue, hidle, hreading, hturns⟩ := rouse_spec hlt hwakes
  refine ⟨?_, fun _ => ?_⟩
  · have hgoing : (link.rouse session).workerTurns.filterMap Wake.going? =
        link.workerTurns.filterMap Wake.going? := by
      rw [hturns, workerTurns_of_nil hwakes]
      exact List.filterMap_eq_nil_iff.mpr fun wake hmem => by rw [List.eq_of_mem_replicate hmem]; rfl
    rw [rouse_eq_wake hlt] at hqueue hgoing hreading ⊢
    exact h.change hqueue hgoing fun howned => hreading.trans (h.reading howned)
  · rw [hidle, hqueue, hturns, List.count_replicate_self]
    omega

/-- What the device sends arrives, and workers are woken for it. -/
lemma Running.read (h : Running session start listens arrivals jobs link)
    (hlively : Lively session link)
    (hsound : Sound next True (standing link)) (hwakes : link.wakes = []) (octets : Octets) :
    Running session start listens (arrivals ++ link.arrivalsWith session (.deviceSends octets)) jobs
        (link.read octets) ∧ Lively session (link.read octets) := by
  rw [arrivalsWith]
  split
  · rename_i hreading
    have hcurrent : link.current = some session := by
      by_contra hne
      cases (crew_of_ne_current hsound trivial hne).1.symm.trans hreading
    have hlt := lt_of_current hsound hcurrent
    obtain ⟨notes, hnotes, hread, hroom⟩ :=
      Proofs.exists_read_eq (hasReader_of_isReading hreading) hcurrent h.room hlt octets
    rw [hread]
    exact (h.arrive hlt _ (heard_fromReader hnotes) hroom).rouse
      ((length_sessions_withArrivals ..).symm ▸ hlt) hwakes
  · rename_i hsilent
    have hnone : link.hasReader = false := by
      refine hasReader_eq_false fun other => ?_
      by_cases heq : other = session
      · rw [heq]
        exact Bool.eq_false_iff.mpr hsilent
      · exact h.isReading_of_ne hsound heq
    rw [Link.read, hnone, List.append_nil]
    exact ⟨h, hlively⟩

/-! ### The end of the reading -/

lemma Running.readEnd (h : Running session start listens arrivals jobs link)
    (hlively : Lively session link) :
    Running session start false arrivals jobs link.readEnd ∧ Lively session link.readEnd := by
  -- every reader that ends reports the loss of the link, and the first one closes it
  have hspares : ∀ (sessions : List Session) (link : Link), Spares session link (sessions.foldl
      (fun link found => if found.reading then link.retire "closed by device" else link) link) := by
    intro sessions
    induction sessions with
    | nil => exact Spares.refl session
    | cons found rest ih =>
      intro link
      rw [List.foldl_cons]
      split
      · exact (spares_retire _).trans (ih _)
      · exact ih link
  have hqueue : queueOf { link with
      sessions := link.sessions.map fun found => { found with reading := false } } session =
      link.queueOf session := by
    simp [queueOf, Function.comp_def]
  have hsilent : isReading { link with
      sessions := link.sessions.map fun found => { found with reading := false } } session = false := by
    cases hfound : link.sessions[session]? <;> simp [isReading, hfound]
  have hidle : idle { link with
      sessions := link.sessions.map fun found => { found with reading := false } } session =
      link.idle session := by
    simp [Link.idle, Function.comp_def]
  have hclosed := hspares link.sessions { link with
    sessions := link.sessions.map fun found => { found with reading := false } }
  refine ⟨(h.change hqueue rfl fun _ => hsilent).spares hclosed, Lively.spares ?_ hclosed⟩
  intro howned
  rw [hidle, hqueue]
  exact hlively howned

/-- A read fails. Only the reader of the session can have read. -/
lemma Running.readError (h : Running session start listens arrivals jobs link)
    (hlively : Lively session link) (hsound : Sound next True (standing link)) (error : SystemError) :
    Running session start false arrivals jobs (link.readError error) ∧
      Lively session (link.readError error) := by
  unfold Link.readError
  split
  · rename_i hnone
    refine ⟨{ h with reading := fun _ => ?_ }, hlively⟩
    rw [List.findIdx?_eq_none_iff] at hnone
    cases hfound : link.sessions[session]? with
    | none => simp [isReading, hfound]
    | some found => simp [isReading, hfound, hnone found (List.mem_of_getElem? hfound)]
  · rename_i reader hfind
    obtain ⟨hlt, hfirst⟩ := List.findIdx?_eq_some_iff_findIdx_eq.mp hfind
    have hreads : link.isReading reader = true := by
      have hreading : link.sessions[reader].reading = true := by
        subst hfirst
        exact List.findIdx_getElem
      rw [isReading, List.getElem?_eq_getElem hlt]
      exact hreading
    -- the reader that has run longest is the only one
    obtain rfl : reader = session := by
      by_contra hne
      exact Bool.false_ne_true ((h.isReading_of_ne hsound hne).symm.trans hreads)
    have hqueue : (link.modifySession reader fun found => { found with reading := false }).queueOf
        reader = link.queueOf reader := by
      refine queueOf_modifySession_of_eq ?_ reader reader
      exact fun _ => rfl
    have hidle : (link.modifySession reader fun found => { found with reading := false }).idle
        reader = link.idle reader := by
      refine idle_modifySession_of_eq ?_ reader reader
      exact fun _ => rfl
    have hsilent : (link.modifySession reader fun found =>
        { found with reading := false }).isReading reader = false := by
      have hflag := congrFun (@getD_map_modify link.sessions
        (fun found => { found with reading := false }) reader _ Session.reading false false
        (fun _ _ => rfl) hlt) reader
      exact hflag.trans (Function.update_self ..)
    have hclosed := @spares_retire reader (link.modifySession reader fun found =>
      { found with reading := false }) ("read failed: " ++ error.message)
    refine ⟨(h.change hqueue rfl fun _ => hsilent).spares hclosed, Lively.spares ?_ hclosed⟩
    intro howned
    rw [hidle, hqueue]
    exact hlively howned

/-! ### Events -/

/-- The gate opens: all who have waited there have a turn to come. -/
lemma Running.openGate (h : Running session start listens arrivals jobs link)
    (hlively : Lively session link) :
    Running session start listens arrivals jobs
        ({ link with gateOpen := true, blocked := [] }.wake (link.blocked.map .delivery)) ∧
      Lively session
        ({ link with gateOpen := true, blocked := [] }.wake (link.blocked.map .delivery)) := by
  have hgoing : (link.blocked.map Wake.delivery).filterMap Wake.going? = link.blocked := by
    rw [List.filterMap_map]
    exact List.filterMap_some
  have hturns : (({ link with gateOpen := true, blocked := [] } : Link).wake
      (link.blocked.map .delivery)).workerTurns =
      link.workerTurns ++ link.blocked.map Wake.delivery := by
    rw [workerTurns_wake]
    refine congrArg (link.workerTurns ++ ·) (List.filter_eq_self.mpr fun wake hmem => ?_)
    obtain ⟨going, -, rfl⟩ := List.mem_map.mp hmem
    rfl
  refine ⟨⟨?_, h.capacity, h.room, h.attempts, h.current, fun _ => List.forall_mem_nil _, h.reading⟩,
    fun howned => ?_⟩
  · obtain ⟨passes, underway, hconserved⟩ := h.conserved
    refine ⟨passes, underway, hconserved.dropped, hconserved.accepted, hconserved.trace,
      hconserved.inbox, hconserved.rota, fun howned => (hconserved.tasks howned).trans ?_⟩
    rw [inProgress, inProgress, hturns, List.filterMap_append, hgoing]
    exact List.perm_append_comm
  · refine (hlively howned).imp_right fun hle => hle.trans ?_
    rw [hturns, List.count_append]
    exact Nat.le_add_right ..

/-- An event that neither brings chunks nor ends the reading or opens the gate. -/
lemma spares_act (hattempts : ∀ call ∈ link.calls, call.socket? = none) {event : Event}
    (hevent : event.connects → link.phase = .active) (id : ℕ) :
    Spares session link (link.act id event) ∨ event.endsReading ∨ event = .openGate ∨
      ∃ octets, event = .deviceSends octets := by
  have hsame : Spares session link link := Spares.refl session link
  have htasks : SameTasks session link link := SameTasks.refl session link
  have hconnect : link.phase = .active → ∀ actions ending answer,
      Spares session link (link.connect id actions ending answer) := by
    intro hactive actions ending answer
    rw [connect, if_pos (.inr hactive)]
    exact spares_note rfl
  cases event with
  | connect answer => exact .inl (hconnect (hevent rfl) ..)
  | scope messages raises answer => exact .inl (hconnect (hevent rfl) ..)
  | answer answer =>
    refine .inl ?_
    rw [act, answerYoungest]
    split
    · exact hsame
    · rename_i call hfind
      have hmem := List.mem_reverse.mp (List.mem_of_find?_eq_some hfind)
      rw [hattempts call hmem]
      exact hsame
  | cancel call => exact .inl (spares_cancel call)
  | disconnect => exact .inl (spares_hangUp.trans (spares_note rfl))
  | send messages => exact .inl (spares_perform ..)
  | deviceSends octets => exact .inr (.inr (.inr ⟨octets, rfl⟩))
  | deviceCloses => exact .inr (.inl rfl)
  | readFails error => exact .inr (.inl rfl)
  | writesFail error after => exact .inl { hsame with tasks := .inr { htasks with } }
  | writesSucceed => exact .inl { hsame with tasks := .inr { htasks with } }
  | holdWrites => exact .inl { hsame with tasks := .inr { htasks with } }
  | releaseWrites =>
    refine .inl ?_
    have hfree : Spares session link { link with writesHeld := false } :=
      { hsame with tasks := .inr { htasks with } }
    refine hfree.trans (spares_wake fun wake hmem => ?_)
    obtain ⟨call, -, rfl⟩ := List.mem_map.mp hmem
    rfl
  | addObserver name manner fails => exact .inl { hsame with tasks := .inr { htasks with } }
  | addAgain name =>
    refine .inl ?_
    rw [act]
    split
    · exact hsame
    · exact { hsame with tasks := .inr { htasks with } }
  | removeObserver name =>
    refine .inl ?_
    rw [act]
    split
    · exact spares_note rfl
    · split
      · exact { hsame with tasks := .inr { htasks with } }
      · exact spares_note rfl
  | openGate => exact .inr (.inr (.inl rfl))
  | closeGate => exact .inl { hsame with tasks := .inr { htasks with gate := fun h => by cases h } }
  | nothing => exact .inl hsame

end PixelPanel.Proofs
