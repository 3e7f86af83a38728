import PixelPanel.Proofs.Link.Jobs

/-!
# What a turn of a worker does to jobs

A worker passes the chunk that it has to the listeners that are left, and goes on with the queue. So
all that it takes becomes a job, and when it stops it has nothing in its hands: what it could not
finish waits at the gate or for another turn.
-/

namespace PixelPanel.Proofs
open Link

/-- The next listener of a delivery waits for the gate, which is closed. -/
def AtGate (link : Link) (going : Delivery) : Prop :=
  link.gateOpen = false ∧ ∃ listener rest, going.listeners = listener :: rest ∧ listener.isGated

/-- Where passing on a chunk stops: behind the last listener, at a thread or at the gate. The listeners
of `next` are left. -/
inductive Stops (link : Link) (next : Delivery) : Link × Bool → Prop
  | through (h : next.listeners = []) : Stops link next (link, true)
  | thread (listener : Listener) : Stops link next (link.wake [.returned listener next], false)
  | gate (h : AtGate link next) :
    Stops link next ({ link with blocked := link.blocked ++ [next] }, false)

/-- The link when a chunk has been passed on and `notes` were taken. -/
def withPasses (link : Link) (passes : List Pass) (notes : List Note) : Link :=
  { link with
    inbox := passes.foldl Pass.reach link.inbox
    trace := link.trace ++ notes }

/-- The notes of the observers are those of the passes. -/
def Fit (passes : List Pass) (notes : List Note) : Prop :=
  notes.filterMap Note.heard? = passes.filterMap Pass.heard?

/-- The chunk of a job is passed to some listeners, in order, and then it stops. -/
def Hands (session id : ℕ) (chunk : Octets) (listeners : List Listener) (link : Link)
    (result : Link × Bool) : Prop :=
  ∃ given rest notes, listeners = given ++ rest ∧ Fit (given.map (Pass.mk id chunk)) notes ∧
    Stops (withPasses link (given.map (Pass.mk id chunk)) notes) ⟨session, chunk, rest⟩ result

variable {session id : ℕ} {chunk : Octets} {listeners : List Listener} {listener : Listener}
  {link link' start : Link} {notes more : List Note} {jobs : List Job} {passes later : List Pass}
  {going : Delivery} {hand : List Delivery}

/-! ### Passing on a chunk -/

lemma Fit.append (h : Fit passes notes) (h' : Fit later more) :
    Fit (passes ++ later) (notes ++ more) := by
  rw [Fit, List.filterMap_append, List.filterMap_append, h, h']

lemma Fit.quiet (h : Fit passes notes) (hquiet : more.filterMap Note.heard? = []) :
    Fit passes (notes ++ more) := by
  rw [Fit, List.filterMap_append, hquiet, List.append_nil]
  exact h

lemma withPasses_append : withPasses (withPasses link passes notes) later more =
    withPasses link (passes ++ later) (notes ++ more) := by
  simp only [withPasses, List.foldl_append, List.append_assoc]

lemma withPasses_nil : withPasses link [] [] = link := by
  rw [withPasses, List.append_nil]
  rfl

lemma Hands.behind {result : Link × Bool} (hfit : Fit [⟨id, chunk, listener⟩] notes)
    (h : Hands session id chunk listeners (withPasses link [⟨id, chunk, listener⟩] notes) result) :
    Hands session id chunk (listener :: listeners) link result := by
  obtain ⟨given, rest, more, rfl, hmore, hstops⟩ := h
  rw [withPasses_append] at hstops
  exact ⟨listener :: given, rest, notes ++ more, rfl, hfit.append hmore, hstops⟩

/-- The notes of the inbox are not those of observers. -/
lemma exists_receive_reach (id : ℕ) (link : Link) (chunk : Octets) :
    ∃ notes, Fit [⟨id, chunk, .inbox⟩] notes ∧
      link.receive chunk = withPasses link [⟨id, chunk, .inbox⟩] notes := by
  have hquiet : ((link.inbox.receive chunk).2.notes.map ofInboxNote).filterMap Note.heard? = [] := by
    refine List.filterMap_eq_nil_iff.mpr fun seen hmem => ?_
    obtain ⟨inner, -, rfl⟩ := List.mem_map.mp hmem
    cases inner <;> rfl
  rw [Link.receive]
  dsimp only
  split
  · exact ⟨_, hquiet, rfl⟩
  · refine ⟨_ ++ [_], ?_, by simp only [logFailure, log, note, withPasses, List.append_assoc]; rfl⟩
    rw [Fit, List.filterMap_append, hquiet]
    rfl

/-- An observer takes note, whether it fails or not. -/
lemma exists_takeNote_reach (id serial : ℕ) (name : String) (manner : Manner) (fails : Bool)
    (link : Link) (chunk : Octets) :
    ∃ notes, Fit [⟨id, chunk, .observer serial name manner fails⟩] notes ∧
      link.takeNote serial name manner fails chunk =
        withPasses link [⟨id, chunk, .observer serial name manner fails⟩] notes := by
  cases fails with
  | true =>
    refine ⟨[.heard name chunk, .log ⟨.error, .link,
      s!"Listener {(Listener.observer serial name manner true).text} failed"⟩], rfl, ?_⟩
    simp only [takeNote, if_true, logFailure, log, note, withPasses, List.append_assoc]
    rfl
  | false => exact ⟨[.heard name chunk], rfl, rfl⟩

lemma deliver_hands (session id : ℕ) (chunk : Octets) (listeners : List Listener) (link : Link) :
    Hands session id chunk listeners link (deliver session chunk listeners link) := by
  -- along the listeners: every one that is passed stands in front of what the others do
  induction listeners generalizing link with
  | nil => exact ⟨[], [], [], rfl, rfl, withPasses_nil.symm ▸ .through rfl⟩
  | cons listener rest ih =>
    rcases listener with _ | ⟨serial, name, manner, fails⟩
    · obtain ⟨notes, hfit, hreceive⟩ := exists_receive_reach id link chunk
      rw [deliver, hreceive]
      exact (ih _).behind hfit
    · cases manner with
      | direct =>
        obtain ⟨notes, hfit, hnoted⟩ := exists_takeNote_reach id serial name .direct fails link chunk
        rw [deliver, hnoted]
        exact (ih _).behind hfit
      | threaded =>
        exact ⟨[_], rest, [.heard name chunk], rfl, rfl, .thread _⟩
      | gated =>
        rw [deliver]
        split
        · obtain ⟨notes, hfit, hnoted⟩ := exists_takeNote_reach id serial name .gated fails link chunk
          rw [hnoted]
          exact (ih _).behind hfit
        · -- the listener at the closed gate has not got the chunk yet, it is the first of the rest
          rename_i hclosed
          refine ⟨[], _, [], rfl, rfl, ?_⟩
          rw [List.map_nil, withPasses_nil]
          exact .gate ⟨Bool.eq_false_iff.mpr hclosed, _, _, rfl, rfl⟩

/-! ### A worker with something in its hands -/

/-- What was passed on by the workers of a session since `start`, with the jobs that they have taken.
Deliveries in `hand` are neither at the gate nor among the turns to come. -/
structure Dealing (session : ℕ) (start : Link) (jobs : List Job) (passes : List Pass)
    (hand : List Delivery) (link : Link) : Prop where
  trace : ∃ notes, link.trace = start.trace ++ notes ∧ Fit passes notes
  inbox : link.inbox = passes.foldl Pass.reach start.inbox
  carries : Carries session jobs passes (hand ++ inProgress link)
  gate : ∀ going ∈ link.blocked, AtGate link going

lemma workerTurns_wake (link : Link) (wakes : List Wake) : (link.wake wakes).workerTurns =
    link.workerTurns ++ wakes.filter fun wake => (workerOf? wake).isSome :=
  List.filter_append ..

lemma workerTurns_of_nil {link : Link} (h : link.wakes = []) : link.workerTurns = [] := by
  rw [workerTurns, h]
  rfl

lemma inProgress_returned (link : Link) (listener : Listener) (next : Delivery) :
    (link.wake [.returned listener next]).inProgress = link.inProgress ++ [next] := by
  rw [inProgress, workerTurns_wake, List.filterMap_append, ← List.append_assoc]
  rfl

lemma perm_inProgress_gate (link : Link) (next : Delivery) :
    (next :: link.inProgress).Perm
      ({ link with blocked := link.blocked ++ [next] } : Link).inProgress := by
  have hsame : ({ link with blocked := link.blocked ++ [next] } : Link).inProgress =
      link.blocked ++ next :: link.workerTurns.filterMap Wake.going? := by
    rw [inProgress, List.append_assoc]
    rfl
  rw [hsame]
  exact List.perm_middle.symm

/-- A worker passes its chunk on until it stops. -/
lemma Dealing.deliver (h : Dealing session start jobs passes (going :: hand) link) :
    ∃ later, Dealing session start jobs later hand
      (Link.deliver going.session going.chunk going.listeners link).1 := by
  obtain ⟨id, hpass⟩ := h.carries.pass
  obtain ⟨given, rest, notes, hgiven, hfit, hstops⟩ :=
    deliver_hands going.session id going.chunk going.listeners link
  have hcarries := hpass given rest hgiven
  obtain ⟨before, htrace, hbefore⟩ := h.trace
  have htrace' : ∃ notes', (withPasses link (given.map (Pass.mk id going.chunk)) notes).trace =
      start.trace ++ notes' ∧ Fit (passes ++ given.map (Pass.mk id going.chunk)) notes' := by
    refine ⟨before ++ notes, ?_, hbefore.append hfit⟩
    rw [withPasses, htrace, List.append_assoc]
  have hinbox : (withPasses link (given.map (Pass.mk id going.chunk)) notes).inbox =
      (passes ++ given.map (Pass.mk id going.chunk)).foldl Pass.reach start.inbox := by
    rw [withPasses, h.inbox, List.foldl_append]
  refine ⟨passes ++ given.map (Pass.mk id going.chunk), ?_⟩
  generalize Link.deliver going.session going.chunk going.listeners link = result at hstops
  cases hstops with
  | through hnone => exact ⟨htrace', hinbox, hcarries.finish hnone, h.gate⟩
  | thread listener =>
    refine ⟨htrace', hinbox, ?_, h.gate⟩
    rw [inProgress_returned, ← List.append_assoc]
    exact hcarries.perm (List.perm_append_singleton ..).symm
  | gate hgate =>
    refine ⟨htrace', hinbox, ?_, List.forall_mem_append.mpr ⟨h.gate, ?_⟩⟩
    · exact hcarries.perm (List.perm_middle.symm.trans ((perm_inProgress_gate ..).append_left hand))
    · exact List.forall_mem_singleton.mpr hgate

/-! ### A worker and the queue -/

lemma queueOf_modifySession_of_eq {change : Session → Session}
    (hchange : ∀ found, (change found).queue = found.queue) (session other : ℕ) :
    (link.modifySession session change).queueOf other = link.queueOf other :=
  congrFun (getD_map_modify_of_eq Session.queue [] hchange) other

lemma queueOf_take {rest : List Octets} (hqueue : link.queueOf session = chunk :: rest) :
    (link.modifySession session fun found => { found with queue := rest }).queueOf session = rest := by
  have hlt : session < link.sessions.length := by
    by_contra hge
    rw [queueOf, List.getElem?_eq_none (Nat.le_of_not_lt hge)] at hqueue
    cases hqueue
  have hflag := congrFun (@getD_map_modify link.sessions
    (fun found => { found with queue := rest }) session _ Session.queue [] rest (fun _ _ => rfl) hlt)
    session
  exact hflag.trans (Function.update_self ..)

lemma idle_modifySession_of_eq {change : Session → Session}
    (hchange : ∀ found, (change found).idle = found.idle) (session other : ℕ) :
    (link.modifySession session change).idle other = link.idle other :=
  congrFun (getD_map_modify_of_eq Session.idle 0 hchange) other

/-- A worker has gone on: it has taken at least `least` chunks from the queue, unless the queue is empty
now. -/
def Advances (session : ℕ) (start : Link) (jobs : List Job) (least : ℕ) (link link' : Link) : Prop :=
  ∃ done passes, link.queueOf session = done ++ link'.queueOf session ∧
    Dealing session start (jobs ++ done.map fun chunk => ⟨chunk, link.listeners⟩) passes [] link' ∧
    (link'.queueOf session = [] ∨ link'.idle session = link.idle session ∧ least ≤ done.length)

lemma Dealing.take {rest : List Octets} (h : Dealing session start jobs passes hand link)
    (chunk : Octets) : Dealing session start (jobs ++ [⟨chunk, link.listeners⟩]) passes
      (⟨session, chunk, link.listeners⟩ :: hand)
      (link.modifySession session fun found => { found with queue := rest }) :=
  ⟨h.trace, h.inbox, h.carries.take chunk link.listeners, h.gate⟩

lemma handed_eq (session : ℕ) (chunk : Octets) (listeners : List Listener) (link : Link) :
    (deliver session chunk listeners link).1.sessions = link.sessions ∧
      (deliver session chunk listeners link).1.listeners = link.listeners := by
  have hhanded := deliver_handed session chunk listeners link
  generalize deliver session chunk listeners link = result at hhanded
  cases hhanded <;> exact ⟨rfl, rfl⟩

lemma work_advances {queue : List Octets} (h : Dealing session start jobs passes [] link)
    (hqueue : link.queueOf session = queue) :
    Advances session start jobs 1 link (work session queue link) := by
  induction queue generalizing link jobs passes with
  | nil =>
    have hnone : (link.modifySession session fun found =>
        { found with idle := found.idle + 1 }).queueOf session = [] := by
      refine (queueOf_modifySession_of_eq ?_ _ _).trans hqueue
      exact fun _ => rfl
    rw [work]
    refine ⟨[], passes, hqueue.trans hnone.symm, ?_, .inl hnone⟩
    rw [List.map_nil, List.append_nil]
    exact ⟨h.trace, h.inbox, h.carries, h.gate⟩
  | cons chunk rest ih =>
    obtain ⟨taken, htaken, hlisteners, hleft, hidle, htake⟩ : ∃ taken,
        (link.modifySession session fun found => { found with queue := rest }) = taken ∧
        taken.listeners = link.listeners ∧ taken.queueOf session = rest ∧
        taken.idle session = link.idle session ∧
        Dealing session start (jobs ++ [⟨chunk, link.listeners⟩]) passes
          [⟨session, chunk, taken.listeners⟩] taken := by
      refine ⟨_, rfl, rfl, queueOf_take hqueue, idle_modifySession_of_eq ?_ _ _, h.take chunk⟩
      exact fun _ => rfl
    obtain ⟨later, hdealt⟩ := htake.deliver
    obtain ⟨hsessions, hkept⟩ := handed_eq session chunk taken.listeners taken
    rw [work, htaken]
    dsimp only at hdealt ⊢
    generalize deliver session chunk taken.listeners taken = result at hdealt hsessions hkept ⊢
    obtain ⟨next, completed⟩ := result
    have hqueue' : next.queueOf session = rest := by
      rw [queueOf, hsessions]
      exact hleft
    have hidle' : next.idle session = link.idle session := by
      rw [Link.idle, hsessions]
      exact hidle
    cases completed with
    | false =>
      refine ⟨[chunk], later, ?_, hdealt, .inr ⟨hidle', Nat.le_refl _⟩⟩
      rw [hqueue, hqueue']
      rfl
    | true =>
      obtain ⟨done, last, hdone, hdealing, hend⟩ := ih hdealt hqueue'
      refine ⟨chunk :: done, last, ?_, ?_, hend.imp_right fun hmore => ⟨?_, ?_⟩⟩
      · exact hqueue.trans (congrArg (chunk :: ·) (hqueue'.symm.trans hdone))
      · rw [List.append_assoc, hkept.trans hlisteners] at hdealing
        exact hdealing
      · exact hmore.1.trans hidle'
      · exact Nat.succ_le_succ (Nat.zero_le _)

lemma resumeDelivery_advances (h : Dealing going.session start jobs passes [going] link) :
    Advances going.session start jobs 0 link (link.resumeDelivery going) := by
  obtain ⟨later, hdealt⟩ := h.deliver
  obtain ⟨hsessions, hlisteners⟩ := handed_eq going.session going.chunk going.listeners link
  rw [resumeDelivery]
  generalize Link.deliver going.session going.chunk going.listeners link = result
    at hdealt hsessions hlisteners ⊢
  have hqueue : result.1.queueOf going.session = link.queueOf going.session := by
    rw [queueOf, hsessions]
    rfl
  have hidle : result.1.idle going.session = link.idle going.session := by
    rw [Link.idle, hsessions]
    rfl
  obtain ⟨next, completed⟩ := result
  cases completed with
  | false =>
    refine ⟨[], later, hqueue.symm, ?_, .inr ⟨hidle, Nat.le_refl _⟩⟩
    rwa [List.map_nil, List.append_nil]
  | true =>
    obtain ⟨done, last, hdone, hdealing, hend⟩ := work_advances hdealt rfl
    refine ⟨done, last, hqueue.symm.trans hdone, ?_, hend.imp_right fun hmore => ?_⟩
    · rwa [hlisteners] at hdealing
    · exact ⟨hmore.1.trans hidle, Nat.zero_le _⟩

/-! ### Turns of workers -/

lemma workerTurns_cons {wake : Wake} {rest : List Wake} (hwakes : link.wakes = wake :: rest)
    (hworker : workerOf? wake = some session) :
    link.workerTurns = wake :: workerTurns { link with wakes := rest } := by
  rw [workerTurns, hwakes, List.filter_cons_of_pos (by rw [hworker]; rfl)]
  rfl

/-- What a worker with a turn is busy with is in its hands when it takes the turn. -/
lemma perm_inProgress_turn {wake : Wake} {rest : List Wake} (hwakes : link.wakes = wake :: rest)
    (hworker : workerOf? wake = some session) :
    link.inProgress.Perm
      (wake.going?.toList ++ inProgress { link with wakes := rest }) := by
  rw [inProgress, workerTurns_cons hwakes hworker]
  cases hgoing : wake.going? with
  | none =>
    rw [List.filterMap_cons_none hgoing]
    exact List.Perm.refl _
  | some going =>
    rw [List.filterMap_cons_some hgoing]
    exact List.perm_middle

/-- Notes that no observer takes change nothing. -/
lemma Dealing.log (h : Dealing session start jobs passes hand link) (level : Level)
    (message : String) : Dealing session start jobs passes hand (link.log level message) := by
  obtain ⟨notes, htrace, hfit⟩ := h.trace
  refine ⟨⟨notes ++ [.log ⟨level, .link, message⟩], ?_, hfit.quiet rfl⟩, h.inbox, h.carries, h.gate⟩
  rw [Link.log, note, htrace, List.append_assoc]

lemma turn_advances {wake : Wake} {rest : List Wake} (hwakes : link.wakes = wake :: rest)
    (hworker : workerOf? wake = some session) (h : Dealing session start jobs passes [] link) :
    Advances session start jobs (if wake = .worker session then 1 else 0) link
      ({ link with wakes := rest }.resume wake) := by
  have hturn : Dealing session start jobs passes wake.going?.toList { link with wakes := rest } :=
    ⟨h.trace, h.inbox, h.carries.perm (perm_inProgress_turn hwakes hworker), h.gate⟩
  cases wake with
  | call id => cases hworker
  | leaving id turns outcome => cases hworker
  | worker owner =>
    obtain rfl := Option.some.inj hworker
    rw [if_pos rfl]
    exact work_advances hturn rfl
  | delivery going =>
    obtain rfl := Option.some.inj hworker
    rw [if_neg Wake.noConfusion]
    exact resumeDelivery_advances hturn
  | returned listener going =>
    obtain rfl := Option.some.inj hworker
    rw [if_neg Wake.noConfusion]
    rcases listener with _ | ⟨serial, name, manner, _ | _⟩
    · exact resumeDelivery_advances hturn
    · exact resumeDelivery_advances hturn
    · exact resumeDelivery_advances (hturn.log ..)

end PixelPanel.Proofs
