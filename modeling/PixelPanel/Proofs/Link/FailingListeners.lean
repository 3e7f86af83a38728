import PixelPanel.Proofs.Link.Hearings
import PixelPanel.Proofs.Link.Past
import PixelPanel.Proofs.Link.Roster

/-!
# A listener that fails disturbs nobody

Two runs differ only in which observers fail. A listener that fails has taken note before, and the
worker goes on with the next listener as it would have done otherwise. So both runs go through the same
states and take the same notes, but for one more error in the log for every time that a listener fails
that would not have failed otherwise.
-/

namespace PixelPanel.Link

/-- Whether a listener fails after it has taken note. -/
def Listener.fails : Listener → Bool
  | .inbox => false
  | .observer _ _ _ fails => fails

/-- The error in the log when a listener has failed. -/
def Listener.failure (listener : Listener) : Note :=
  .log ⟨.error, .link, s!"Listener {listener.text} failed"⟩

/-- The same listener, but an observer whose number is among some fails. -/
def Listener.provoked (who : ℕ → Bool) : Listener → Listener
  | .inbox => .inbox
  | .observer serial name manner fails => .observer serial name manner (fails || who serial)

/-- Whether a listener fails only because its number is among some. -/
def Listener.isProvoked (who : ℕ → Bool) (listener : Listener) : Bool :=
  !listener.fails && (listener.provoked who).fails

/-- The same chunk for the provoked listener. -/
def Hearing.provoked (who : ℕ → Bool) (hearing : Hearing) : Hearing :=
  { hearing with listener := hearing.listener.provoked who }

/-- The errors of those who would not have failed otherwise, one for each time. -/
def newFailures (who : ℕ → Bool) (heard : List Hearing) : List Note :=
  (heard.filter fun hearing => hearing.listener.isProvoked who).map fun hearing =>
    hearing.listener.failure

/-- The same event, but the observer that it makes fails if its number is among some. -/
def Event.provoked (who : ℕ → Bool) (next : ℕ) : Event → Event
  | .addObserver name manner fails => .addObserver name manner (fails || who next)
  | event => event

/-- The same events, but the observers whose numbers are among some fail. Observers are numbered in the
order in which they are made, from `next` on. -/
def provoked (who : ℕ → Bool) : ℕ → List Event → List Event
  | _, [] => []
  | next, event :: later =>
    event.provoked who next :: provoked who (next + event.observersMade) later

/-- The same audience with other listeners. -/
def Audience.recast (f : Listener → Listener) (audience : Audience) : Audience :=
  { audience with
    listeners := audience.listeners.map f
    observers := audience.observers.map f }

/-- The same link after another past, but the observers whose numbers are among some fail. -/
def provoke (who : ℕ → Bool) (past : List Note) (link : Link) : Link :=
  link.reseat (link.audience.recast (Listener.provoked who)) (Listener.provoked who) past

/-- The same link before anything was seen. -/
def bare (link : Link) : Link :=
  { link with trace := [] }

/-- The error that is still to come when a listener comes back from its thread. -/
def Wake.failure? (who : ℕ → Bool) : Wake → Option Note
  | .returned listener _ => if listener.isProvoked who then some listener.failure else none
  | _ => none

/-- The errors that are still to come. -/
def outstanding (who : ℕ → Bool) (link : Link) : List Note :=
  link.wakes.filterMap (Wake.failure? who)

end PixelPanel.Link

namespace PixelPanel.Proofs
open Link

/-- The second link is the first one with some observers provoked. Beside that it has taken the errors
of those who failed so far for that reason. -/
structure Louder (who : ℕ → Bool) (heard : List Hearing) (link link' : Link) : Prop where
  same : link' = { link.provoke who [] with trace := link'.trace }
  kept : link.trace.Sublist link'.trace
  failures : (link'.trace ++ link.outstanding who).Perm (link.trace ++ newFailures who heard)

variable {who : ℕ → Bool} {heard : List Hearing} {link link' : Link}

/-! ### What both links do in the same way -/

lemma newFailures_append (who : ℕ → Bool) (heard more : List Hearing) :
    newFailures who (heard ++ more) = newFailures who heard ++ newFailures who more := by
  rw [newFailures, List.filter_append, List.map_append]
  rfl

lemma after_bare (link : Link) : link.bare.after link.trace = link := by
  rw [after, bare, List.append_nil]

lemma Louder.provoke_bare (h : Louder who heard link link') :
    link' = link.bare.provoke who link'.trace := by
  have hbare : link.bare.provoke who link'.trace =
      { link.provoke who [] with trace := link'.trace } := by
    rw [provoke, reseat, bare, List.append_nil]
    rfl
  rw [hbare, ← h.same]

lemma load_recast (wake : Wake) (f : Listener → Listener) : (wake.recast f).load = wake.load := by
  cases wake <;> simp [Wake.recast, Delivery.recast, Wake.load]

lemma load_provoke (past : List Note) : (link.provoke who past).load = link.load := by
  have hwakes : (link.provoke who past).wakes.map Wake.load = link.wakes.map Wake.load := by
    rw [provoke, reseat, List.map_map]
    exact List.map_congr_left fun wake _ => load_recast wake _
  have hcount : (link.provoke who past).listeners.length = link.listeners.length :=
    List.length_map _
  rw [load_eq, load_eq, hwakes, hcount]
  rfl

lemma Louder.load (h : Louder who heard link link') : link'.load = link.load := by
  rw [h.same]
  exact load_provoke []

lemma Louder.gateOpen (h : Louder who heard link link') : link'.gateOpen = link.gateOpen := by
  rw [h.same]
  rfl

lemma Louder.listeners (h : Louder who heard link link') :
    link'.listeners = link.listeners.map (Listener.provoked who) := by
  rw [h.same]
  rfl

lemma Louder.queueOf (h : Louder who heard link link') (session : ℕ) :
    link'.queueOf session = link.queueOf session := by
  rw [h.same]
  rfl

lemma Louder.wakes (h : Louder who heard link link') :
    link'.wakes = link.wakes.map (Wake.recast (Listener.provoked who)) := by
  rw [h.same]
  rfl

lemma Louder.clock (h : Louder who heard link link') : link'.clock = link.clock := by
  rw [h.same]
  rfl

/-- What depends neither on the listeners nor on the past goes on in both links in the same way. -/
lemma Louder.keep {g k : Link → Link} (h : Louder who heard link link')
    (hcalm : g (link.bare.after link.trace) = (g link.bare).after link.trace)
    (hloud : k (link.bare.provoke who link'.trace) = (g link.bare).provoke who link'.trace)
    (hturns : (g link.bare).outstanding who = link.outstanding who) :
    Louder who heard (g link) (k link') := by
  have hleft : g link = (g link.bare).after link.trace := by rw [← hcalm, after_bare]
  have hright : k link' = (g link.bare).provoke who link'.trace := by
    rw [← hloud, ← h.provoke_bare]
  rw [hleft, hright]
  refine ⟨rfl, h.kept.append_right _, ?_⟩
  change ((link'.trace ++ (g link.bare).trace) ++ (g link.bare).outstanding who).Perm
    ((link.trace ++ (g link.bare).trace) ++ newFailures who heard)
  rw [hturns, List.append_assoc, List.append_assoc]
  -- the notes that both take stand between the others
  have hmiddle : ∀ front back : List Note, (front ++ ((g link.bare).trace ++ back)).Perm
      ((g link.bare).trace ++ (front ++ back)) := fun front back => by
    rw [← List.append_assoc, ← List.append_assoc]
    exact List.perm_append_comm.append_right back
  exact (hmiddle ..).trans ((h.failures.append_left _).trans (hmiddle ..).symm)

lemma Louder.note (h : Louder who heard link link') (seen : Note) :
    Louder who heard (link.note seen) (link'.note seen) := by
  refine h.keep (g := fun link => link.note seen) (k := fun link => link.note seen) ?_ ?_ rfl
  · rw [after, Link.note, after, Link.note, List.append_assoc]
  · exact reseat_note seen

lemma Louder.modifySession (h : Louder who heard link link') (session : ℕ)
    (change : Session → Session) :
    Louder who heard (link.modifySession session change) (link'.modifySession session change) :=
  h.keep (g := fun link => link.modifySession session change)
    (k := fun link => link.modifySession session change) rfl rfl rfl

lemma Louder.receive (h : Louder who heard link link') (chunk : Octets) :
    Louder who heard (link.receive chunk) (link'.receive chunk) := by
  refine h.keep (g := fun link => link.receive chunk) (k := fun link => link.receive chunk)
    (after_receive chunk) ?_ ?_
  · have hinbox : (link.bare.provoke who link'.trace).inbox = link.bare.inbox := rfl
    simp only [Link.receive, hinbox]
    split
    · simp [provoke, reseat, audience, Audience.recast]
    · simp [provoke, reseat, audience, Audience.recast, logFailure, log, Link.note]
  · obtain ⟨inbox, notes, -, hreceive⟩ := exists_receive link.bare chunk
    rw [hreceive]
    rfl

/-! ### What a provoked listener adds -/

lemma newFailures_singleton (who : ℕ → Bool) (hearing : Hearing) : newFailures who [hearing] =
    if hearing.listener.isProvoked who then [hearing.listener.failure] else [] := by
  rw [newFailures, List.filter_cons]
  split <;> rfl

/-- The second link logs an error for somebody who would not have failed otherwise. -/
lemma Louder.fail (h : Louder who heard link link') {listener : Listener}
    (hwho : listener.isProvoked who) (chunk : Octets) :
    Louder who (heard ++ [⟨listener, chunk⟩]) link (link'.note listener.failure) := by
  refine ⟨congrArg (fun next : Link => next.note listener.failure) h.same,
    h.kept.trans (List.sublist_append_left ..), ?_⟩
  rw [newFailures_append, newFailures_singleton, if_pos hwho, ← List.append_assoc, Link.note]
  have hlast : ((link'.trace ++ [listener.failure]) ++ link.outstanding who).Perm
      ((link'.trace ++ link.outstanding who) ++ [listener.failure]) := by
    rw [List.append_assoc, List.append_assoc]
    exact List.perm_append_comm.append_left _
  exact hlast.trans (h.failures.append_right _)

/-- Whoever does not fail for that reason adds nothing. -/
lemma Louder.hear (h : Louder who heard link link') {listener : Listener}
    (hwho : listener.isProvoked who = false) (chunk : Octets) :
    Louder who (heard ++ [⟨listener, chunk⟩]) link link' := by
  refine ⟨h.same, h.kept, ?_⟩
  rw [newFailures_append, newFailures_singleton, hwho, if_neg Bool.false_ne_true, List.append_nil]
  exact h.failures

lemma Louder.takeNote (h : Louder who heard link link') (serial : ℕ) (name : String) (manner : Manner)
    (fails : Bool) (chunk : Octets) :
    Louder who (heard ++ [⟨.observer serial name manner fails, chunk⟩])
      (link.takeNote serial name manner fails chunk)
      (link'.takeNote serial name manner (fails || who serial) chunk) := by
  have hnoted := h.note (.heard name chunk)
  cases fails with
  | true =>
    have hfailed := hnoted.note (Listener.observer serial name manner true).failure
    exact hfailed.hear rfl chunk
  | false =>
    have hwho : (Listener.observer serial name manner false).isProvoked who = who serial := rfl
    cases hserial : who serial with
    | true => exact hnoted.fail (hwho.trans hserial) chunk
    | false => exact hnoted.hear (hwho.trans hserial) chunk

/-- A listener goes to its thread; if it fails, that will be seen later. -/
lemma Louder.wake (h : Louder who heard link link') (listener : Listener) (chunk : Octets)
    (going : Delivery) :
    Louder who (heard ++ [⟨listener, chunk⟩]) (link.wake [.returned listener going])
      (link'.wake [.returned (listener.provoked who) (going.recast (Listener.provoked who))]) := by
  refine ⟨?_, h.kept, ?_⟩
  · have hwake := congrArg (fun next : Link => next.wake
      [.returned (listener.provoked who) (going.recast (Listener.provoked who))]) h.same
    refine hwake.trans ?_
    simp [Link.wake, provoke, reseat, audience, Audience.recast, Wake.recast]
  · have houtstanding : (link.wake [.returned listener going]).outstanding who =
        link.outstanding who ++ newFailures who [⟨listener, chunk⟩] := by
      rw [newFailures_singleton, outstanding, Link.wake, List.filterMap_append]
      refine congrArg (link.outstanding who ++ ·) ?_
      rw [List.filterMap_cons, Wake.failure?]
      split <;> rename_i hsome <;> split at hsome <;> simp_all
    rw [houtstanding, newFailures_append, ← List.append_assoc, ← List.append_assoc]
    exact h.failures.append_right _

/-- A worker stops at the closed gate. -/
lemma Louder.block (h : Louder who heard link link') (going : Delivery) :
    Louder who heard { link with blocked := link.blocked ++ [going] }
      { link' with blocked := link'.blocked ++ [going.recast (Listener.provoked who)] } := by
  refine ⟨?_, h.kept, h.failures⟩
  have hblock := congrArg (fun next : Link => { next with
    blocked := next.blocked ++ [going.recast (Listener.provoked who)] }) h.same
  refine hblock.trans ?_
  simp [provoke, reseat, audience, Audience.recast]

/-! ### Turns of workers -/

lemma Louder.deliver (h : Louder who heard link link') (session : ℕ) (chunk : Octets)
    (listeners : List Listener) :
    Louder who (heard ++ hearingsOf link.gateOpen chunk listeners)
        (Link.deliver session chunk listeners link).1
        (Link.deliver session chunk (listeners.map (Listener.provoked who)) link').1 ∧
      (Link.deliver session chunk (listeners.map (Listener.provoked who)) link').2 =
        (Link.deliver session chunk listeners link).2 := by
  induction listeners generalizing heard link link' with
  | nil =>
    have hsame : Louder who (heard ++ []) link link' := (List.append_nil heard).symm ▸ h
    exact ⟨hsame, rfl⟩
  | cons listener rest ih =>
    rw [List.map_cons]
    rcases listener with _ | ⟨serial, name, manner, fails⟩
    · have hrest := ih (@Louder.hear _ _ _ _ (h.receive chunk) .inbox rfl chunk)
      rw [gateOpen_receive, List.append_assoc] at hrest
      exact hrest
    · cases manner with
      | direct =>
        have hrest := ih (h.takeNote serial name .direct fails chunk)
        rw [gateOpen_takeNote, List.append_assoc] at hrest
        exact hrest
      | threaded =>
        exact ⟨(h.note (.heard name chunk)).wake (.observer serial name .threaded fails) chunk
          ⟨session, chunk, rest⟩, rfl⟩
      | gated =>
        rw [Listener.provoked, Link.deliver, Link.deliver, hearingsOf, reached]
        by_cases hopen : link.gateOpen = true
        · rw [if_pos (h.gateOpen.trans hopen), if_pos hopen, if_pos hopen]
          have hrest := ih (h.takeNote serial name .gated fails chunk)
          rw [gateOpen_takeNote, List.append_assoc] at hrest
          exact hrest
        · have hshut : ¬link'.gateOpen = true := fun hopen' => hopen (h.gateOpen.symm.trans hopen')
          rw [if_neg hshut, if_neg hopen, if_neg hopen, List.map_nil, List.append_nil]
          exact ⟨h.block ⟨session, chunk, .observer serial name .gated fails :: rest⟩, rfl⟩

lemma Louder.work (h : Louder who heard link link') (session : ℕ) (queue : List Octets) :
    Louder who (heard ++ hearingsWorking link.gateOpen link.listeners queue)
      (Link.work session queue link) (Link.work session queue link') := by
  induction queue generalizing heard link link' with
  | nil =>
    rw [hearingsWorking, List.append_nil]
    exact h.modifySession session _
  | cons chunk rest ih =>
    obtain ⟨taken, taken', htaken, htaken', hgate, hlisteners, happart⟩ : ∃ taken taken',
        (link.modifySession session fun found => { found with queue := rest }) = taken ∧
        (link'.modifySession session fun found => { found with queue := rest }) = taken' ∧
        taken.gateOpen = link.gateOpen ∧ taken.listeners = link.listeners ∧
        Louder who heard taken taken' := ⟨_, _, rfl, rfl, rfl, rfl, h.modifySession session _⟩
    obtain ⟨hdealt, hend⟩ := happart.deliver session chunk link.listeners
    obtain ⟨hgate', hlisteners', -⟩ := deliver_frame session chunk link.listeners taken
    have hthrough := (deliver_hearings session chunk link.listeners taken).1
    have hrest := ih hdealt
    rw [hgate', hlisteners', hgate, hlisteners, List.append_assoc] at hrest
    rw [work_cons, work_cons, htaken, htaken', h.listeners, hearingsWorking]
    dsimp only
    rw [hend, hthrough, hgate]
    split
    · exact hrest
    · rw [List.append_nil]
      exact hgate ▸ hdealt

lemma Louder.resumeDelivery (h : Louder who heard link link') (going : Delivery) :
    Louder who (heard ++ link.hearingsGoing going) (link.resumeDelivery going)
      (link'.resumeDelivery (going.recast (Listener.provoked who))) := by
  obtain ⟨hdealt, hend⟩ := h.deliver going.session going.chunk going.listeners
  obtain ⟨hgate, hlisteners, hsessions⟩ :=
    deliver_frame going.session going.chunk going.listeners link
  have hthrough := (deliver_hearings going.session going.chunk going.listeners link).1
  have hqueue : (Link.deliver going.session going.chunk going.listeners link).1.queueOf
      going.session = link.queueOf going.session := by
    rw [Link.queueOf, hsessions]
    rfl
  rw [Link.resumeDelivery, Link.resumeDelivery, hearingsGoing, Delivery.recast]
  dsimp only
  generalize Link.deliver going.session going.chunk going.listeners link = result at *
  generalize Link.deliver going.session going.chunk
    (going.listeners.map (Listener.provoked who)) link' = result' at *
  obtain ⟨next, completed⟩ := result
  obtain ⟨next', completed'⟩ := result'
  dsimp only at *
  subst hend
  cases completed' with
  | true =>
    rw [← hthrough, if_pos rfl, ← List.append_assoc, ← hqueue, ← hgate, ← hlisteners]
    dsimp only
    rw [hdealt.queueOf, hgate]
    exact hgate ▸ hdealt.work going.session (next.queueOf going.session)
  | false =>
    rw [← hthrough, if_neg Bool.false_ne_true, List.append_nil]
    exact hdealt

/-- The turn is taken: what its listener still had to log is logged. -/
lemma Louder.pop (h : Louder who heard link link') {wake : Wake} {rest : List Wake}
    (hwakes : link.wakes = wake :: rest) :
    Louder who heard { link with wakes := rest }
      { link' with
        wakes := rest.map (Wake.recast (Listener.provoked who))
        trace := link'.trace ++ (wake.failure? who).toList } := by
  refine ⟨?_, h.kept.trans (List.sublist_append_left ..), ?_⟩
  · exact congrArg (fun next : Link => { next with
      wakes := rest.map (Wake.recast (Listener.provoked who))
      trace := link'.trace ++ (wake.failure? who).toList }) h.same
  · have hsplit : link.outstanding who = (wake.failure? who).toList ++
        outstanding who { link with wakes := rest } := by
      rw [outstanding, hwakes, List.filterMap_cons]
      cases wake.failure? who <;> rfl
    have hfailures := h.failures
    rw [hsplit, ← List.append_assoc] at hfailures
    exact hfailures

lemma Louder.pop_of_none (h : Louder who heard link link') {wake : Wake} {rest : List Wake}
    (hwakes : link.wakes = wake :: rest) (hnone : wake.failure? who = none) :
    Louder who heard { link with wakes := rest }
      { link' with wakes := rest.map (Wake.recast (Listener.provoked who)) } := by
  have hpopped := h.pop hwakes
  rw [hnone, Option.toList_none, List.append_nil] at hpopped
  exact hpopped

/-! ### Turns of calls -/

lemma outstanding_eq_nil (h : link.workerTurns = []) : link.outstanding who = [] := by
  refine List.filterMap_eq_nil_iff.mpr fun wake hmem => ?_
  have hcall := List.filter_eq_nil_iff.mp h wake hmem
  cases wake with
  | returned listener going => exact (hcall rfl).elim
  | _ => rfl

lemma provoke_of_reseat {g : Link → Link} {past : List Note}
    (h : ∀ audience f, g (link.reseat audience f past) = (g link).reseat audience f past)
    (haudience : (g link).audience = link.audience) :
    g (link.provoke who past) = (g link).provoke who past := by
  rw [provoke, h, provoke, haudience]

lemma Louder.turn (h : Louder who heard link link') {wake : Wake} {rest : List Wake}
    (hwakes : link.wakes = wake :: rest) (hunmixed : Unmixed link) :
    Louder who (heard ++ link.hearingsIn wake) ({ link with wakes := rest }.resume wake)
      ({ link' with wakes := rest.map (Wake.recast (Listener.provoked who)) }.resume
        (wake.recast (Listener.provoked who))) := by
  have hcall : workerOf? wake = none → wake.failure? who = none →
      Louder who heard ({ link with wakes := rest }.resume wake)
        ({ link' with wakes := rest.map (Wake.recast (Listener.provoked who)) }.resume wake) := by
    intro hworker hnone
    have hquiet := (@spares_turn 0 link.bare _ _ hwakes hworker).turns
    have hturns := hunmixed.resolve_left (callTurns_ne_nil hwakes hworker)
    have hrest : workerTurns { link with wakes := rest } = [] := by
      rw [workerTurns, hwakes, List.filter_eq_nil_iff] at hturns
      exact List.filter_eq_nil_iff.mpr fun later hlater => hturns later (List.mem_cons_of_mem _ hlater)
    have hnext : (resume (bare { link with wakes := rest }) wake).workerTurns = [] :=
      List.sublist_nil.mp (hturns ▸ hquiet)
    refine (h.pop_of_none hwakes hnone).keep (g := fun link => link.resume wake)
      (k := fun link => link.resume wake) (after_resume wake)
      (provoke_of_reseat (g := fun link => link.resume wake)
        (fun audience f => reseat_resume hworker) (audience_resume hworker)) ?_
    rw [outstanding_eq_nil hnext, outstanding_eq_nil hrest]
  cases wake with
  | call id =>
    rw [hearingsIn, List.append_nil]
    exact hcall rfl rfl
  | leaving id turns outcome =>
    rw [hearingsIn, List.append_nil]
    exact hcall rfl rfl
  | worker session =>
    have hpopped := h.pop_of_none hwakes rfl
    rw [Wake.recast, resume, resume, hpopped.queueOf]
    exact hpopped.work ..
  | delivery going => exact (h.pop_of_none hwakes rfl).resumeDelivery going
  | returned listener going =>
    rcases listener with _ | ⟨serial, name, manner, _ | _⟩
    · exact (h.pop_of_none hwakes rfl).resumeDelivery going
    · cases hwho : who serial with
      | true =>
        -- the second link logs now that the listener has failed on its thread
        have hfailure : (Wake.returned (.observer serial name manner false) going).failure? who =
            some (Listener.observer serial name manner false).failure := by
          rw [Wake.failure?, if_pos]
          exact hwho
        have hpopped := h.pop hwakes
        rw [hfailure] at hpopped
        rw [Wake.recast, Listener.provoked, hwho]
        exact hpopped.resumeDelivery going
      | false =>
        have hnone :
            (Wake.returned (.observer serial name manner false) going).failure? who = none := by
          rw [Wake.failure?, if_neg]
          rw [Listener.isProvoked, Listener.provoked, hwho]
          exact Bool.false_ne_true
        rw [Wake.recast, Listener.provoked, hwho]
        exact (h.pop_of_none hwakes hnone).resumeDelivery going
    · exact ((h.pop_of_none hwakes rfl).note
        (Listener.observer serial name manner true).failure).resumeDelivery going

/-! ### What is heard -/

lemma reached_provoked (gateOpen : Bool) (listeners : List Listener) :
    reached gateOpen (listeners.map (Listener.provoked who)) =
      (reached gateOpen listeners).map (Listener.provoked who) := by
  induction listeners with
  | nil => rfl
  | cons listener rest ih =>
    rcases listener with _ | ⟨serial, name, _ | _ | _, fails⟩
    · exact congrArg (Listener.inbox :: ·) ih
    · exact congrArg (Listener.observer serial name .direct (fails || who serial) :: ·) ih
    · rfl
    · cases gateOpen with
      | true => exact congrArg (Listener.observer serial name .gated (fails || who serial) :: ·) ih
      | false => rfl

lemma goesThrough_provoked (gateOpen : Bool) (listeners : List Listener) :
    goesThrough gateOpen (listeners.map (Listener.provoked who)) = goesThrough gateOpen listeners := by
  have hwaits : ∀ listener : Listener,
      (listener.provoked who).waits gateOpen = listener.waits gateOpen := by
    rintro (_ | ⟨serial, name, _ | _ | _, fails⟩) <;> rfl
  rw [goesThrough, goesThrough, List.any_map]
  exact congrArg (!·) (List.any_congr rfl hwaits)

lemma hearingsOf_provoked (gateOpen : Bool) (chunk : Octets) (listeners : List Listener) :
    hearingsOf gateOpen chunk (listeners.map (Listener.provoked who)) =
      (hearingsOf gateOpen chunk listeners).map (Hearing.provoked who) := by
  rw [hearingsOf, hearingsOf, reached_provoked, List.map_map, List.map_map]
  rfl

lemma hearingsWorking_provoked (gateOpen : Bool) (listeners : List Listener) (queue : List Octets) :
    hearingsWorking gateOpen (listeners.map (Listener.provoked who)) queue =
      (hearingsWorking gateOpen listeners queue).map (Hearing.provoked who) := by
  induction queue with
  | nil => rfl
  | cons chunk rest ih =>
    rw [hearingsWorking, hearingsWorking, hearingsOf_provoked, goesThrough_provoked, ih,
      List.map_append]
    split <;> rfl

lemma Louder.hearingsGoing (h : Louder who heard link link') (going : Delivery) :
    link'.hearingsGoing (going.recast (Listener.provoked who)) =
      (link.hearingsGoing going).map (Hearing.provoked who) := by
  rw [Link.hearingsGoing, Link.hearingsGoing, Delivery.recast]
  dsimp only
  rw [h.gateOpen, h.listeners, h.queueOf, hearingsOf_provoked, goesThrough_provoked,
    hearingsWorking_provoked, List.map_append]
  split <;> rfl

/-- In both links the same listeners hear the same. -/
lemma Louder.hearingsIn (h : Louder who heard link link') (wake : Wake) :
    link'.hearingsIn (wake.recast (Listener.provoked who)) =
      (link.hearingsIn wake).map (Hearing.provoked who) := by
  cases wake with
  | call id => rfl
  | leaving id turns outcome => rfl
  | worker session =>
    rw [Wake.recast, Link.hearingsIn, Link.hearingsIn, h.gateOpen, h.listeners, h.queueOf,
      hearingsWorking_provoked]
  | delivery going => exact h.hearingsGoing going
  | returned listener going => exact h.hearingsGoing going

lemma Louder.drain (h : Louder who heard link link') (hunmixed : Unmixed link) (turns : ℕ) :
    Louder who (heard ++ hearingsDraining turns link) (Link.drain turns link)
        (Link.drain turns link') ∧
      hearingsDraining turns link' = (hearingsDraining turns link).map (Hearing.provoked who) := by
  induction turns generalizing heard link link' with
  | zero =>
    rw [hearingsDraining, List.append_nil]
    exact ⟨h, rfl⟩
  | succ turns ih =>
    rw [hearingsDraining, hearingsDraining, Link.drain, Link.drain, h.wakes]
    cases hwakes : link.wakes with
    | nil =>
      rw [List.map_nil]
      dsimp only
      rw [List.append_nil]
      exact ⟨h, rfl⟩
    | cons wake rest =>
      obtain ⟨hrest, hsame⟩ := ih (h.turn hwakes hunmixed) (hunmixed.turn hwakes)
      rw [List.append_assoc] at hrest
      rw [List.map_cons]
      dsimp only
      rw [List.map_append, ← h.hearingsIn, hsame]
      exact ⟨hrest, rfl⟩

/-! ### Events -/

lemma name_provoked (listener : Listener) : (listener.provoked who).name? = listener.name? := by
  cases listener <;> rfl

/-- Provoked listeners are as different as they were. -/
lemma Numbered.eq_of_provoked (h : Numbered link) {first second : Listener}
    (hfirst : first = .inbox ∨ first ∈ link.observers)
    (hsecond : second = .inbox ∨ second ∈ link.observers)
    (hsame : first.provoked who = second.provoked who) : first = second := by
  have hobserver : ∀ listener ∈ link.observers, ∃ serial name manner fails,
      listener = .observer serial name manner fails ∧ link.observers[serial]? = some listener := by
    intro listener hmem
    obtain ⟨serial, hserial⟩ := List.getElem?_of_mem hmem
    obtain ⟨name, manner, fails, rfl⟩ := h.serials serial listener hserial
    exact ⟨serial, name, manner, fails, rfl, hserial⟩
  rcases hfirst with rfl | hfirst
  · rcases hsecond with rfl | hsecond
    · rfl
    · obtain ⟨serial, name, manner, fails, rfl, -⟩ := hobserver second hsecond
      cases hsame
  · obtain ⟨serial, name, manner, fails, rfl, hserial⟩ := hobserver first hfirst
    rcases hsecond with rfl | hsecond
    · cases hsame
    · obtain ⟨serial', name', manner', fails', rfl, hserial'⟩ := hobserver second hsecond
      -- the same number means the same place among the observers
      obtain rfl := (Listener.observer.inj hsame).1
      exact Option.some.inj (hserial.symm.trans hserial')

lemma observer?_provoke (past : List Note) (name : String) :
    (link.provoke who past).observer? name =
      (link.observer? name).map (Listener.provoked who) := by
  have hname : ((fun listener : Listener => listener.name? == some name) ∘ Listener.provoked who) =
      fun listener => listener.name? == some name := by
    funext listener
    exact congrArg (· == some name) (name_provoked listener)
  change (link.observers.map (Listener.provoked who)).reverse.find? _ = _
  rw [← List.map_reverse, List.find?_map, hname]
  rfl

/-- An event does the same to both links, but the observer that it makes may be provoked. -/
lemma act_provoke (hnumbered : Numbered link) (past : List Note) (id : ℕ) (event : Event) :
    (link.provoke who past).act id (event.provoked who link.observers.length) =
      (link.act id event).provoke who past := by
  have hfinish : ∀ outcome, (link.provoke who past).finish id outcome =
      (link.finish id outcome).provoke who past := fun outcome => reseat_finish id outcome
  by_cases h : event.concernsAudience = false
  · have hevent : event.provoked who link.observers.length = event := by
      cases event <;> first | rfl | cases h
    rw [hevent]
    exact provoke_of_reseat (g := fun link => link.act id event) (fun audience f => reseat_act h id)
      (audience_act h id)
  · cases event with
    | addObserver name manner fails =>
      simp [Event.provoked, act, addObserver, provoke, reseat, audience, Audience.recast,
        Listener.provoked]
    | addAgain name =>
      change (link.provoke who past).act id (.addAgain name) = _
      rw [act, act, observer?_provoke]
      cases link.observer? name with
      | none => rfl
      | some listener => simp [provoke, reseat, audience, Audience.recast]
    | removeObserver name =>
      change (link.provoke who past).act id (.removeObserver name) = _
      rw [act, act, observer?_provoke]
      cases hfound : link.observer? name with
      | none => exact hfinish _
      | some listener =>
        have hdistinct : ∀ other ∈ link.listeners,
            other.provoked who = listener.provoked who → other = listener := fun other hother =>
          hnumbered.eq_of_provoked (hnumbered.listeners other hother)
            (.inr (mem_observers_of_observer? hfound))
        have hmem : listener.provoked who ∈ (link.provoke who past).listeners ↔
            listener ∈ link.listeners := mem_map_iff_of_forall hdistinct
        have herase : (link.provoke who past).listeners.erase (listener.provoked who) =
            (link.listeners.erase listener).map (Listener.provoked who) :=
          map_erase_of_forall hdistinct
        rw [Option.map_some]
        dsimp only
        rw [hfinish, herase]
        by_cases hlistens : listener ∈ link.listeners
        · rw [if_pos (hmem.mpr hlistens), if_pos hlistens]
          rfl
        · rw [if_neg (hlistens ∘ hmem.mp), if_neg hlistens]
    | openGate =>
      simp [Event.provoked, act, provoke, reseat, audience, Audience.recast, Link.wake,
        Wake.recast, Function.comp_def]
    | closeGate => rfl
    | _ => exact (h rfl).elim

/-- After an event no listener is on its way back from a thread. -/
lemma outstanding_act (hwakes : link.wakes = []) (id : ℕ) (event : Event) :
    (link.act id event).outstanding who = [] := by
  rcases turns_act hwakes id event with hturns | ⟨-, hworkers⟩
  · exact outstanding_eq_nil hturns
  · refine List.filterMap_eq_nil_iff.mpr fun wake hmem => ?_
    obtain ⟨session, rfl⟩ | ⟨going, rfl⟩ := hworkers wake hmem <;> rfl

lemma Louder.act (h : Louder who heard link link') (hnumbered : Numbered link)
    (hwakes : link.wakes = []) (id : ℕ) (event : Event) :
    Louder who heard (link.act id event)
      (link'.act id (event.provoked who link.observers.length)) := by
  have hbare : Numbered link.bare := ⟨hnumbered.serials, hnumbered.listeners⟩
  have hloud : (link.bare.provoke who link'.trace).act id (event.provoked who link.observers.length) =
      (link.bare.act id event).provoke who link'.trace := act_provoke hbare _ id event
  refine h.keep (g := fun link => link.act id event)
    (k := fun other => other.act id (event.provoked who link.observers.length)) (after_act id event)
    hloud ?_
  have hbefore : link.outstanding who = [] := by
    rw [outstanding, hwakes]
    rfl
  have hquiet : link.bare.wakes = [] := hwakes
  exact (outstanding_act hquiet id event).trans hbefore.symm

/-! ### Runs -/

lemma hearings_cons (link : Link) (event : Event) (later : List Event) :
    link.hearings (event :: later) = link.hearings [event] ++ (link.step event).hearings later := by
  rw [hearings, hearings, hearings, List.append_nil]

lemma Louder.step (h : Louder who heard link link') (hnumbered : Numbered link)
    (hwakes : link.wakes = []) (event : Event) :
    Louder who (heard ++ link.hearings [event]) (link.step event)
        (link'.step (event.provoked who link.observers.length)) ∧
      link'.hearings [event.provoked who link.observers.length] =
        (link.hearings [event]).map (Hearing.provoked who) := by
  have hact := h.act hnumbered hwakes link.clock event
  obtain ⟨hdrained, hsame⟩ := hact.drain (unmixed_act hwakes link.clock event)
    (link.act link.clock event).load
  rw [hearings, hearings, hearings, hearings, List.append_nil, List.append_nil, Link.step, Link.step,
    h.clock, settle, settle, hact.load]
  exact ⟨⟨congrArg (fun next : Link => { next with clock := link.clock + 1 }) hdrained.same,
    hdrained.kept, hdrained.failures⟩, hsame⟩

lemma Louder.run (h : Louder who heard link link') (hnumbered : Numbered link)
    (hwakes : link.wakes = []) (events : List Event) :
    Louder who (heard ++ link.hearings events) (link.run events)
        (link'.run (provoked who link.observers.length events)) ∧
      link'.hearings (provoked who link.observers.length events) =
        (link.hearings events).map (Hearing.provoked who) := by
  induction events generalizing heard link link' with
  | nil =>
    rw [hearings, List.append_nil]
    exact ⟨h, rfl⟩
  | cons event later ih =>
    obtain ⟨hstep, hheard⟩ := h.step hnumbered hwakes event
    obtain ⟨hnumbered', hlength⟩ := hnumbered.step event
    obtain ⟨hrun, hlater⟩ := ih hstep hnumbered' (wakes_step link event)
    rw [hlength] at hrun hlater
    rw [hearings_cons link event later, provoked,
      hearings_cons link' (event.provoked who link.observers.length), ← List.append_assoc,
      List.map_append, ← hlater, ← hheard]
    exact ⟨hrun, rfl⟩

end PixelPanel.Proofs
