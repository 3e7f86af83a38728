import PixelPanel.Proofs.Link.SameRoster
import PixelPanel.Proofs.PanelSteps

/-!
# Sessions that take in the same

A session takes in what the device sends while its reader listens, and changes of the callbacks, of the
listeners and of the gate. Everything else that happens to a panel, short of the end of the session,
leaves what the session reports alone. So a session reports the same as another one that takes in the
same and to which nothing else happens.
-/

namespace PixelPanel.Proofs
open Link

variable {session : ℕ} {link link' : Link} {k : ℕ → ℕ} {seat seat' : Seat} {names : String → Prop}

/-! ### What a session does not take in -/

lemma exists_found (hlt : session < link.sessions.length) : ∃ isOpen, link.sessions[session]? =
    some ⟨isOpen, link.isReading session, link.idle session, link.queueOf session⟩ := by
  refine ⟨link.sessions[session].isOpen, ?_⟩
  rw [isReading, idle, queueOf, List.getElem?_eq_getElem hlt]
  rfl

lemma isReport_of_byListeners {seen : Note} (h : seen.byListeners = false) :
    seen.isReport = false := by
  cases seen with
  | log entry =>
    have horigin : entry.origin = .link := by simpa [Note.byListeners] using h
    rw [Note.isReport, horigin]
    rfl
  | heard listener chunk => cases h
  | told callback report => cases h
  | _ => rfl

lemma Mirrors.unrelated (h : Mirrors k seat seat' link link') {notes : List Note}
    (hnotes : Unrelated notes) :
    Mirrors k seat seat' { link with trace := link.trace ++ notes } link' := by
  obtain ⟨since, hreports, hreports'⟩ := h.reports
  have hnone : notes.filter Note.isReport = [] := List.filter_eq_nil_iff.mpr fun seen hmem => by
    rw [hnotes seen hmem]
    exact Bool.false_ne_true
  refine { h with reports := ⟨since, ?_, hreports'⟩ }
  rw [Link.reports, List.filter_append, hnone, List.append_nil]
  exact hreports

/-- What spares the session and its audience makes no difference. -/
lemma Mirrors.spares (h : Mirrors k seat seat' link link') {next : Link}
    (hspares : Spares seat.session link next) (haudience : next.audience = link.audience)
    (hwakes : link.wakes = []) (hcalm : Calm next) (hcurrent : next.current = some seat.session) :
    Mirrors k seat seat' next link' := by
  obtain ⟨hsame, -⟩ := hspares.same (owned_of_current hcalm.sound hcalm.wakes hcurrent)
  obtain ⟨more, htrace, hquiet⟩ := hspares.trace
  have hlogged := h.unrelated fun seen hmem => isReport_of_byListeners (hquiet seen hmem)
  rw [← htrace] at hlogged
  obtain ⟨isOpen, isOpen', idle, queue, hfound, hfound'⟩ := h.found
  obtain ⟨isOpen'', hfound''⟩ := exists_found (lt_of_current hcalm.sound hcurrent)
  rw [hsame.reading, hsame.idle, hspares.queue] at hfound''
  have hparts : link.isReading seat.session = seat.listens ∧ link.idle seat.session = idle ∧
      link.queueOf seat.session = queue := by
    rw [isReading, Link.idle, Link.queueOf, hfound]
    exact ⟨rfl, rfl, rfl⟩
  rw [hparts.1, hparts.2.1, hparts.2.2] at hfound''
  have hnone : link'.wakes = [] := by rw [h.wakes, hwakes, List.map_nil]
  have hlisteners : next.listeners = link.listeners := congrArg Audience.listeners haudience
  exact
    { current := hcurrent
      current' := h.current'
      found := ⟨isOpen'', isOpen', idle, queue, hfound'', hfound'⟩
      capacity := h.capacity.trans hspares.capacity.symm
      inbox := h.inbox.trans hspares.inbox.symm
      gateOpen := h.gateOpen.trans (congrArg Audience.gateOpen haudience).symm
      listeners := by
        rw [hlisteners]
        exact h.listeners
      blocked := by
        rw [hsame.blocked]
        exact h.blocked
      wakes := by rw [hnone, hcalm.wakes, List.map_nil]
      own := by
        rw [hsame.blocked]
        exact h.own
      turns := by
        rw [hcalm.wakes]
        exact List.forall_mem_nil _
      reports := hlogged.reports }

lemma Mirrors.retire (h : Mirrors k seat seat' link link') (reason : String) :
    Mirrors k seat seat' (link.retire reason) link' := by
  have hclosed : ∀ {link : Link}, Mirrors k seat seat' link link' →
      Mirrors k seat seat' { link with phase := .closed } link' := fun h => { h with }
  unfold Link.retire
  dsimp only
  split
  · exact hclosed (h.unrelated (List.forall_mem_singleton.mpr rfl))
  · exact hclosed h

/-- The reader comes to its end. -/
lemma Mirrors.readEnd (h : Mirrors k seat seat' link link') :
    Mirrors k { seat with listens := false } seat' link.readEnd link' := by
  have hfold : ∀ (sessions : List Session) {link : Link},
      Mirrors k { seat with listens := false } seat' link link' →
      Mirrors k { seat with listens := false } seat' (sessions.foldl (fun link session =>
        if session.reading then link.retire "closed by device" else link) link) link' := by
    intro sessions
    induction sessions with
    | nil => exact id
    | cons found rest ih =>
      intro link h
      rw [List.foldl_cons]
      split
      · exact ih (h.retire _)
      · exact ih h
  obtain ⟨isOpen, isOpen', idle, queue, hfound, hfound'⟩ := h.found
  refine hfold link.sessions { h with found := ⟨isOpen, isOpen', idle, queue, ?_, hfound'⟩ }
  change (link.sessions.map _)[seat.session]? = _
  rw [List.getElem?_map, hfound]
  rfl

/-- A read fails. Only the reader of the session in use can have read. -/
lemma Mirrors.readError (h : Mirrors k seat seat' link link')
    (honly : ∀ other, link.isReading other → other = seat.session) (error : SystemError) :
    Mirrors k { seat with listens := false } seat' (link.readError error) link' := by
  obtain ⟨isOpen, isOpen', idle, queue, hfound, hfound'⟩ := h.found
  unfold Link.readError
  split
  · rename_i hnone
    have hsilent := List.findIdx?_eq_none_iff.mp hnone _ (List.mem_of_getElem? hfound)
    dsimp only at hsilent
    rw [hsilent] at hfound
    exact { h with found := ⟨isOpen, isOpen', idle, queue, hfound, hfound'⟩ }
  · rename_i reader hfind
    obtain ⟨hlt, hfirst⟩ := List.findIdx?_eq_some_iff_findIdx_eq.mp hfind
    have hreads : link.isReading reader := by
      have hreading : link.sessions[reader].reading = true := by
        subst hfirst
        exact List.findIdx_getElem
      rw [isReading, List.getElem?_eq_getElem hlt]
      exact hreading
    obtain rfl := honly reader hreads
    refine Mirrors.retire ?_ _
    refine { h with found := ⟨isOpen, isOpen', idle, queue, ?_, hfound'⟩ }
    rw [modifySession, List.getElem?_modify_eq, hfound]
    rfl

lemma Spares.tick {next : Link} (h : Spares session link next) (clock : ℕ) :
    Spares session link { next with clock := clock } where
  __ := h
  trace := h.trace
  turns := h.turns
  tasks := h.tasks.imp_right fun hsame => { hsame with }

lemma wakes_eq_nil (hcalls : callTurns link = []) (hworkers : link.workerTurns = []) :
    link.wakes = [] := by
  refine List.eq_nil_iff_forall_not_mem.mpr fun wake hmem => ?_
  have hcall := List.filter_eq_nil_iff.mp hcalls wake hmem
  have hworker := List.filter_eq_nil_iff.mp hworkers wake hmem
  cases h : workerOf? wake <;> simp [h] at hcall hworker

/-- Only the reader of the session in use can run. -/
lemma Calm.eq_of_isReading (h : Calm link) (hcurrent : link.current = some session) {other : ℕ}
    (hreading : link.isReading other) : other = session := by
  by_contra hne
  have hsilent := (crew_of_ne_current h.sound trivial fun hother =>
    hne (Option.some.inj (hother.symm.trans hcurrent))).1
  exact Bool.false_ne_true (hsilent.symm.trans hreading)

/-- After an event by which nothing can run, nothing more happens. -/
lemma Mirrors.over {event : Event} (h : Mirrors k seat seat' (link.act link.clock event) link')
    (hnone : (link.act link.clock event).wakes = []) :
    Mirrors k seat seat' (link.step event) link' := by
  rw [step_of_wakes event hnone]
  exact { h with }

/-- An event that ends the reading. -/
lemma Mirrors.endReading (h : Mirrors k seat seat' link link') (hcalm : Calm link) {event : Event}
    (hends : event.endsReading) :
    Mirrors k { seat with listens := false } seat' (link.step event) link' := by
  have hcalls := callTurns_eq_nil hcalm.wakes
  have hworkers : ∀ {next : Link}, Quiet link next → next.workerTurns = [] := fun hquiet =>
    List.sublist_nil.mp (workerTurns_of_nil hcalm.wakes ▸ hquiet.turns)
  cases event with
  | deviceCloses =>
    exact h.readEnd.over (wakes_eq_nil (aside_readEnd.turns.trans hcalls) (hworkers quiet_readEnd))
  | readFails error =>
    refine (h.readError (fun other => hcalm.eq_of_isReading h.current) error).over ?_
    exact wakes_eq_nil ((aside_readError error).turns.trans hcalls) (hworkers (quiet_readError error))
  | _ => cases hends

/-- Nobody reads what the device sends any more. -/
lemma Mirrors.unread (h : Mirrors k seat seat' link link') (hcalm : Calm link)
    (hsilent : seat.listens = false) (octets : Octets) :
    Mirrors k seat seat' (link.step (.deviceSends octets)) link' := by
  have hnone : link.hasReader = false := by
    refine hasReader_eq_false fun other => Bool.eq_false_iff.mpr fun hreading => ?_
    obtain ⟨isOpen, isOpen', idle, queue, hfound, -⟩ := h.found
    rw [hcalm.eq_of_isReading h.current hreading, isReading, hfound] at hreading
    exact Bool.false_ne_true (hsilent.symm.trans hreading)
  have hact : link.act link.clock (.deviceSends octets) = link := by
    rw [act, Link.read, hnone]
    rfl
  exact Mirrors.over (hact.symm ▸ h) (hact.symm ▸ hcalm.wakes)

/-- An event of the link that the session does not take in. -/
lemma Mirrors.linkAlone (h : Mirrors k seat seat' link link') (hcalm : Calm link)
    (hattempts : ∀ call ∈ link.calls, call.socket? = none) {event : Event}
    (hconnects : event.connects = false)
    (hinput : (Panel.Event.link event).isInput seat.listens = false)
    (hcalm' : Calm (link.step event)) (hcurrent : (link.step event).current = some seat.session) :
    Mirrors k { seat with listens := seat.listens && !event.endsReading } seat' (link.step event)
      link' := by
  cases hends : event.endsReading with
  | true =>
    rw [Bool.not_true, Bool.and_false]
    exact h.endReading hcalm hends
  | false =>
    rw [Bool.not_false, Bool.and_true]
    have hactive : event.connects → link.phase = .active := fun hyes => by
      rw [hconnects] at hyes
      cases hyes
    rcases @spares_act seat.session link hattempts event hactive link.clock with
      hspares | hyes | rfl | ⟨octets, rfl⟩
    · have haudience : event.concernsAudience = false := by
        cases event <;> first | rfl | exact hinput
      have hturns : (link.act link.clock event).workerTurns = [] :=
        List.sublist_nil.mp (workerTurns_of_nil hcalm.wakes ▸ hspares.turns)
      obtain ⟨hdrained, hsame⟩ :=
        @spares_drain seat.session _ hturns (link.act link.clock event).load
      exact h.spares ((hspares.trans hdrained).tick _) (hsame.trans (audience_act haudience _))
        hcalm.wakes hcalm' hcurrent
    · exact (Bool.false_ne_true (hends.symm.trans hyes)).elim
    · cases hinput
    · exact h.unread hcalm hinput octets

/-- An event that the session does not take in. -/
lemma Mirrors.alone (h : Mirrors k seat seat' link link') (hcalm : Calm link)
    (hattempts : ∀ call ∈ link.calls, call.socket? = none) {event : Panel.Event}
    (hconnects : event.connects = false) (hinput : event.isInput seat.listens = false)
    (hcurrent : (Panel.step link event).current = some seat.session) :
    Mirrors k { seat with listens := seat.listens && !event.endsReading } seat'
      (Panel.step link event) link' := by
  have hcalm' := (hcalm.panelStep fun hyes => (Bool.false_ne_true (hconnects.symm.trans hyes)).elim).1
  have hstep := stepping_panelStep link event
  generalize Panel.step link event = next at hstep hcurrent hcalm' ⊢
  have hsame : event.isOutput → { seat with listens := seat.listens && !event.endsReading } = seat := by
    intro houtput
    have hends : event.endsReading = false := by
      cases event <;> first | rfl | cases houtput
    rw [hends, Bool.not_false, Bool.and_true]
  cases hstep with
  | attempt event hyes => cases hconnects.symm.trans hyes
  | link event _ => exact h.linkAlone hcalm hattempts hconnects hinput hcalm' hcurrent
  | callback name fails => cases hinput
  | refused houtput notes hnotes =>
    rw [hsame houtput]
    exact { h.unrelated hnotes with }
  | sent houtput notes hnotes messages =>
    have hlogged : Calm { link with trace := link.trace ++ notes } := { hcalm with }
    have hsent := @Mirrors.linkAlone _ _ _ _ _ (h.unrelated hnotes) hlogged hattempts (.send messages)
      rfl rfl hcalm' hcurrent
    rw [hsame houtput]
    simpa [Event.endsReading] using hsent

/-! ### What a session takes in -/

/-- Two sessions side by side whose listeners are the same under other numbers. -/
structure Paired (k : ℕ → ℕ) (names : String → Prop) (seat seat' : Seat) (link link' : Link) : Prop
    extends Mirrors k seat seat' link link' where
  roster : SameRoster k names link link'

lemma Paired.note (h : Paired k names seat seat' link link') {seen seen' : Note}
    (hseen : seen.isReport = false) (hseen' : seen'.isReport = false) :
    Paired k names seat seat' (link.note seen) (link'.note seen') := by
  refine ⟨h.toMirrors.trace ?_, h.roster.congr rfl rfl rfl rfl⟩
  rw [List.filter_cons_of_neg (by rw [hseen']; exact Bool.false_ne_true),
    List.filter_cons_of_neg (by rw [hseen]; exact Bool.false_ne_true)]

/-- Other listeners that are known, in both links. -/
lemma Paired.listen (h : Paired k names seat seat' link link') {listeners : List Listener}
    (hknown : ∀ listener ∈ listeners, IsKnown names link listener) :
    Paired k names seat seat' { link with listeners := listeners }
      { link' with listeners := listeners.map (Listener.renumbered k) } := by
  have hbefore : ∀ listener, IsKnown names { link with listeners := listeners } listener →
      IsKnown names link listener := fun listener hlistener =>
    hlistener.elim (hknown listener) .inr
  have hserials : ∀ listener ∈ listeners, listener = .inbox ∨ listener ∈ link.observers := by
    intro listener hmem
    rcases hknown listener hmem with hmem | ⟨name, -, hfound⟩
    · exact h.roster.numbered.listeners listener hmem
    · exact .inr (mem_observers_of_observer? hfound)
  refine ⟨{ h.toMirrors with listeners := rfl }, ⟨h.roster.numbered.serials, hserials⟩,
    ⟨h.roster.numbered'.serials, fun listener hmem => ?_⟩, h.roster.next, rfl, h.roster.found,
    fun first second hfirst hsecond =>
      h.roster.distinct first second (hbefore first hfirst) (hbefore second hsecond)⟩
  obtain ⟨before, hlistener, rfl⟩ := List.mem_map.mp hmem
  exact h.roster.image (hknown before hlistener)

lemma Paired.settle (h : Paired k names seat seat' link link') :
    Paired k names seat seat' link.settle link'.settle := by
  obtain ⟨hlisteners, hobservers⟩ := roster_drain link.load link
  obtain ⟨hlisteners', hobservers'⟩ := roster_drain link'.load link'
  exact ⟨h.toMirrors.settle, h.roster.congr hlisteners hobservers hlisteners' hobservers'⟩

lemma Paired.step {event : Event}
    (hact : Paired k names seat seat' (link.act link.clock event) (link'.act link'.clock event)) :
    Paired k names seat seat' (link.step event) (link'.step event) := by
  have hsettled := hact.settle
  exact ⟨{ hsettled.toMirrors with }, hsettled.roster.congr rfl rfl rfl rfl⟩

lemma Paired.removeObserver (h : Paired k names seat seat' link link') {name : String}
    (hname : names name) (id id' : ℕ) :
    Paired k names seat seat' (link.act id (.removeObserver name))
      (link'.act id' (.removeObserver name)) := by
  rw [act, act, h.roster.found name hname]
  cases hfound : link.observer? name with
  | none => exact h.note rfl rfl
  | some listener =>
    have hdistinct : ∀ other ∈ link.listeners,
        other.renumbered k = listener.renumbered k → other = listener := fun other hother =>
      h.roster.distinct other listener (.inl hother) (.inr ⟨name, hname, hfound⟩)
    have hmem : listener.renumbered k ∈ link'.listeners ↔ listener ∈ link.listeners := by
      rw [h.roster.listeners]
      exact mem_map_iff_of_forall hdistinct
    have herase : link'.listeners.erase (listener.renumbered k) =
        (link.listeners.erase listener).map (Listener.renumbered k) := by
      rw [h.roster.listeners]
      exact map_erase_of_forall hdistinct
    rw [Option.map_some]
    dsimp only
    by_cases hlistens : listener ∈ link.listeners
    · rw [if_pos (hmem.mpr hlistens), if_pos hlistens, herase]
      exact h.listen fun other hother => .inl (List.mem_of_mem_erase hother)
    · rw [if_neg (hlistens ∘ hmem.mp), if_neg hlistens]
      exact h.note rfl rfl

/-- A change of the listeners or of the gate is the same in both links. -/
lemma Paired.act (h : Paired k names seat seat' link link') {event : Event}
    (haudience : event.concernsAudience)
    (hnames : ∀ name, (Panel.Event.link event).name? = some name → names name) (id id' : ℕ) :
    Paired k names seat seat' (link.act id event) (link'.act id' event) := by
  cases event with
  | addObserver name manner fails =>
    have hroster := h.roster.addObserver name manner fails
    exact ⟨{ h.toMirrors with listeners := hroster.listeners }, hroster⟩
  | addAgain name =>
    have hname := hnames name rfl
    rw [Link.act, Link.act, h.roster.found name hname]
    cases hfound : link.observer? name with
    | none => exact h
    | some listener =>
      have hadded := @Paired.listen _ _ _ _ _ _ h (link.listeners ++ [listener])
        (List.forall_mem_append.mpr ⟨fun _ => .inl,
          List.forall_mem_singleton.mpr (.inr ⟨name, hname, hfound⟩)⟩)
      rw [List.map_append, ← h.roster.listeners] at hadded
      exact hadded
  | removeObserver name => exact h.removeObserver (hnames name rfl) id id'
  | openGate =>
    have hopened : Mirrors k seat seat' { link with gateOpen := true, blocked := [] }
        { link' with gateOpen := true, blocked := [] } :=
      { h.toMirrors with gateOpen := rfl, blocked := rfl, own := List.forall_mem_nil _ }
    have hwoken := @Mirrors.wake _ _ _ _ _ hopened (link.blocked.map .delivery) fun wake hmem => by
      obtain ⟨going, hgoing, rfl⟩ := List.mem_map.mp hmem
      exact congrArg some (h.own going hgoing)
    have hsame : link'.blocked.map Wake.delivery =
        (link.blocked.map Wake.delivery).map (Wake.moved k seat'.session) := by
      rw [h.blocked, List.map_map, List.map_map]
      rfl
    rw [← hsame] at hwoken
    exact ⟨hwoken, h.roster.congr rfl rfl rfl rfl⟩
  | closeGate => exact ⟨{ h.toMirrors with gateOpen := rfl }, h.roster.congr rfl rfl rfl rfl⟩
  | _ => cases haudience

/-- What a session takes in comes to the same in both. -/
lemma Paired.input (h : Paired k names seat seat' link link') {event : Panel.Event}
    (hinput : event.isInput seat.listens) (hlistens : seat'.listens)
    (hnames : ∀ name, event.name? = some name → names name) :
    Paired k names seat seat' (Panel.step link event) (Panel.step link' event) := by
  cases event with
  | link event =>
    have hconnects : event.connects = false := by
      cases event <;> first | rfl | cases hinput
    rw [panelStep_link hconnects, panelStep_link hconnects]
    by_cases hsends : ∃ octets, event = .deviceSends octets
    · obtain ⟨octets, rfl⟩ := hsends
      have hread : Mirrors k seat seat' (link.act link.clock (.deviceSends octets))
          (link'.act link'.clock (.deviceSends octets)) := by
        rw [Link.act, Link.act]
        exact h.toMirrors.read hinput hlistens octets
      have hsame := @audience_act link (.deviceSends octets) rfl link.clock
      have hsame' := @audience_act link' (.deviceSends octets) rfl link'.clock
      exact Paired.step ⟨hread, h.roster.congr (congrArg Audience.listeners hsame)
        (congrArg Audience.observers hsame) (congrArg Audience.listeners hsame')
        (congrArg Audience.observers hsame')⟩
    · have haudience : event.concernsAudience := by
        cases event <;> first | exact hinput | exact (hsends ⟨_, rfl⟩).elim
      exact (h.act haudience hnames _ _).step
  | addCallback name fails =>
    have hadded : Paired k names seat seat' { link with inbox := { link.inbox with
          callbacks := link.inbox.callbacks ++ [⟨name, fails⟩] } }
        { link' with inbox := { link'.inbox with
          callbacks := link'.inbox.callbacks ++ [⟨name, fails⟩] } } :=
      ⟨{ h.toMirrors with inbox := by rw [h.inbox] }, h.roster.congr rfl rfl rfl rfl⟩
    exact @Paired.step _ _ _ _ _ _ .nothing hadded
  | sendPackets packets => cases hinput
  | command command => cases hinput
  | animate pictures durations => cases hinput

/-! ### Runs -/

/-- A session reports the same as another one that takes in the same and nothing else happens to. -/
lemma Paired.run (h : Paired k names seat seat' link link') (hcalm : Calm link)
    (hattempts : ∀ call ∈ link.calls, call.socket? = none) (hlistens : seat'.listens)
    {events : List Panel.Event} (hconnects : ∀ event ∈ events, event.connects = false)
    (hnames : ∀ event ∈ events, ∀ name, event.name? = some name → names name)
    (hlasts : (Panel.run link events).current = some seat.session) :
    ∃ since, (Panel.run link events).reports = seat.past ++ since ∧
      (Panel.run link' (Panel.inputs seat.listens events)).reports = seat'.past ++ since := by
  induction events generalizing link link' seat with
  | nil => exact h.reports
  | cons event later ih =>
    obtain ⟨hevent, hlater⟩ := List.forall_mem_cons.mp hconnects
    obtain ⟨hname, hnames⟩ := List.forall_mem_cons.mp hnames
    have hcalm' := (hcalm.panelStep fun hyes => (Bool.false_ne_true (hevent.symm.trans hyes)).elim).1
    have hattempts' := (fewer_panelStep hevent hattempts).attempts_none hattempts
    have hcurrent := (fewer_panelRun hlater hattempts').current seat.session hlasts
    rw [Panel.inputs]
    cases hinput : event.isInput seat.listens with
    | true => exact ih (h.input hinput hlistens hname) hcalm' hattempts' hlater hnames hlasts
    | false =>
      obtain ⟨hlisteners, hobservers⟩ := @roster_panelStep link event _ hevent hinput
      have halone : Paired k names { seat with listens := seat.listens && !event.endsReading } seat'
          (Panel.step link event) link' :=
        ⟨h.toMirrors.alone hcalm hattempts hevent hinput hcurrent,
          h.roster.congr hlisteners hobservers rfl rfl⟩
      exact ih halone hcalm' hattempts' hlater hnames hlasts

end PixelPanel.Proofs
