import PixelPanel.Proofs.Courses
import PixelPanel.Proofs.Link.Batches
import PixelPanel.Proofs.Link.Records
import PixelPanel.Proofs.ScopeExit

/-!
# What a conversation leaves behind

Whatever happens while a conversation connects, sends and listens, its link is left without a socket, a
reader or a worker. It succeeds exactly if a session has begun and all packets were written, and
otherwise its error tells which call has failed.
-/

namespace PixelPanel.Link

/-- The sessions that have begun on a link, and the messages that were written. -/
def deeds (link : Link) : List Note :=
  link.trace.filter Note.isDeed

/-- Whether an error comes from the link. -/
def CallError.isOfLink : CallError → Bool
  | .alreadyOpen _ | .connectFailed .. | .notConnected | .writeFailed _ => true
  | _ => false

/-- The error of an outcome. -/
def Outcome.error? : Outcome → Option CallError
  | .done => none
  | .failed error => some error

end PixelPanel.Link

namespace PixelPanel.Proofs
open Link CommandLine

/-! ### Deeds -/

variable {base link link' : Link} {errand : Errand} {begun : Option ℕ} {written : List Octets}
  {outcome : Outcome} {id : ℕ}

lemma deeds_record (link : Link) (id : ℕ) : (link.record id).filter Note.isDeed = link.deeds := by
  rw [record, List.filter_filter, deeds]
  refine List.filter_congr fun seen _ => ?_
  cases seen <;> simp [Note.isDeed, Note.concerns]

lemma deeds_entries (begun : Option ℕ) (written : List Octets) :
    (entries begun written).filter Note.isDeed = entries begun written := by
  refine List.filter_eq_self.mpr fun seen hmem => ?_
  rcases List.mem_append.mp hmem with hmem | hmem <;> obtain ⟨_, -, rfl⟩ := List.mem_map.mp hmem <;> rfl

lemma Over.deeds (h : Over base errand begun written outcome link) :
    link.deeds = base.deeds ++ entries begun written := by
  rw [← deeds_record link errand.id, h.record, List.filter_append, List.filter_append, deeds_record,
    deeds_entries]
  exact List.append_nil _

lemma deeds_aside (h : Aside link link') : link'.deeds = link.deeds := by
  rw [← deeds_record link' 0, record_aside h, deeds_record]

lemma deeds_finish (outcome : Outcome) : (link.finish id outcome).deeds = link.deeds := by
  rw [Link.deeds, finish, note, List.filter_append]
  exact List.append_nil _

/-- No call is pending, and nothing of what a call does has happened. -/
structure Callless (link link' : Link) : Prop where
  calls : link'.calls = []
  turns : callTurns link' = []
  deeds : link'.deeds = link.deeds

lemma Callless.aside {link'' : Link} (h : Callless link link') (haside : Aside link' link'') :
    Callless link link'' :=
  ⟨haside.calls.trans h.calls, haside.turns.trans h.turns, (deeds_aside haside).trans h.deeds⟩

lemma callless_act (hcalls : link.calls = []) (hwakes : link.wakes = []) {event : Event}
    (hevent : event.isCall = false) (id : ℕ) : Callless link (link.act id event) := by
  have hsame : Callless link link := ⟨hcalls, callTurns_eq_nil hwakes, rfl⟩
  cases hconcerns : event.concernsCalls with
  | false =>
    obtain ⟨middle, haside, hact⟩ := @act_of_concernsCalls_eq_false link event hconcerns id
    have hmiddle := hsame.aside haside
    rcases hact with hact | ⟨outcome, hact⟩
    · exact hact ▸ hmiddle
    · exact hact ▸ ⟨hmiddle.calls, hmiddle.turns, (deeds_finish outcome).trans hmiddle.deeds⟩
  | true =>
    cases event with
    | answer answer =>
      rwa [Link.act, answerYoungest_of_attempts (attempts_of_calls hcalls)]
    | cancel call =>
      rwa [Link.act, cancel, hcalls]
    | releaseWrites =>
      refine ⟨hcalls, ?_, rfl⟩
      rw [Link.act, callTurns, wake, hwakes, hcalls]
      rfl
    | connect | scope | send => cases hevent
    | _ => cases hconcerns

lemma callless_step (hcalls : link.calls = []) (hwakes : link.wakes = []) {event : Event}
    (hevent : event.isCall = false) : Callless link (link.step event) := by
  have hacted := callless_act hcalls hwakes hevent link.clock
  have hsettled := hacted.aside (aside_drain hacted.turns (link.act link.clock event).load)
  exact ⟨hsettled.calls, hsettled.turns, hsettled.deeds⟩

/-! ### The end of a call that is given up -/

lemma calls_drain (hcalls : link.calls = []) (turns : ℕ) : (drain turns link).calls = [] := by
  refine drain_induction (P := fun link => link.calls = []) (fun link wake rest h _ => ?_) turns link hcalls
  cases hworker : workerOf? wake with
  | some worker =>
    have haside := aside_of_works (@resume_works { link with wakes := rest } _ _ hworker)
    exact haside.calls.trans h
  | none =>
    cases wake with
    | call id =>
      rw [resume, resumeCall, h]
      rfl
    | leaving id turns outcome =>
      cases turns with
      | zero => exact closeSocket_calls.trans h
      | succ turns => exact h
    | worker session => cases hworker
    | delivery going => cases hworker
    | returned listener going => cases hworker

lemma Alone.exists_call (h : Alone base errand link) (hpending : link.calls ≠ []) :
    ∃ call, link.calls = [call] ∧ call.id = errand.id := by
  cases h with
  | dialling h => exact ⟨_, h.calls, rfl⟩
  | writing h => exact ⟨_, h.calls, rfl⟩
  | leaving _ _ _ _ hcalls => exact (hpending hcalls).elim
  | finished _ _ _ hcalls => exact (hpending hcalls).elim

lemma calls_cancel {call : Call} (hcalls : link.calls = [call]) : (link.cancel call.id).calls = [] := by
  have hremoved := removeCall_of_calls hcalls
  rw [cancel, find?_call_alone hcalls]
  dsimp only
  split
  · exact hremoved
  · exact (calls_abandon ..).trans hremoved
  · exact (calls_abandon ..).trans hremoved

/-! ### One attempt of a conversation -/

lemma reaches_linger (link : Link) {events : List Event} (hmute : ∀ event ∈ events, event.isCall = false) :
    Reaches WhilePending link (linger link events) := by
  induction events generalizing link with
  | nil => exact .refl
  | cons event later ih =>
    obtain ⟨hevent, hlater⟩ := List.forall_mem_cons.mp hmute
    rw [linger]
    split
    · exact .refl
    · rename_i hpending
      refine .head ⟨.direct event, ⟨fun hnone => hpending ?_, hevent⟩, rfl⟩ (ih (link.step event) hlater)
      rw [hnone]
      rfl

lemma truthful_linger (h : Truthful link.clock link) (events : List Event) :
    Truthful (linger link events).clock (linger link events) := by
  induction events generalizing link with
  | nil => exact h
  | cons event later ih =>
    rw [linger]
    split
    · exact h
    · exact ih (h.step event)

/-- The only outcome that a call has is that of its body. -/
lemma Over.error (h : Over base errand begun written outcome link) (hplain : errand.ending = .plain)
    (hnew : ∀ result, .finished errand.id result ∉ base.trace) :
    Conversation.errorOf link errand.id = outcome.error? := by
  have hpasses : errand.ending.passes outcome = outcome := by
    rw [hplain]
    rfl
  have hends : ∀ result, .finished errand.id result ∈ link.trace ↔ result = outcome := by
    intro result
    have hmem : .finished errand.id result ∈ link.record errand.id ↔
        .finished errand.id result ∈ link.trace := by
      rw [Link.record, List.mem_filter]
      exact and_iff_left (beq_self_eq_true _)
    have hbefore : .finished errand.id result ∉ base.record errand.id := fun hmem =>
      hnew result (List.mem_of_mem_filter hmem)
    rw [← hmem, h.record, hpasses, List.mem_append, List.mem_append, List.mem_singleton,
      Note.finished.injEq]
    simp [hbefore, entries]
  rw [Conversation.errorOf]
  cases hfound : link.trace.findSome? _ with
  | none =>
    rw [List.findSome?_eq_none_iff] at hfound
    cases outcome with
    | done => rfl
    | failed error =>
      have hlast := hfound _ ((hends _).mpr rfl)
      simp at hlast
  | some error =>
    obtain ⟨seen, hmem, hseen⟩ := List.exists_of_findSome?_eq_some hfound
    split at hseen
    · rename_i call found
      obtain ⟨rfl, hfailed⟩ := Option.ite_none_right_eq_some.mp hseen
      obtain rfl := Option.some.inj hfailed
      rw [← (hends _).mp hmem]
      rfl
    · cases hseen

/-- An attempt of a conversation at a call is over. -/
structure Tried (base : Link) (errand : Errand) (conversation : Conversation) : Prop where
  underway : Underway base errand conversation.link
  calls : conversation.link.calls = []
  truthful : Truthful conversation.link.clock conversation.link
  ended : ∃ begun written outcome, Over base errand begun written outcome conversation.link ∧
    conversation.error = outcome.error?

lemma tried_attemptAmid {event : Panel.Event} {meanwhile : List Event}
    (h : Underway base errand (Panel.step link event)) (hid : errand.id = link.clock)
    (hplain : errand.ending = .plain) (hnew : ∀ result, .finished errand.id result ∉ base.trace)
    (htruthful : Truthful (Panel.step link event).clock (Panel.step link event))
    (hmute : ∀ event ∈ meanwhile, event.isCall = false) :
    Tried base errand (Conversation.attemptAmid link event meanwhile) := by
  have hlingered := h.reaches (reaches_linger _ hmute)
  have hlater := truthful_linger htruthful meanwhile
  have hover : ∀ {last : Link}, Underway base errand last → last.calls = [] → Truthful last.clock last →
      Tried base errand ⟨last, Conversation.errorOf last errand.id⟩ := by
    intro last hlast hcalls htruthful
    obtain ⟨begun, written, outcome, hover⟩ := hlast.exists_over hcalls
    exact ⟨hlast, hcalls, htruthful, begun, written, outcome, hover, hover.error hplain hnew⟩
  rw [Conversation.attemptAmid, ← hid]
  generalize linger (Panel.step link event) meanwhile = lingered at hlingered hlater ⊢
  by_cases hcalls : lingered.calls = []
  · rw [hcalls, List.any_nil, if_neg Bool.false_ne_true]
    exact hover hlingered hcalls hlater
  · -- the call is given up
    obtain ⟨call, hcall, hsame⟩ := hlingered.alone.exists_call hcalls
    have hwaits : (lingered.calls.any fun call => call.id == errand.id) = true := by
      rw [hcall, List.any_cons, hsame, beq_self_eq_true, Bool.true_or]
    rw [if_pos hwaits]
    have hgiven : WhilePending lingered (.direct (.cancel errand.id)) := ⟨hcalls, rfl⟩
    refine hover (hlingered.step hgiven) ?_ (hlater.step _)
    have hcancelled := calls_cancel hcall
    rw [hsame] at hcancelled
    exact calls_drain hcancelled _

/-! ### The stages of a conversation -/

/-- The link of a conversation between two of its stages. -/
structure Paused (start : Link) (done : List Note) (link : Link) : Prop where
  rest : AtRest link
  calls : link.calls = []
  truthful : Truthful link.clock link
  strays : SameStrays start link
  deeds : link.deeds = done

variable {start : Link} {notes done : List Note}

lemma Paused.event (h : Paused start done link) {event : Event} (hevent : event.isCall = false) :
    Paused start done (link.step event) := by
  have hstep := callless_step h.calls h.rest.wakes hevent
  exact {
    rest := h.rest.linkStep event
    calls := hstep.calls
    truthful := h.truthful.step event
    strays := h.strays.trans
      (sameStrays_step h.rest.sound h.rest.wakes (exclusive_of_attempts (attempts_of_calls h.calls)) event)
    deeds := hstep.deeds.trans h.deeds }

lemma Paused.hear (h : Paused start done link) {events : List Event}
    (hmute : ∀ event ∈ events, event.isCall = false) :
    Paused start done (Panel.run link (events.map .link)) := by
  induction events generalizing link with
  | nil => exact h
  | cons event later ih =>
    obtain ⟨hevent, hlater⟩ := List.forall_mem_cons.mp hmute
    have hconnects : event.connects = false := by cases event <;> first | rfl | cases hevent
    have hstep : Panel.run link ((event :: later).map .link) =
        Panel.run (link.step event) (later.map .link) := by
      rw [← panelStep_link hconnects]
      rfl
    rw [hstep]
    exact ih (h.event hevent) hlater

lemma Paused.addCallback (h : Paused start done link) (name : String) (fails : Bool) :
    Paused start done (Panel.step link (.addCallback name fails)) := by
  have hadded : Paused start done { link with inbox := { link.inbox with
      callbacks := link.inbox.callbacks ++ [⟨name, fails⟩] } } :=
    ⟨⟨h.rest.sound, h.rest.wakes⟩, h.calls, { h.truthful with },
      h.strays.trans (sameStrays_of_eq rfl rfl rfl), h.deeds⟩
  have hnothing : Link.Event.nothing.isCall = false := rfl
  exact hadded.event hnothing

lemma deeds_filled (hnotes : ∀ seen ∈ notes, IsAside seen) (inbox : Inbox) :
    (link.filled inbox notes).deeds = link.deeds := by
  have hnone : notes.filter Note.isDeed = [] := by
    refine List.filter_eq_nil_iff.mpr fun seen hmem => ?_
    have haside := hnotes seen hmem
    cases seen <;> first | exact Bool.false_ne_true | cases haside
  rw [Link.deeds, Link.filled, List.filter_append, hnone]
  exact List.append_nil _

/-- A call of a conversation, from one stage to the next one. -/
lemma Paused.attempt (h : Paused start done link) (errand : Errand) {event : Panel.Event}
    {inner : Event} {inbox : Inbox} (hnotes : ∀ seen ∈ notes, IsAside seen)
    (hstep : Panel.step link event = (link.filled inbox notes).step inner)
    (hid : errand.id = link.clock) (hplain : errand.ending = .plain)
    (hact : Alone (link.filled inbox notes) errand ((link.filled inbox notes).act link.clock inner))
    {meanwhile : List Event} (hmute : ∀ event ∈ meanwhile, event.isCall = false) :
    let attempt := Conversation.attemptAmid link event meanwhile
    ∃ begun written outcome, Paused start (done ++ entries begun written) attempt.link ∧
      Over (link.filled inbox notes) errand begun written outcome attempt.link ∧
      attempt.error = outcome.error? := by
  intro attempt
  have hfilled : Truthful link.clock (link.filled inbox notes) := {
    h.truthful with
    outcomes := fun id outcome hmem =>
      h.truthful.outcomes id outcome (finished_mem_append_aside hnotes hmem)
    reports := fun callback report hmem =>
      (List.mem_append.mp hmem).elim (h.truthful.reports callback report) (hnotes _) }
  have hnew : ∀ result, .finished errand.id result ∉ (link.filled inbox notes).trace := by
    intro result hmem
    exact absurd (hfilled.outcomes _ _ hmem) (by omega)
  have hbegun := underway_of_act (h.rest.filled inbox notes) h.calls hid hact
  have htried : Tried _ errand attempt := tried_attemptAmid (hstep ▸ hbegun) hid hplain hnew
    (hstep ▸ hfilled.step inner) hmute
  obtain ⟨begun, written, outcome, hover, herror⟩ := htried.ended
  have hsame : SameStrays link (link.filled inbox notes) := sameStrays_of_eq rfl rfl rfl
  refine ⟨begun, written, outcome, ?_, hover, herror⟩
  exact {
    rest := htried.underway.rest
    calls := htried.calls
    truthful := htried.truthful
    strays := h.strays.trans (hsame.trans htried.underway.strays)
    deeds := by rw [hover.deeds, deeds_filled hnotes, h.deeds] }

/-! ### Whole conversations -/

lemma Fate.failure (h : Fate base errand begun written outcome) (error : CallError)
    (herror : outcome.error? = some error) : error.isOfLink ∨ error = .cancelled := by
  cases h with
  | unreached reason hdials => obtain rfl := Option.some.inj herror; exact .inl rfl
  | abandoned hdials => obtain rfl := Option.some.inj herror; exact .inr rfl
  | stopped message rest hbegun hmessages hcause =>
    obtain rfl := Option.some.inj herror
    rcases hcause with rfl | rfl | ⟨cause, rfl⟩
    · exact .inr rfl
    · exact .inl rfl
    · exact .inl rfl
  | through hbegun => cases herror

lemma error?_eq_none : outcome.error? = none ↔ outcome = .done := by
  cases outcome <;> simp [Outcome.error?]

/-- On a new link no session can have been astray. -/
lemma CleanedUp.of_new (h : CleanedUp start link) (hnew : IsNew start) : Cleared link := by
  refine h.cleared.mpr fun session hopen => ?_
  rw [isOpen, hnew.sessions] at hopen
  cases hopen

/-- The conversation is over when the link is disconnected. -/
lemma Paused.disconnect (h : Paused start done link) (hnew : IsNew start) :
    Cleared (Panel.step link (.link .disconnect)) ∧
      (Panel.step link (.link .disconnect)).deeds = done ∧
      Truthful (Panel.step link (.link .disconnect)).clock (Panel.step link (.link .disconnect)) := by
  obtain ⟨hleft, -⟩ := left_of_body h.rest h.strays hnew.calls (attempts_of_calls h.calls) true
  refine ⟨hleft.of_new hnew, ?_, h.truthful.step .disconnect⟩
  have hdeeds : (link.hangUp.finish link.clock .done).deeds = link.deeds :=
    (deeds_finish _).trans (deeds_aside aside_hangUp)
  rw [panelStep_link rfl, step_disconnect h.rest.wakes]
  exact hdeeds.trans h.deeds

lemma messages_of_batch (packets : List Octets) :
    (Action.batch packets).filterMap Action.message? = packets := by
  rw [Action.batch, List.cons_append, List.filterMap_cons_none rfl, List.filterMap_append,
    List.filterMap_map]
  exact (List.append_nil _).trans List.filterMap_some

lemma purposeful_of_batch {packets : List Octets} (h : packets ≠ []) :
    Purposeful (Action.batch packets) := by
  have hwrites : ∀ messages : List Octets, Purposeful (messages.map .write ++ [.release]) := by
    intro messages
    induction messages with
    | nil => trivial
    | cons message rest ih => exact ih
  refine ⟨?_, hwrites packets⟩
  have hmessages := messages_of_batch packets
  rw [Action.batch, List.cons_append, List.filterMap_cons_none rfl] at hmessages
  exact fun hnone => h (hmessages.symm.trans hnone)

lemma Paused.sendPackets (h : Paused start done link) {packets : List Octets} (hpackets : packets ≠ [])
    {meanwhile : List Event} (hmute : ∀ event ∈ meanwhile, event.isCall = false) :
    let sent := Conversation.attemptAmid link (.sendPackets packets) meanwhile
    ∃ written, Paused start (done ++ written.map .written) sent.link ∧
      (sent.error = none ↔ written = packets) ∧
      ∀ error, sent.error = some error → error.isOfLink ∨ error = .cancelled := by
  let notes : List Note := [.log ⟨.debug, .panel, s!"Sending {packets.length} packet(s)"⟩]
  let errand : Errand := ⟨link.clock, false, packets, .plain⟩
  have hnotes : ∀ seen ∈ notes, IsAside seen := List.forall_mem_singleton.mpr trivial
  have hsending : Performing (link.filled link.inbox notes) errand none [] (Action.batch packets)
      (link.filled link.inbox notes) :=
    ⟨h.calls, callTurns_eq_nil h.rest.wakes, rfl, (messages_of_batch packets).symm,
      purposeful_of_batch hpackets, (List.append_nil _).symm⟩
  have hstep : Panel.step link (.sendPackets packets) =
      (link.filled link.inbox notes).step (.send packets) := rfl
  obtain ⟨begun, written, outcome, hpaused, hover, herror⟩ := h.attempt errand hnotes hstep rfl
    rfl (alone_perform hsending none) hmute
  have hnone : begun = none := by
    cases hover.fate with
    | unreached => rfl
    | abandoned => rfl
    | stopped _ _ hbegun => exact Option.not_isSome_iff_eq_none.mp (Bool.eq_false_iff.mp hbegun)
    | through hbegun => exact Option.not_isSome_iff_eq_none.mp (Bool.eq_false_iff.mp hbegun)
  subst hnone
  refine ⟨written, hpaused, ?_, fun error hfailed => hover.fate.failure error (herror ▸ hfailed)⟩
  rw [herror, error?_eq_none, hover.fate.done_iff]
  exact and_iff_right rfl

lemma Paused.send (h : Paused start (entries begun []) link) (packets : List Octets)
    {meanwhile : List Event} (hmute : ∀ event ∈ meanwhile, event.isCall = false) :
    let sent := if packets.isEmpty then ⟨link, none⟩
      else Conversation.attemptAmid link (.sendPackets packets) meanwhile
    ∃ written, Paused start (entries begun written) sent.link ∧
      (sent.error = none ↔ written = packets) ∧
      ∀ error, sent.error = some error → error.isOfLink ∨ error = .cancelled := by
  cases packets with
  | nil => exact ⟨[], h, iff_of_true rfl rfl, nofun⟩
  | cons packet rest =>
    obtain ⟨written, hsent, hends⟩ := h.sendPackets (List.cons_ne_nil packet rest) hmute
    rw [entries, List.map_nil, List.append_nil] at hsent
    exact ⟨written, hsent, hends⟩

lemma paused_of_new (hnew : IsNew start) (htrace : start.trace = []) : Paused start [] start where
  rest := hnew.atRest
  calls := hnew.calls
  truthful := by
    refine ⟨?_, ?_, ?_, ?_⟩
    · rw [hnew.calls]
      exact List.forall_mem_nil _
    · rw [callTurns_eq_nil hnew.wakes]
      exact List.forall_mem_nil _
    · rw [htrace]
      exact fun _ _ hmem => nomatch hmem
    · rw [htrace]
      exact fun _ _ hmem => nomatch hmem
  strays := SameStrays.refl start
  deeds := by rw [Link.deeds, htrace]; rfl

/-- The attempt of a conversation to connect. If it fails, the link is down again. -/
lemma connected (hnew : IsNew start) (htrace : start.trace = []) (answer : Answer)
    {meanwhile : List Event} (hmute : ∀ event ∈ meanwhile, event.isCall = false) :
    let opened := Conversation.attemptAmid start (.link (.connect answer)) meanwhile
    ∃ begun : Option ℕ, Paused start (entries begun []) opened.link ∧
      (opened.error = none ↔ begun.isSome) ∧
      (∀ error, opened.error = some error →
        Cleared opened.link ∧ (error.isOfLink ∨ error = .cancelled)) := by
  let errand : Errand := ⟨start.clock, true, [], .plain⟩
  have hstep : Panel.step start (.link (.connect answer)) =
      (start.filled start.inbox.reset []).step (.connect answer) := by
    rw [Link.filled, List.append_nil]
    rfl
  have hbegun : Alone (start.filled start.inbox.reset []) errand
      ((start.filled start.inbox.reset []).act start.clock (.connect answer)) :=
    @alone_connect (start.filled start.inbox.reset []) errand [] (.inl hnew.phase) hnew.calls
      (callTurns_eq_nil hnew.wakes) rfl rfl trivial answer
  obtain ⟨begun, written, outcome, hpaused, hover, herror⟩ := (paused_of_new hnew htrace).attempt
    errand (List.forall_mem_nil _) hstep rfl rfl hbegun hmute
  have hwritten : written = [] := hover.fate.written_eq_nil rfl
  subst hwritten
  have hdone : outcome = .done ↔ begun.isSome := by
    rw [hover.fate.done_iff]
    exact and_iff_left rfl
  refine ⟨begun, hpaused, by rw [herror, error?_eq_none, hdone], fun error hfailed => ⟨?_, ?_⟩⟩
  · have hnone : begun.isSome ≠ true := fun hsome => by
      rw [herror, hdone.mpr hsome] at hfailed
      cases hfailed
    obtain ⟨hphase, hcurrent⟩ := hover.down (.inr hnone)
    exact (cleanedUp hpaused.rest.sound hpaused.strays (attempts_of_calls hnew.calls)
      (attempts_of_calls hpaused.calls) hphase hcurrent).of_new hnew
  · exact hover.fate.failure error (herror ▸ hfailed)

end PixelPanel.Proofs
