import PixelPanel.Proofs.Link.Attempts
import PixelPanel.Proofs.Link.Mirrors
import PixelPanel.Proofs.Link.Past
import PixelPanel.Proofs.Link.Setup

/-!
# How a panel moves

What a panel does at an event is said once: it resets its inbox before an attempt to connect, it takes a
callback, it refuses what it cannot send, or it leaves the event to its link. All that is kept along
the runs of a panel is read off from there. If no attempt to connect is made while another one waits,
every session of a run begins anew.
-/

namespace PixelPanel.Panel

/-- Whether an event tries to connect the panel. -/
def Event.connects : Event → Bool
  | .link event => event.connects
  | _ => false

/-- Whether the device ends the reading. -/
def Event.endsReading : Event → Bool
  | .link event => event.endsReading
  | _ => false

/-- Whether an event is taken in by a session: the device sends something while the reader listens, or
there is a change of those who get it. -/
def Event.isInput (listens : Bool) : Event → Bool
  | .link (.deviceSends _) => listens
  | .link event => event.concernsAudience
  | .addCallback .. => true
  | _ => false

/-- What a session takes in while events happen. -/
def inputs (listens : Bool) : List Event → List Event
  | [] => []
  | event :: later =>
    if event.isInput listens then event :: inputs listens later
    else inputs (listens && !event.endsReading) later

/-- Whether an event is about what the panel sends. -/
def Event.isOutput : Event → Bool
  | .link _ | .addCallback .. => false
  | _ => true

/-- The name by which an event refers to an observer. -/
def Event.name? : Event → Option String
  | .link (.addAgain name) | .link (.removeObserver name) => some name
  | _ => none

end PixelPanel.Panel

namespace PixelPanel.Proofs
open Link

variable {session : ℕ} {link link' : Link}

/-! ### Events of a panel -/

/-- Notes that say nothing about what has come from the device. -/
def Unrelated (notes : List Note) : Prop :=
  ∀ seen ∈ notes, seen.isReport = false

lemma isReport_of_front {level : Level} {front : String} (hlevel : (level == .warning) = false)
    (hfront : ∀ more, "Device: ".toList.isPrefixOf (front.toList ++ more) = false) (rest : String) :
    (Note.log ⟨level, .panel, front ++ rest⟩).isReport = false := by
  rw [Note.isReport, String.toList_append, hfront, hlevel]
  rfl

lemma isReport_sending (count : ℕ) :
    (Note.log ⟨.debug, .panel, s!"Sending {count} packet(s)"⟩).isReport = false := by
  have hfront := @isReport_of_front .debug "Sending " rfl (fun _ => rfl)
    (toString count ++ " packet(s)")
  rwa [← String.append_assoc] at hfront

lemma isReport_streaming (count total : ℕ) : (Note.log ⟨.info, .panel,
    s!"Streaming {count} frame(s) in {total} packet(s)"⟩).isReport = false := by
  have hfront := @isReport_of_front .info "Streaming " rfl (fun _ => rfl)
    (toString count ++ (" frame(s) in " ++ (toString total ++ " packet(s)")))
  rwa [← String.append_assoc, ← String.append_assoc, ← String.append_assoc] at hfront

/-- What an event does to a panel. Before an attempt to connect the inbox is reset. What is sent may be
refused, and it is announced in the log. -/
inductive Stepping (link : Link) : Panel.Event → Link → Prop
  | attempt (event : Event) (h : event.connects) :
    Stepping link (.link event) ((Panel.resetInbox link).step event)
  | link (event : Event) (h : event.connects = false) : Stepping link (.link event) (link.step event)
  | callback (name : String) (fails : Bool) : Stepping link (.addCallback name fails)
      (step { link with inbox := { link.inbox with
        callbacks := link.inbox.callbacks ++ [⟨name, fails⟩] } } .nothing)
  | refused {event : Panel.Event} (h : event.isOutput) (notes : List Note) (hnotes : Unrelated notes) :
    Stepping link event { link with trace := link.trace ++ notes, clock := link.clock + 1 }
  | sent {event : Panel.Event} (h : event.isOutput) (notes : List Note) (hnotes : Unrelated notes)
    (messages : List Octets) :
    Stepping link event (step { link with trace := link.trace ++ notes } (.send messages))

lemma panelStep_link {event : Event} (h : event.connects = false) :
    Panel.step link (.link event) = link.step event := by
  cases event with
  | connect answer => cases h
  | scope messages raises answer => cases h
  | _ => rfl

lemma stepping_panelStep (link : Link) (event : Panel.Event) :
    Stepping link event (Panel.step link event) := by
  have hrefused : ∀ refusal, Unrelated [.finished link.clock (.failed (.refused refusal))] :=
    fun refusal => List.forall_mem_singleton.mpr rfl
  have hsending : ∀ count : ℕ,
      Unrelated [.log ⟨.debug, .panel, s!"Sending {count} packet(s)"⟩] :=
    fun count => List.forall_mem_singleton.mpr (isReport_sending count)
  cases event with
  | link event =>
    cases hconnects : event.connects with
    | true =>
      have hstep : Panel.step link (.link event) = (Panel.resetInbox link).step event := by
        cases event with
        | connect answer => rfl
        | scope messages raises answer => rfl
        | _ => cases hconnects
      exact hstep ▸ .attempt event hconnects
    | false => exact panelStep_link hconnects ▸ .link event hconnects
  | addCallback name fails => exact .callback name fails
  | sendPackets packets => exact @Stepping.sent link (.sendPackets packets) rfl _ (hsending packets.length) packets
  | command command =>
    rw [Panel.step]
    split
    · exact @Stepping.refused link (.command command) rfl _ (hrefused _)
    · rename_i envelope _
      have hsent := @Stepping.sent link (.command command) rfl [] (List.forall_mem_nil _) [envelope]
      rwa [List.append_nil] at hsent
  | animate pictures durations =>
    rw [Panel.step]
    split
    · exact @Stepping.refused link (.animate pictures durations) rfl _ (hrefused _)
    · rename_i packets _
      have hboth : Unrelated ([.log ⟨.info, .panel,
          s!"Streaming {pictures.length} frame(s) in {packets.length} packet(s)"⟩] ++
          [.log ⟨.debug, .panel, s!"Sending {packets.length} packet(s)"⟩]) :=
        List.forall_mem_append.mpr ⟨List.forall_mem_singleton.mpr (isReport_streaming ..), hsending _⟩
      have hsent := @Stepping.sent link (.animate pictures durations) rfl _ hboth packets
      rw [← List.append_assoc] at hsent
      exact hsent

/-- What every event of a link keeps is kept by a panel too, if it does not depend on the inbox, the
clock and the past. -/
lemma panelRun_keeps {P : Link → Prop} (hstep : ∀ (link : Link) (event : Event), P link →
    P (link.step event)) (hbeside : ∀ (link : Link) (inbox : Inbox) (clock : ℕ) (trace : List Note),
      P link → P { link with inbox := inbox, clock := clock, trace := trace })
    (h : P link) (events : List Panel.Event) : P (Panel.run link events) := by
  induction events generalizing link with
  | nil => exact h
  | cons event later ih =>
    refine ih ?_
    have hpanel := stepping_panelStep link event
    generalize Panel.step link event = next at hpanel ⊢
    cases hpanel with
    | attempt event _ => exact hstep _ event (hbeside link _ link.clock link.trace h)
    | link event _ => exact hstep _ event h
    | callback name fails => exact hstep _ .nothing (hbeside link _ link.clock link.trace h)
    | refused _ notes _ => exact hbeside link link.inbox _ _ h
    | sent _ notes _ messages => exact hstep _ _ (hbeside link link.inbox link.clock _ h)

lemma wakes_panelRun (hwakes : link.wakes = []) (events : List Panel.Event) :
    (Panel.run link events).wakes = [] :=
  @panelRun_keeps link (fun link => link.wakes = []) (fun link event _ => wakes_step link event)
    (fun _ _ _ _ h => h) hwakes events

/-! ### Attempts of a panel -/

lemma fewer_panelStep {event : Panel.Event} (hconnects : event.connects = false)
    (hattempts : ∀ call ∈ link.calls, call.socket? = none) :
    Fewer link (Panel.step link event) := by
  have hstep := stepping_panelStep link event
  generalize Panel.step link event = next at hstep ⊢
  cases hstep with
  | attempt event h => cases hconnects.symm.trans h
  | link event h =>
    refine fewer_step ?_
    by_cases hanswer : event = .answer .accepted
    · -- there is nothing to be answered
      subst hanswer
      have hnone : link.calls.reverse.find? (fun call => call.socket?.isSome) = none := by
        refine List.find?_eq_none.mpr fun call hmem => ?_
        simp [hattempts call (List.mem_reverse.mp hmem)]
      rw [act, answerYoungest, hnone]
      exact Fewer.refl link
    · exact fewer_act h hanswer _
  | callback name fails =>
    refine fewer_step ?_
    exact { Fewer.refl link with }
  | refused h notes hnotes => exact { Fewer.refl link with }
  | sent h notes hnotes messages =>
    have hact := @fewer_act { link with trace := link.trace ++ notes } (.send messages) rfl
      Event.noConfusion link.clock
    have hrun := fewer_step hact
    exact ⟨hrun.attempts, hrun.current⟩

lemma fewer_panelRun {events : List Panel.Event} (hconnects : ∀ event ∈ events, event.connects = false)
    (hattempts : ∀ call ∈ link.calls, call.socket? = none) :
    Fewer link (Panel.run link events) := by
  induction events generalizing link with
  | nil => exact Fewer.refl link
  | cons event later ih =>
    obtain ⟨hevent, hlater⟩ := List.forall_mem_cons.mp hconnects
    have hstep := fewer_panelStep hevent hattempts
    exact hstep.trans (ih hlater (hstep.attempts_none hattempts))

lemma Calm.panelStep (h : Calm link) {event : Panel.Event}
    (hevent : event.connects → ∀ call ∈ link.calls, call.socket? = none) :
    Calm (Panel.step link event) ∧ BeginsAnew link (Panel.step link event) := by
  -- what is no attempt of the link, whatever stands in the log or among the callbacks before
  have hfewer : ∀ {before : Link} {inner : Event}, Calm before → before.current = link.current →
      inner.connects = false → inner ≠ .answer .accepted →
        Calm (before.step inner) ∧ BeginsAnew link (before.step inner) := by
    intro before inner hbefore hcurrent hconnects hanswer
    have hact := @fewer_act before inner hconnects hanswer before.clock
    refine ⟨hbefore.step hact, fun session hother hafter => ?_⟩
    exact (hother (hcurrent ▸ (fewer_step hact).current session hafter)).elim
  have hstep := stepping_panelStep link event
  generalize Panel.step link event = next at hstep ⊢
  cases hstep with
  | attempt event hconnects =>
    have hreset : Calm (Panel.resetInbox link) := { h with empty := fun _ _ _ => rfl }
    exact hreset.connect (hevent hconnects) rfl hconnects
  | link event hconnects =>
    by_cases hanswer : event = .answer .accepted
    · subst hanswer
      exact h.answer
    · exact hfewer h rfl hconnects hanswer
  | callback name fails =>
    have hadded : Calm { link with inbox := { link.inbox with
      callbacks := link.inbox.callbacks ++ [⟨name, fails⟩] } } := { h with }
    exact hfewer hadded rfl rfl Event.noConfusion
  | refused _ notes hnotes =>
    exact ⟨{ h with sound := h.sound.mono (Nat.le_succ _) },
      fun session hother hafter => (hother hafter).elim⟩
  | sent _ notes hnotes messages =>
    have hlogged : Calm { link with trace := link.trace ++ notes } := { h with }
    exact hfewer hlogged rfl rfl Event.noConfusion

lemma roster_step {event : Event} (h : event.concernsAudience = false) :
    (link.step event).listeners = link.listeners ∧ (link.step event).observers = link.observers := by
  obtain ⟨hlisteners, hobservers⟩ := roster_drain (link.act link.clock event).load
    (link.act link.clock event)
  have hsame := @audience_act link event h link.clock
  exact ⟨hlisteners.trans (congrArg Audience.listeners hsame),
    hobservers.trans (congrArg Audience.observers hsame)⟩

lemma roster_panelStep {event : Panel.Event} {listens : Bool} (hconnects : event.connects = false)
    (hinput : event.isInput listens = false) :
    (Panel.step link event).listeners = link.listeners ∧
      (Panel.step link event).observers = link.observers := by
  have hstep := stepping_panelStep link event
  generalize Panel.step link event = next at hstep ⊢
  cases hstep with
  | attempt event hyes => cases hconnects.symm.trans hyes
  | link event _ =>
    refine roster_step ?_
    cases event <;> first | rfl | exact hinput
  | callback name fails => cases hinput
  | refused _ notes _ => exact ⟨rfl, rfl⟩
  | sent _ notes _ messages =>
    exact @roster_step { link with trace := link.trace ++ notes } (.send messages) rfl

end PixelPanel.Proofs
