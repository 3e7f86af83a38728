import PixelPanel.Proofs.InboxAnswers
import PixelPanel.Proofs.PanelSteps

/-!
# A connect that is rejected

While a panel is being connected or is active, another attempt to connect it is rejected by the link,
which stays as it is. But the panel has forgotten before what it had received of an envelope, so the
rest of that envelope is noise to it.
-/

namespace PixelPanel.Proofs
open Link

variable {link : Link}

/-- The link rejects the attempt, and that is all it does. -/
lemma step_connect_rejected (hwakes : link.wakes = [])
    (hopen : link.phase = .connecting ∨ link.phase = .active) {event : Event}
    (hevent : event.connects) :
    link.step event = { link.finish link.clock (.failed (.alreadyOpen link.phase)) with
      clock := link.clock + 1 } := by
  have hact : link.act link.clock event =
      link.finish link.clock (.failed (.alreadyOpen link.phase)) := by
    cases event with
    | connect answer => exact if_pos hopen
    | scope messages raises answer => exact if_pos hopen
    | _ => cases hevent
  have hquiet : (link.act link.clock event).wakes = [] := by
    rw [hact]
    exact hwakes
  rw [step_of_wakes event hquiet, hact]

/-- A connect is rejected while the panel is being connected or is active. It leaves behind what nothing
would, except for its own end and for the beginning of an envelope, which is forgotten. So whatever
comes later goes on as if those octets had never been received, and as if nothing had been tried if
there were none. -/
theorem rejected_connect_forgets (hnew : IsNew link) (events : List Panel.Event)
    (hopen : (Panel.run link events).phase = .connecting ∨ (Panel.run link events).phase = .active)
    {event : Event} (hevent : event.connects) :
    let panel := Panel.run link events
    let rejected := Panel.step panel (.link event)
    let untouched := Panel.step panel (.link .nothing)
    rejected = { Panel.resetInbox untouched with
        trace := panel.trace ++ [.finished panel.clock (.failed (.alreadyOpen panel.phase))] } ∧
      ∀ later, Panel.run rejected later = { Panel.run (Panel.resetInbox untouched) later with
          trace := rejected.trace ++ seenSince untouched (Panel.run (Panel.resetInbox untouched) later) } ∧
        (panel.inbox.assembler = {} → Panel.run rejected later = { Panel.run untouched later with
          trace := rejected.trace ++ seenSince untouched (Panel.run untouched later) }) := by
  intro panel rejected untouched
  have hwakes : panel.wakes = [] := wakes_panelRun hnew.wakes events
  have huntouched : untouched = { panel with clock := panel.clock + 1 } := step_of_wakes .nothing hwakes
  have hrejected : rejected = { Panel.resetInbox untouched with
      trace := panel.trace ++ [.finished panel.clock (.failed (.alreadyOpen panel.phase))] } := by
    have hstep : rejected = (Panel.resetInbox panel).step event := by
      cases event <;> first | rfl | cases hevent
    rw [hstep, @step_connect_rejected (Panel.resetInbox panel) hwakes hopen _ hevent, huntouched]
    rfl
  refine ⟨hrejected, fun later => ?_⟩
  have hlater : Panel.run rejected later = { Panel.run (Panel.resetInbox untouched) later with
      trace := rejected.trace ++
        seenSince untouched (Panel.run (Panel.resetInbox untouched) later) } := by
    rw [hrejected]
    exact panelRun_of_trace _ later
  refine ⟨hlater, fun hempty => ?_⟩
  -- without the beginning of an envelope there is nothing to forget
  have hreset : Panel.resetInbox untouched = untouched := by
    have hinbox : panel.inbox.reset = panel.inbox :=
      congrArg (fun assembler => { panel.inbox with assembler := assembler }) hempty.symm
    rw [huntouched]
    exact congrArg (fun inbox => { panel with inbox := inbox, clock := panel.clock + 1 }) hinbox
  rw [hreset] at hlater
  exact hlater

/-! ### An envelope that is lost -/

/-- A panel that has received the first half of an envelope. -/
def halfway : Link :=
  Panel.run { sampleLink with listeners := [.inbox] }
    [.addCallback "first" false, .link (.connect .accepted),
      .link (.deviceSends [0x01, 0x06, 0x00, 0x04])]

/-- The other half. -/
def secondHalf : List Panel.Event := [.link (.deviceSends [0x09, 0x55, 0x07, 0x6f, 0x00, 0x02])]

/-- The envelope is told if nothing comes between its halves, but not if a connect is rejected there. -/
theorem rejected_connect_loses_envelope :
    let rejected := Panel.step halfway (.link (.connect .accepted))
    let untouched := Panel.step halfway (.link .nothing)
    halfway.phase = .active ∧
      seenSince halfway rejected = [.finished halfway.clock (.failed (.alreadyOpen .active))] ∧
      (seenSince untouched (Panel.run untouched secondHalf)).filter Note.isAnswer =
        [.told "first" ⟨0x09, [0x07], none, none, some 7, "Volume was set to 7/16"⟩] ∧
      (seenSince rejected (Panel.run rejected secondHalf)).filter Note.isAnswer = [] := by
  decide +kernel

/-- The octets of the first half are gone, and the session goes on. -/
theorem rejected_connect_forgets_halfway :
    let rejected := Panel.step halfway (.link (.connect .accepted))
    let untouched := Panel.step halfway (.link .nothing)
    IsNew ({ sampleLink with listeners := [.inbox] } : Link) ∧ halfway.phase = .active ∧
      (Event.connect .accepted).connects ∧
      halfway.inbox.assembler = ⟨[0x01, 0x06, 0x00, 0x04]⟩ ∧ rejected.inbox.assembler = {} ∧
      Panel.run rejected secondHalf = { Panel.run (Panel.resetInbox untouched) secondHalf with
        trace := rejected.trace ++
          seenSince untouched (Panel.run (Panel.resetInbox untouched) secondHalf) } := by
  intro rejected untouched
  have hnew : IsNew ({ sampleLink with listeners := [.inbox] } : Link) := { isNew_sampleLink with }
  have hactive : halfway.phase = .active := by decide +kernel
  obtain ⟨-, hlater⟩ :=
    @rejected_connect_forgets _ hnew _ (.inr hactive) (.connect .accepted) rfl
  exact ⟨hnew, hactive, rfl, by decide +kernel, by decide +kernel, (hlater secondHalf).1⟩

end PixelPanel.Proofs
