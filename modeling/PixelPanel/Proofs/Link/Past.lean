import PixelPanel.Panel
import PixelPanel.Proofs.Link.Audience
import PixelPanel.Proofs.Link.WriteLedger

/-!
# The past has no influence

A link never looks back at what was seen of it. So after any past it does the same, and the notes that
it takes are the same.
-/

namespace PixelPanel.Link

/-- The same link with more behind it. -/
def after (past : List Note) (link : Link) : Link :=
  { link with trace := past ++ link.trace }

end PixelPanel.Link

namespace PixelPanel.Proofs
open Link

variable {past : List Note} {link : Link}

/-! ### Calls and workers -/

/-- What does the same before any audience does the same after any past. -/
lemma after_of_reseat {g : Link → Link}
    (h : g (link.reseat link.audience id past) = (g link).reseat link.audience id past)
    (haudience : (g link).audience = link.audience) :
    g (link.after past) = (g link).after past := by
  rw [after, ← reseat_self, h, ← haudience, reseat_self, after]

lemma after_takeNote (serial : ℕ) (name : String) (manner : Manner) (fails : Bool) (chunk : Octets) :
    (link.after past).takeNote serial name manner fails chunk =
      (link.takeNote serial name manner fails chunk).after past := by
  cases fails <;> simp [takeNote, after, logFailure, log, note]

lemma after_receive (chunk : Octets) :
    (link.after past).receive chunk = (link.receive chunk).after past := by
  have hinbox : (link.after past).inbox = link.inbox := rfl
  unfold receive
  rw [hinbox]
  dsimp only
  split <;> simp [after, logFailure, log, note]

lemma after_deliver (session : ℕ) (chunk : Octets) (listeners : List Listener) (link : Link) :
    deliver session chunk listeners (link.after past) =
      ((deliver session chunk listeners link).1.after past,
        (deliver session chunk listeners link).2) := by
  induction listeners generalizing link with
  | nil => rfl
  | cons listener rest ih =>
    rcases listener with _ | ⟨serial, name, manner, fails⟩
    · rw [deliver, after_receive, ih, deliver]
    · cases manner with
      | direct => rw [deliver, after_takeNote, ih, deliver]
      | threaded => simp [deliver, after, note, wake]
      | gated =>
        have hgate : (link.after past).gateOpen = link.gateOpen := rfl
        rw [deliver, hgate, deliver]
        split
        · rw [after_takeNote, ih]
        · rfl

lemma after_work (session : ℕ) (queue : List Octets) (link : Link) :
    work session queue (link.after past) = (work session queue link).after past := by
  induction queue generalizing link with
  | nil => rfl
  | cons chunk rest ih =>
    have htake : (link.after past).modifySession session (fun found => { found with queue := rest }) =
        (link.modifySession session fun found => { found with queue := rest }).after past := rfl
    have hlisteners : (link.after past).listeners = link.listeners := rfl
    rw [work_cons, work_cons, htake, hlisteners, after_deliver]
    dsimp only
    rw [ih]
    exact (apply_ite (after past) _ _ _).symm

lemma after_resumeDelivery (going : Delivery) :
    (link.after past).resumeDelivery going = (link.resumeDelivery going).after past := by
  rw [resumeDelivery, resumeDelivery, after_deliver]
  obtain ⟨next, completed⟩ := deliver going.session going.chunk going.listeners link
  cases completed with
  | true => exact after_work ..
  | false => rfl

lemma after_resume (wake : Wake) :
    (link.after past).resume wake = (link.resume wake).after past := by
  have hcall : workerOf? wake = none → (link.after past).resume wake = (link.resume wake).after past :=
    fun h => after_of_reseat (g := fun link => link.resume wake) (reseat_resume h) (audience_resume h)
  cases wake with
  | call id => exact hcall rfl
  | leaving id turns outcome => exact hcall rfl
  | worker session => exact after_work ..
  | delivery going => exact after_resumeDelivery going
  | returned listener going =>
    rcases listener with _ | ⟨serial, name, manner, _ | _⟩
    · exact after_resumeDelivery going
    · exact after_resumeDelivery going
    · have hlog : (link.after past).logFailure (.observer serial name manner true) =
          (link.logFailure (.observer serial name manner true)).after past := by
        simp [after, logFailure, log, note]
      rw [resume, hlog, after_resumeDelivery, resume]

lemma after_drain (turns : ℕ) (link : Link) :
    drain turns (link.after past) = (drain turns link).after past := by
  induction turns generalizing link with
  | zero => rfl
  | succ turns ih =>
    have hwakes : (link.after past).wakes = link.wakes := rfl
    rw [drain, hwakes, drain]
    split
    · rfl
    · rename_i wake rest _
      rw [← ih, ← after_resume]
      rfl

/-! ### Events -/

lemma after_act (id : ℕ) (event : Event) :
    (link.after past).act id event = (link.act id event).after past := by
  by_cases h : event.concernsAudience = false
  · exact after_of_reseat (g := fun link => link.act id event) (reseat_act h id)
      (audience_act h id)
  · have hobserver : ∀ name, (link.after past).observer? name = link.observer? name := fun _ => rfl
    have hlisteners : (link.after past).listeners = link.listeners := rfl
    have hfinish : ∀ outcome, (link.after past).finish id outcome =
        (link.finish id outcome).after past := by simp [after, finish, note]
    cases event with
    | addObserver name manner fails => rfl
    | addAgain name =>
      rw [act, hobserver, act]
      split <;> rfl
    | removeObserver name =>
      rw [act, hobserver, hlisteners, act, hfinish]
      split
      · rfl
      · split <;> rfl
    | openGate => rfl
    | closeGate => rfl
    | _ => exact (h rfl).elim

/-- What happened before has no influence on what an event does. -/
lemma after_step (event : Event) :
    (link.after past).step event = (link.step event).after past := by
  have hclock : (link.after past).clock = link.clock := rfl
  have hload : ∀ link : Link, (link.after past).load = link.load := fun _ => rfl
  rw [step, hclock, after_act, settle, hload, after_drain]
  rfl

/-! ### Panels -/

lemma after_run (events : List Event) : (link.after past).run events = (link.run events).after past := by
  induction events generalizing link with
  | nil => rfl
  | cons event later ih =>
    rw [run, List.foldl_cons, after_step]
    exact ih

lemma after_panelStep (event : Panel.Event) :
    Panel.step (link.after past) event = (Panel.step link event).after past := by
  have hnote : ∀ (link : Link) seen, (link.after past).note seen = (link.note seen).after past :=
    fun link seen => by rw [note, after, after, note, List.append_assoc]
  have hreset : Panel.resetInbox (link.after past) = (Panel.resetInbox link).after past := rfl
  have hsend : ∀ (link : Link) packets, Panel.sendPackets (link.after past) packets =
      (Panel.sendPackets link packets).after past := fun link packets => by
    rw [Panel.sendPackets, Panel.log, hnote, after_step, Panel.sendPackets, Panel.log]
  have hrefuse : ∀ refusal, Panel.refuse (link.after past) refusal =
      (Panel.refuse link refusal).after past := fun refusal =>
    congrArg (fun next : Link => { next with clock := link.clock + 1 }) (hnote link _)
  cases event with
  | link event =>
    cases event with
    | connect answer => rw [Panel.step, hreset, after_step, Panel.step]
    | scope messages raises answer => rw [Panel.step, hreset, after_step, Panel.step]
    | _ => exact after_step _
  | addCallback name fails =>
    exact @after_step past { link with
      inbox := { link.inbox with callbacks := link.inbox.callbacks ++ [⟨name, fails⟩] } } _
  | sendPackets packets => exact hsend link packets
  | command command =>
    rw [Panel.step, Panel.step]
    split
    · exact hrefuse _
    · exact after_step _
  | animate pictures durations =>
    rw [Panel.step, Panel.step]
    split
    · exact hrefuse _
    · dsimp only
      rw [Panel.log, hnote, hsend, Panel.log]

/-- What happened before has no influence on what a panel does. -/
lemma after_panelRun (events : List Panel.Event) :
    Panel.run (link.after past) events = (Panel.run link events).after past := by
  induction events generalizing link with
  | nil => rfl
  | cons event later ih =>
    rw [Panel.run, List.foldl_cons, after_panelStep]
    exact ih

/-- What comes out of the same link with another past. -/
lemma panelRun_of_trace (trace : List Note) (events : List Panel.Event) :
    Panel.run { link with trace := trace } events =
      { Panel.run link events with
        trace := trace ++ seenSince link (Panel.run link events) } := by
  have hbare : Panel.run { link with trace := trace } events =
      (Panel.run { link with trace := [] } events).after trace := by
    rw [← after_panelRun, after, List.append_nil]
  have hsame : Panel.run link events =
      (Panel.run { link with trace := [] } events).after link.trace := by
    rw [← after_panelRun, after, List.append_nil]
  have hseen : seenSince link (Panel.run link events) =
      (Panel.run { link with trace := [] } events).trace := by
    rw [hsame]
    exact seenSince_eq rfl
  rw [hseen, hbare, hsame]
  rfl

end PixelPanel.Proofs
