import PixelPanel.Proofs.Link.Dialling
import PixelPanel.Proofs.RejectedConnect

/-!
# All or nothing

An attempt to connect that does not succeed should leave nothing behind: no socket, no reader and no
worker, neither of its own nor of the session before. It closes what it has opened and what was in use.
Only sessions that were astray already stay as they are, so the link is clear afterwards exactly if there
were none.
-/

namespace PixelPanel.Link

/-- What becomes of an attempt to connect. -/
inductive Verdict
  | accepted
  | refused (reason : String)
  | cancelled
  deriving DecidableEq, Repr

/-- What becomes of an attempt with an answer. -/
def Answer.verdict? : Answer → Option Verdict
  | .accepted => some .accepted
  | .refused error => some (.refused error.message)
  | .unsupported => some (.refused unsupportedText)
  | .later => none

/-- How a call to connect ends. -/
def Verdict.outcome (link : Link) : Verdict → Outcome
  | .accepted => .done
  | .refused reason => .failed (.connectFailed link.address link.channel reason)
  | .cancelled => .failed .cancelled

end PixelPanel.Link

namespace PixelPanel.Proofs
open Link

/-- What becomes of an attempt at once: the address may be none, and otherwise there is an answer. -/
def ComesAtOnce (before : Link) (answer : Answer) (verdict : Verdict) : Prop :=
  (Address.ofText? before.address.toList = none ∧
      verdict = .refused (Address.refusalText before.address)) ∨
    (Address.ofText? before.address.toList).isSome ∧ answer.verdict? = some verdict

/-- How an attempt to connect comes to its end, and what happens meanwhile: it ends at once, or it waits
until it is answered or cancelled. -/
inductive Attempted (before : Link) : List Event → Verdict → Link → Prop
  | atOnce {answer : Answer} {verdict : Verdict} (h : ComesAtOnce before answer verdict) :
    Attempted before [] verdict (before.step (.connect answer))
  | answered {meanwhile : List Event} {answer : Answer} {verdict : Verdict}
    (hmeanwhile : ∀ event ∈ meanwhile, event.connects = false)
    (hwaits : Waits before.clock ((before.step (.connect .later)).run meanwhile))
    (h : answer.verdict? = some verdict) :
    Attempted before meanwhile verdict
      (((before.step (.connect .later)).run meanwhile).step (.answer answer))
  | cancelled {meanwhile : List Event} (hmeanwhile : ∀ event ∈ meanwhile, event.connects = false)
    (hwaits : Waits before.clock ((before.step (.connect .later)).run meanwhile)) :
    Attempted before meanwhile .cancelled
      (((before.step (.connect .later)).run meanwhile).step (.cancel before.clock))

/-- Nothing is left of any session. -/
structure Cleared (link : Link) : Prop where
  phase : link.phase = .disconnected
  sockets : ∀ session, link.isOpen session = false
  readers : ∀ session, link.isReading session = false
  workers : ∀ session, link.crew session = 0

/-- A session has begun with nothing in its queue. -/
structure Fresh (before after : Link) : Prop where
  done : after.trace.getLast? = some (.finished before.clock .done)
  phase : after.phase = .active
  queue : ∃ session, after.current = some session ∧ after.queueOf session = []
  dropped : after.dropped = 0

/-- Nothing is left of any session but what was astray before. -/
structure CleanedUp (before after : Link) : Prop where
  phase : after.phase = .disconnected
  sockets : ∀ session, after.isOpen session ↔ before.isOpen session ∧ before.current ≠ some session
  cleared : Cleared after ↔ ∀ session, before.isOpen session → before.current = some session

variable {next id session socket : ℕ} {tidy : Prop} {actions : List Action} {ending : Ending}
  {link link' before after : Link} {meanwhile : List Event} {answer : Answer} {verdict : Verdict}

/-! ### The end of an attempt -/

/-- An attempt has ended without a session, and no other one waits. -/
structure Ended (id : ℕ) (outcome : Outcome) (link : Link) : Prop where
  raised : link.trace.getLast? = some (.finished id outcome)
  phase : link.phase = .disconnected
  current : link.current = none
  attempts : ∀ call ∈ link.calls, call.socket? = none
  wakes : link.wakes = []

lemma Cleared.of_sound (hsound : Sound next tidy (standing link)) (hphase : link.phase = .disconnected)
    (hsockets : ∀ session, link.isOpen session = false) : Cleared link :=
  ⟨hphase, hsockets, fun session => (hsound.closed session (hsockets session)).1,
    fun session => (hsound.closed session (hsockets session)).2⟩

/-- Without an attempt that waits and without a session in use, all that is open was astray before. -/
lemma cleanedUp (hsound : Sound next tidy (standing after)) (hstrays : SameStrays before after)
    (hbefore : ∀ call ∈ before.calls, call.socket? = none)
    (hafter : ∀ call ∈ after.calls, call.socket? = none) (hphase : after.phase = .disconnected)
    (hcurrent : after.current = none) : CleanedUp before after := by
  have hsockets : ∀ session, after.isOpen session ↔
      before.isOpen session ∧ before.current ≠ some session := by
    intro session
    rw [← astray_iff_of_attempts hbefore, ← hstrays.astray, astray_iff_of_attempts hafter, hcurrent]
    simp
  refine ⟨hphase, hsockets, fun hcleared session hopen => ?_, fun hone => ?_⟩
  · by_contra hne
    have hstill := (hsockets session).mpr ⟨hopen, hne⟩
    exact Bool.false_ne_true ((hcleared.sockets session).symm.trans hstill)
  · refine Cleared.of_sound hsound hphase fun session => Bool.eq_false_iff.mpr fun hopen => ?_
    obtain ⟨hopened, hne⟩ := (hsockets session).mp hopen
    exact hne (hone session hopened)

lemma Dialling.of_later (hphase : ¬(before.phase = .connecting ∨ before.phase = .active))
    (hattempts : ∀ call ∈ before.calls, call.socket? = none)
    (hmeanwhile : ∀ event ∈ meanwhile, event.connects = false)
    (hwaits : Waits before.clock ((before.step (.connect .later)).run meanwhile)) :
    Dialling before.clock [] .plain ((before.step (.connect .later)).run meanwhile) := by
  have hconnect := dialling_connect hphase hattempts before.clock [] .plain
  exact (hconnect.fewer (fewer_step (Fewer.refl _))).run hmeanwhile hwaits

/-- A session that begins has nothing in its queue, and the call is over. -/
lemma fresh_of_attach {socket : ℕ} {event : Event} (hwakes : link.wakes = [])
    (hact : after.act after.clock event = link.attach before.clock socket [] .plain) :
    Fresh before (after.step event) := by
  have hqueue : (attached link socket).queueOf socket = [] := by
    rw [queueOf]
    simp only [attached, modifySession, List.getElem?_modify]
    cases link.sessions[socket]? <;> rfl
  have hquiet : (after.act after.clock event).wakes = [] := by
    rw [hact]
    exact hwakes
  rw [step_of_wakes event hquiet, hact, attach_eq]
  exact ⟨List.getLast?_concat, rfl, ⟨socket, rfl, hqueue⟩, rfl⟩

/-- On a link that is down an attempt that is accepted begins a session. -/
lemma Idle.fresh (h : Idle before) (hwakes : before.wakes = [])
    (hattempted : Attempted before meanwhile .accepted after) : Fresh before after := by
  have hphase : ¬(before.phase = .connecting ∨ before.phase = .active) := by
    rcases h.phase with hphase | hphase <;> simp [hphase]
  have haccepted : ∀ {answer : Answer}, answer.verdict? = some .accepted → answer = .accepted := by
    intro answer hverdict
    cases answer <;> first | rfl | cases hverdict
  cases hattempted with
  | atOnce hverdict =>
    obtain ⟨-, hrefused⟩ | ⟨haddress, hverdict⟩ := hverdict
    · cases hrefused
    · obtain rfl := haccepted hverdict
      obtain ⟨notes, hconnect⟩ := exists_connect_eq h.phase haddress before.clock [] .plain
      exact @fresh_of_attach (before.dialling notes) _ _ _ _ (wakes_cleaned hwakes) hconnect
  | answered hmeanwhile hwaits hverdict =>
    obtain rfl := haccepted hverdict
    have hdialling := Dialling.of_later hphase h.attempts hmeanwhile hwaits
    obtain ⟨socket, hanswer⟩ := hdialling.answerYoungest hwaits .accepted Answer.noConfusion
    have hquiet : (((before.step (.connect .later)).run meanwhile).removeCall before.clock).wakes = [] :=
      wakes_run (wakes_step ..) meanwhile
    exact fresh_of_attach hquiet hanswer

lemma Ended.step {event : Event} {outcome : Outcome} (h : Ended id outcome (link.act link.clock event)) :
    Ended id outcome (link.step event) := by
  rw [step_of_wakes event h.wakes]
  exact { h with }

end PixelPanel.Proofs
