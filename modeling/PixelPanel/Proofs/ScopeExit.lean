import PixelPanel.Proofs.Link.FailedConnect
import PixelPanel.Proofs.Uses

/-!
# The end of a scope

A scope connects, lets its body run and disconnects, whatever happens to the body. It closes what it has
opened and what was in use, and its outcome is that of its body. Sessions that were astray before it stay
as they are.
-/

namespace PixelPanel

/-- The use of a link by one of its own events, directly or through the panel. -/
def Use.on (viaPanel : Bool) (event : Link.Event) : Use :=
  if viaPanel then .panel (.link event) else .direct event

end PixelPanel

namespace PixelPanel.Proofs
open Link

variable {base before link : Link} {errand : Errand} {begun : Option ℕ} {written : List Octets}
  {outcome : Outcome} {inbox : Inbox} {notes : List Note}

/-! ### Another inbox -/

lemma record_filled (hnotes : notes.filter (Note.concerns errand.id) = []) :
    (link.filled inbox notes).record errand.id = link.record errand.id := by
  have hfilled : (link.filled inbox notes).trace = link.trace ++ notes := rfl
  rw [record_append hfilled, hnotes, List.append_nil]

lemma Alone.filled (h : Alone base errand link) (inbox : Inbox) :
    Alone base errand (link.filled inbox []) :=
  h.congr rfl rfl (record_filled rfl) rfl rfl

lemma exists_step_on (link : Link) (viaPanel : Bool) (event : Event) :
    ∃ inbox, (Use.on viaPanel event).step link = (link.filled inbox []).step event := by
  have hsame : ∀ inbox, link.filled inbox [] = { link with inbox := inbox } := fun inbox => by
    rw [Link.filled, List.append_nil]
  cases viaPanel with
  | false => exact ⟨link.inbox, by rw [hsame]; rfl⟩
  | true =>
    cases event with
    | connect answer => exact ⟨link.inbox.reset, by rw [hsame]; rfl⟩
    | scope messages raises answer => exact ⟨link.inbox.reset, by rw [hsame]; rfl⟩
    | _ => exact ⟨link.inbox, by rw [hsame]; rfl⟩

lemma exists_step_of_not_call (link : Link) {use : Use} (h : use.isCall = false) :
    ∃ inbox event, event.isCall = false ∧ use.step link = (link.filled inbox []).step event := by
  cases use with
  | direct event =>
    obtain ⟨inbox, hstep⟩ := exists_step_on link false event
    exact ⟨inbox, event, h, hstep⟩
  | panel event =>
    cases event with
    | link event =>
      obtain ⟨inbox, hstep⟩ := exists_step_on link true event
      exact ⟨inbox, event, h, hstep⟩
    | addCallback name fails =>
      refine ⟨{ link.inbox with callbacks := link.inbox.callbacks ++ [⟨name, fails⟩] }, .nothing, rfl, ?_⟩
      rw [Link.filled, List.append_nil]
      rfl
    | _ => cases h

/-! ### A call on its way -/

/-- A call is on its way, alone, and it has led no session astray. -/
structure Underway (base : Link) (errand : Errand) (link : Link) : Prop where
  alone : Alone base errand link
  rest : AtRest link
  setup : link.setup = base.setup
  later : errand.id < link.clock
  strays : SameStrays base link

lemma clock_step (link : Link) (event : Event) : (link.step event).clock = link.clock + 1 := rfl

lemma underway_of_act (hrest : AtRest base) (hcalls : base.calls = []) {event : Event}
    (hid : errand.id = base.clock) (hact : Alone base errand (base.act base.clock event)) :
    Underway base errand (base.step event) where
  alone := hact.settle.congr rfl rfl rfl rfl rfl
  rest := hrest.linkStep event
  setup := setup_step event
  later := by rw [clock_step, hid]; exact Nat.lt_succ_self _
  strays := by
    have hexclusive := exclusive_of_attempts (attempts_of_calls hcalls)
    exact sameStrays_step hrest.sound hrest.wakes hexclusive event

lemma Underway.step (h : Underway base errand link) {use : Use} (huse : WhilePending link use) :
    Underway base errand (use.step link) := by
  obtain ⟨hpending, hmute⟩ := huse
  obtain ⟨inbox, event, hevent, hstep⟩ := exists_step_of_not_call link hmute
  have hfilled := h.rest.filled inbox []
  rw [hstep]
  exact {
    alone := (h.alone.filled inbox).step hpending hfilled.wakes h.setup h.later hevent
    rest := hfilled.linkStep event
    setup := (setup_step event).trans h.setup
    later := h.later.trans (Nat.lt_succ_self _)
    strays := h.strays.trans (hstep ▸ sameStrays_use h.rest h.alone.exclusive use) }

lemma Underway.reaches (h : Underway base errand before) (hreaches : Reaches WhilePending before link) :
    Underway base errand link := by
  induction hreaches with
  | refl => exact h
  | tail _ huse ih =>
    obtain ⟨use, hpending, rfl⟩ := huse
    exact ih.step hpending

lemma Underway.exists_over (h : Underway base errand link) (hcalls : link.calls = []) :
    ∃ begun written outcome, Over base errand begun written outcome link :=
  h.alone.exists_over hcalls h.rest.wakes

lemma Underway.cleanedUp (h : Underway (before.filled inbox []) errand link)
    (hbefore : before.calls = []) (hcalls : link.calls = []) (hphase : link.phase = .disconnected)
    (hcurrent : link.current = none) : CleanedUp before link := by
  have hsame : SameStrays before (before.filled inbox []) := sameStrays_of_eq rfl rfl rfl
  exact Proofs.cleanedUp h.rest.sound (hsame.trans h.strays) (attempts_of_calls hbefore)
    (attempts_of_calls hcalls) hphase hcurrent

/-! ### Scopes -/

lemma record_disconnect (hwakes : link.wakes = []) :
    (link.step .disconnect).record link.clock =
      link.record link.clock ++ [.finished link.clock .done] := by
  rw [step_disconnect hwakes]
  exact (@record_finish link.hangUp _ .done).trans (congrArg (· ++ _) (record_aside aside_hangUp _))

/-- When the body of a scope is over, the link is disconnected and cleaned up. -/
lemma left_of_body (hrest : AtRest link) (hstrays : SameStrays before link) (hcalls : before.calls = [])
    (hattempts : ∀ call ∈ link.calls, call.socket? = none) (viaPanel : Bool) :
    CleanedUp before ((Use.on viaPanel .disconnect).step link) ∧
      ((Use.on viaPanel .disconnect).step link).record link.clock =
        link.record link.clock ++ [.finished link.clock .done] := by
  have hstep : (Use.on viaPanel .disconnect).step link = link.step .disconnect := by
    cases viaPanel <;> rfl
  have hexclusive := exclusive_of_attempts hattempts
  rw [hstep]
  refine ⟨?_, record_disconnect hrest.wakes⟩
  -- only the session in use is closed
  have hended := (hrest.linkStep .disconnect).sound
  have hall := hstrays.trans (sameStrays_step hrest.sound hrest.wakes hexclusive .disconnect)
  rw [step_disconnect hrest.wakes] at hended hall ⊢
  refine Proofs.cleanedUp hended hall (attempts_of_calls hcalls) ?_ closeSocket_phase hangUp_current
  change ∀ call ∈ link.hangUp.calls, _
  rwa [hangUp_calls]

end PixelPanel.Proofs
