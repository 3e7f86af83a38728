import Mathlib.Logic.Relation
import PixelPanel.Proofs.Link.LoneCall
import PixelPanel.Proofs.PanelSteps

/-!
# Links in use

A link is used directly or through the panel that stands on it, and both may happen in turn. A panel adds
to its link nothing but what is in its inbox and in the log. So what holds of a link at rest does so
whichever way it is used, and no session goes astray as long as no attempt to connect is made while another
one waits.
-/

namespace PixelPanel

/-- An event of a link, or of the panel on it. -/
inductive Use
  | direct (event : Link.Event)
  | panel (event : Panel.Event)

namespace Use

/-- What a use of a link does, together with all that follows from it. -/
def step (link : Link) : Use → Link
  | .direct event => link.step event
  | .panel event => Panel.step link event

/-- Whether a use tries to connect the link. -/
def connects : Use → Bool
  | .direct event => event.connects
  | .panel event => event.connects

/-- Whether a use is a call of a user. -/
def isCall : Use → Bool
  | .direct event => event.isCall
  | .panel (.link event) => event.isCall
  | .panel (.addCallback ..) => false
  | .panel _ => true

end Use

/-- The link with another inbox and with more notes. -/
def Link.filled (link : Link) (inbox : Inbox) (notes : List Link.Note) : Link :=
  { link with inbox := inbox, trace := link.trace ++ notes }

/-- One link leads to another one by uses that are allowed. -/
def Reaches (allowed : Link → Use → Prop) : Link → Link → Prop :=
  Relation.ReflTransGen fun link link' => ∃ use, allowed link use ∧ link' = use.step link

/-- A use while a call waits, and not by a call. -/
def WhilePending (link : Link) (use : Use) : Prop :=
  link.calls ≠ [] ∧ use.isCall = false

/-- A use that does not try to connect while an attempt waits. -/
def Orderly (link : Link) (use : Use) : Prop :=
  use.connects → ∀ call ∈ link.calls, call.socket? = none

end PixelPanel

namespace PixelPanel.Proofs
open Link

/-- Whatever has happened to a link, nothing can run now. -/
structure AtRest (link : Link) : Prop where
  sound : Sound link.clock False (standing link)
  wakes : link.wakes = []

/-- No attempt waits, or only one. -/
def Single (link : Link) : Prop :=
  (∀ call ∈ link.calls, call.socket? = none) ∨
    ∃ id actions ending, Dialling id actions ending link

variable {base before link link' : Link} {use : Use} {errand : Errand}

/-- What a use does to a link: something may come into the inbox and into the log, and then there is an
event of the link itself, unless the use is refused. -/
inductive Using (link : Link) (use : Use) : Link → Prop
  | event (inbox : Inbox) (notes : List Note) (event : Event) (hconnects : event.connects = use.connects) :
    Using link use ((link.filled inbox notes).step event)
  | refused (notes : List Note) (hconnects : use.connects = false) :
    Using link use { link with trace := link.trace ++ notes, clock := link.clock + 1 }

lemma using_step (link : Link) (use : Use) : Using link use (use.step link) := by
  have hquiet : ∀ {event : Link.Event} (inbox : Inbox), event.connects = use.connects →
      Using link use (Link.step { link with inbox := inbox } event) := by
    intro event inbox hconnects
    have husing : Using link use _ := .event inbox [] event hconnects
    rwa [filled, List.append_nil] at husing
  cases use with
  | direct event => exact hquiet link.inbox rfl
  | panel event =>
    have hstep := stepping_panelStep link event
    change Using link _ (Panel.step link event)
    generalize Panel.step link event = next at hstep
    cases hstep with
    | attempt event _ => exact hquiet _ rfl
    | link event _ => exact hquiet link.inbox rfl
    | callback name fails => exact hquiet _ rfl
    | refused houtput notes _ =>
      exact .refused notes (by cases event <;> first | rfl | cases houtput)
    | sent houtput notes _ messages =>
      exact .event link.inbox notes _ (by cases event <;> first | rfl | cases houtput)

/-! ### At rest -/

lemma IsNew.atRest (h : IsNew link) : AtRest link :=
  ⟨h.sound, h.wakes⟩

lemma AtRest.filled (h : AtRest link) (inbox : Inbox) (notes : List Note) :
    AtRest (link.filled inbox notes) :=
  ⟨h.sound, h.wakes⟩

lemma AtRest.linkStep (h : AtRest link) (event : Event) : AtRest (link.step event) :=
  ⟨sound_step h.sound h.wakes False.elim event, wakes_step ..⟩

lemma AtRest.step (h : AtRest link) (use : Use) : AtRest (use.step link) := by
  have husing := using_step link use
  generalize use.step link = next at husing
  cases husing with
  | event inbox notes event _ => exact (h.filled inbox notes).linkStep event
  | refused notes _ => exact ⟨h.sound.mono (Nat.le_succ _), h.wakes⟩

lemma AtRest.reaches {allowed : Link → Use → Prop} (h : AtRest before)
    (hreaches : Reaches allowed before link) : AtRest link := by
  induction hreaches with
  | refl => exact h
  | tail _ huse ih =>
    obtain ⟨use, -, rfl⟩ := huse
    exact ih.step use

lemma sameStrays_use (h : AtRest link) (hexclusive : Exclusive link) (use : Use) :
    SameStrays link (use.step link) := by
  have husing := using_step link use
  generalize use.step link = next at husing
  cases husing with
  | event inbox notes event _ =>
    have hfilled := h.filled inbox notes
    have hsame : SameStrays link (link.filled inbox notes) := sameStrays_of_eq rfl rfl rfl
    exact hsame.trans (sameStrays_step hfilled.sound hfilled.wakes hexclusive event)
  | refused notes _ => exact sameStrays_of_eq rfl rfl rfl

/-! ### One attempt at most -/

lemma Single.exclusive (h : Single link) : Exclusive link := by
  rcases h with hnone | ⟨id, actions, ending, hdialling⟩
  · exact exclusive_of_attempts hnone
  · exact hdialling.exclusive

lemma Single.fewer (h : Single link) (hfewer : Fewer link link') : Single link' := by
  rcases h with hnone | ⟨id, actions, ending, hdialling⟩
  · exact .inl (hfewer.attempts_none hnone)
  · exact .inr ⟨id, actions, ending, hdialling.fewer hfewer⟩

/-- Where no attempt waits, one that is made now is the only one. -/
lemma single_connect (h : ∀ call ∈ link.calls, call.socket? = none) (id : ℕ) (actions : List Action)
    (ending : Ending) (answer : Answer) : Single (link.connect id actions ending answer) := by
  have hconnecting := connecting_connect link id answer
  generalize link.joinedAtOnce? answer = begun at hconnecting
  cases hconnecting with
  | failed clean error haside hresult =>
    rw [hresult]
    refine .inl ?_
    change ∀ call ∈ clean.calls, _
    rwa [haside.calls]
  | waiting clean socket haside _ hresult hcurrent =>
    rw [hresult]
    refine .inr ⟨id, actions, ending, hcurrent, fun call hmem hsome => ?_⟩
    rcases List.mem_append.mp hmem with hold | hnew
    · rw [h call (haside.calls ▸ hold)] at hsome
      cases hsome
    · obtain rfl := List.mem_singleton.mp hnew
      exact ⟨rfl, rfl, rfl⟩
  | begun clean socket haside _ hresult =>
    rw [hresult]
    have hjoined : ∀ call ∈ (clean.joined socket).calls, call.socket? = none := by
      change ∀ call ∈ clean.calls, _
      rwa [haside.calls]
    exact .inl ((@spares_perform 0 ..).fewer.attempts_none hjoined)

lemma Single.act (h : Single link) {event : Event}
    (horderly : event.connects → ∀ call ∈ link.calls, call.socket? = none) (id : ℕ) :
    Single (link.act id event) := by
  cases hconnects : event.connects with
  | true =>
    cases event with
    | connect answer => exact single_connect (horderly hconnects) ..
    | scope messages raises answer => exact single_connect (horderly hconnects) ..
    | _ => cases hconnects
  | false =>
    by_cases hanswer : event = .answer .accepted
    · subst hanswer
      rcases h with hnone | ⟨number, actions, ending, hdialling⟩
      · rw [Link.act, answerYoungest_of_attempts hnone]
        exact .inl hnone
      · by_cases hwaits : Waits number link
        · obtain ⟨socket, hact⟩ := hdialling.answerYoungest hwaits .accepted
            Answer.noConfusion
          rw [Link.act, hact]
          exact .inl ((fewer_attach ..).attempts_none hdialling.removeCall)
        · have hnone : ∀ call ∈ link.calls, call.socket? = none := fun call hmem =>
            Option.not_isSome_iff_eq_none.mp fun hsome =>
              hwaits ⟨call, hmem, (hdialling.only call hmem hsome).1, hsome⟩
          rw [Link.act, answerYoungest_of_attempts hnone]
          exact .inl hnone
    · exact h.fewer (fewer_act hconnects hanswer id)

lemma Single.step (h : Single link) (horderly : Orderly link use) : Single (use.step link) := by
  have husing := using_step link use
  generalize use.step link = next at husing
  cases husing with
  | event inbox notes event hconnects =>
    have hfilled : Single (link.filled inbox notes) := h.fewer ⟨fun _ => .inl, fun _ => id⟩
    have hacted := hfilled.act (fun hevent => horderly (hconnects ▸ hevent)) link.clock
    exact hacted.fewer (fewer_step (Fewer.refl _))
  | refused notes _ => exact h.fewer ⟨fun _ => .inl, fun _ => id⟩

end PixelPanel.Proofs
