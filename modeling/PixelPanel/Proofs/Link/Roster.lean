import PixelPanel.Proofs.Link.Audience
import PixelPanel.Proofs.Link.Quiet

/-!
# Listeners and observers along a run

Observers are numbered in the order in which they are made, and every listener but the inbox is one of
them. Only events change who they are; what runs afterwards leaves them alone.
-/

namespace PixelPanel.Link

/-- The number of observers that an event makes. -/
def Event.observersMade : Event → ℕ
  | .addObserver .. => 1
  | _ => 0

end PixelPanel.Link

namespace PixelPanel.Proofs
open Link

/-- Observers are numbered by their places, and all listeners but the inbox are among them. -/
structure Numbered (link : Link) : Prop where
  serials : ∀ serial listener, link.observers[serial]? = some listener →
    ∃ name manner fails, listener = Listener.observer serial name manner fails
  listeners : ∀ listener ∈ link.listeners, listener = .inbox ∨ listener ∈ link.observers

variable {link : Link}

/-! ### Listeners under another name -/

lemma map_erase_of_forall {α β : Type} [DecidableEq α] [DecidableEq β] {f : α → β} {a : α}
    {l : List α} (h : ∀ b ∈ l, f b = f a → b = a) :
    (l.map f).erase (f a) = (l.erase a).map f := by
  induction l with
  | nil => rfl
  | cons b l ih =>
    obtain ⟨hhead, htail⟩ := List.forall_mem_cons.mp h
    by_cases heq : b = a
    · subst heq
      rw [List.map_cons, List.erase_cons_head, List.erase_cons_head]
    · have hne : f b ≠ f a := fun hsame => heq (hhead hsame)
      rw [List.map_cons, List.erase_cons_tail (by simpa using hne),
        List.erase_cons_tail (by simpa using heq), List.map_cons, ih htail]

lemma mem_map_iff_of_forall {α β : Type} {f : α → β} {a : α} {l : List α}
    (h : ∀ b ∈ l, f b = f a → b = a) : f a ∈ l.map f ↔ a ∈ l := by
  refine ⟨fun hmem => ?_, List.mem_map_of_mem⟩
  obtain ⟨b, hb, hsame⟩ := List.mem_map.mp hmem
  exact h b hb hsame ▸ hb

/-! ### Events -/

lemma mem_observers_of_observer? {name : String} {listener : Listener}
    (h : link.observer? name = some listener) : listener ∈ link.observers :=
  List.mem_reverse.mp (List.mem_of_find?_eq_some h)

/-- What runs after an event leaves the listeners and the observers alone. -/
lemma roster_drain (turns : ℕ) (link : Link) : (Link.drain turns link).listeners = link.listeners ∧
    (Link.drain turns link).observers = link.observers := by
  refine drain_induction (P := fun next => next.listeners = link.listeners ∧
    next.observers = link.observers) (fun next wake rest hnext hwakes => ?_) turns link ⟨rfl, rfl⟩
  cases hworker : workerOf? wake with
  | none =>
    have hsame := @audience_resume { next with wakes := rest } wake hworker
    exact ⟨(congrArg Audience.listeners hsame).trans hnext.1,
      (congrArg Audience.observers hsame).trans hnext.2⟩
  | some session =>
    obtain ⟨inbox, notes, idle, wakes, blocked, change, -, -, -, hworks⟩ :=
      @resume_works { next with wakes := rest } _ _ hworker
    rw [hworks]
    exact hnext

lemma Numbered.act (h : Numbered link) (id : ℕ) (event : Event) :
    Numbered (link.act id event) ∧
      (link.act id event).observers.length = link.observers.length + event.observersMade := by
  by_cases haudience : event.concernsAudience = false
  · have hsame := @audience_act link event haudience id
    have hobservers : (link.act id event).observers = link.observers :=
      congrArg Audience.observers hsame
    have hlisteners : (link.act id event).listeners = link.listeners :=
      congrArg Audience.listeners hsame
    rw [hobservers]
    refine ⟨⟨hobservers ▸ h.serials, hobservers ▸ hlisteners ▸ h.listeners⟩, ?_⟩
    cases event <;> first | rfl | cases haudience
  · cases event with
    | addObserver name manner fails =>
      refine ⟨⟨fun serial listener hserial => ?_, ?_⟩, List.length_append⟩
      · have hplace : (link.observers ++
            [Listener.observer link.observers.length name manner fails])[serial]? = some listener :=
          hserial
        rw [List.getElem?_append] at hplace
        split at hplace
        · exact h.serials serial listener hplace
        · obtain ⟨hlast, rfl⟩ := List.getElem?_eq_some_iff.mp hplace
          rw [List.length_singleton] at hlast
          obtain rfl : serial = link.observers.length := by omega
          exact ⟨name, manner, fails, List.getElem_singleton _⟩
      · refine List.forall_mem_append.mpr ⟨fun listener hmem => ?_, ?_⟩
        · exact (h.listeners listener hmem).imp_right (List.mem_append_left _)
        · have hlast := List.mem_append_right link.observers (List.mem_singleton_self
            (Listener.observer link.observers.length name manner fails))
          exact List.forall_mem_singleton.mpr (.inr hlast)
    | addAgain name =>
      rw [Link.act]
      split
      · exact ⟨h, rfl⟩
      · rename_i listener hfound
        refine ⟨⟨h.serials, List.forall_mem_append.mpr ⟨h.listeners, ?_⟩⟩, rfl⟩
        exact List.forall_mem_singleton.mpr (.inr (mem_observers_of_observer? hfound))
    | removeObserver name =>
      rw [Link.act]
      split
      · exact ⟨{ h with }, rfl⟩
      · split
        · exact ⟨⟨h.serials, fun other hmem => h.listeners other (List.mem_of_mem_erase hmem)⟩, rfl⟩
        · exact ⟨{ h with }, rfl⟩
    | openGate => exact ⟨{ h with }, rfl⟩
    | closeGate => exact ⟨{ h with }, rfl⟩
    | _ => exact (haudience rfl).elim

lemma Numbered.step (h : Numbered link) (event : Event) : Numbered (link.step event) ∧
    (link.step event).observers.length = link.observers.length + event.observersMade := by
  obtain ⟨hact, hlength⟩ := h.act link.clock event
  obtain ⟨hlisteners, hobservers⟩ := roster_drain (link.act link.clock event).load
    (link.act link.clock event)
  refine ⟨⟨?_, ?_⟩, ?_⟩
  · change ∀ serial listener, (settle _).observers[serial]? = some listener → _
    rw [settle, hobservers]
    exact hact.serials
  · change ∀ listener ∈ (settle _).listeners, listener = .inbox ∨ listener ∈ (settle _).observers
    rw [settle, hlisteners, hobservers]
    exact hact.listeners
  · change (settle _).observers.length = _
    rw [settle, hobservers, hlength]

end PixelPanel.Proofs
