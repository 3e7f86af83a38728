import PixelPanel.Proofs.Link.Mirrors

/-!
# Listeners under other numbers

Observers are numbered in the order in which they are made. Where there have been more of them before,
the same observers have other numbers. Two links have the same roster if their listeners are the same
under other numbers and if the observers that are found by the names in question are, too.
-/

namespace PixelPanel.Proofs
open Link

variable {link link' : Link} {k : ℕ → ℕ} {names : String → Prop}

/-- A listener that an event can be about: it listens, or it is found by one of some names. -/
def IsKnown (names : String → Prop) (link : Link) (listener : Listener) : Prop :=
  listener ∈ link.listeners ∨ ∃ name, names name ∧ link.observer? name = some listener

/-- Under other numbers the second link has the same listeners, it finds the same observers by some
names, and the observers that are made from now on will be the same. -/
structure SameRoster (k : ℕ → ℕ) (names : String → Prop) (link link' : Link) : Prop where
  numbered : Numbered link
  numbered' : Numbered link'
  next : ∀ more, k (link.observers.length + more) = link'.observers.length + more
  listeners : link'.listeners = link.listeners.map (Listener.renumbered k)
  found : ∀ name, names name →
    link'.observer? name = (link.observer? name).map (Listener.renumbered k)
  distinct : ∀ first second, IsKnown names link first → IsKnown names link second →
    first.renumbered k = second.renumbered k → first = second

lemma SameRoster.congr (h : SameRoster k names link link') {next next' : Link}
    (hlisteners : next.listeners = link.listeners) (hobservers : next.observers = link.observers)
    (hlisteners' : next'.listeners = link'.listeners)
    (hobservers' : next'.observers = link'.observers) : SameRoster k names next next' := by
  have hfind : ∀ name, next.observer? name = link.observer? name := fun name => by
    rw [observer?, hobservers, observer?]
  have hfind' : ∀ name, next'.observer? name = link'.observer? name := fun name => by
    rw [observer?, hobservers', observer?]
  have hknown : ∀ listener, IsKnown names next listener → IsKnown names link listener := by
    intro listener hlistener
    rw [IsKnown, hlisteners] at hlistener
    exact hlistener.imp_right fun ⟨name, hname, hfound⟩ => ⟨name, hname, hfind name ▸ hfound⟩
  refine ⟨⟨?_, ?_⟩, ⟨?_, ?_⟩, ?_, ?_, fun name hname => ?_, fun first second hfirst hsecond =>
    h.distinct first second (hknown first hfirst) (hknown second hsecond)⟩
  · rw [hobservers]
    exact h.numbered.serials
  · rw [hlisteners, hobservers]
    exact h.numbered.listeners
  · rw [hobservers']
    exact h.numbered'.serials
  · rw [hlisteners', hobservers']
    exact h.numbered'.listeners
  · rw [hobservers, hobservers']
    exact h.next
  · rw [hlisteners, hlisteners']
    exact h.listeners
  · rw [hfind, hfind']
    exact h.found name hname

lemma Numbered.lt (h : Numbered link) {serial : ℕ} {name : String} {manner : Manner} {fails : Bool}
    (hmem : .observer serial name manner fails ∈ link.observers) :
    serial < link.observers.length := by
  obtain ⟨place, hplace⟩ := List.getElem?_of_mem hmem
  obtain ⟨name', manner', fails', heq⟩ := h.serials place _ hplace
  obtain rfl := (Listener.observer.inj heq).1
  exact (List.getElem?_eq_some_iff.mp hplace).1

/-- In the second link a known listener is the inbox or an observer too. -/
lemma SameRoster.image (h : SameRoster k names link link') {listener : Listener}
    (hknown : IsKnown names link listener) :
    listener.renumbered k = .inbox ∨ listener.renumbered k ∈ link'.observers := by
  rcases hknown with hmem | ⟨name, hname, hfound⟩
  · refine h.numbered'.listeners _ ?_
    rw [h.listeners]
    exact List.mem_map_of_mem hmem
  · have hfound' := h.found name hname
    rw [hfound, Option.map_some] at hfound'
    exact .inr (mem_observers_of_observer? hfound')

/-- A new observer is different from all known listeners. -/
lemma SameRoster.ne_new (h : SameRoster k names link link') {listener : Listener}
    (hknown : IsKnown names link listener) (name : String) (manner : Manner) (fails : Bool) :
    listener.renumbered k ≠ .observer link'.observers.length name manner fails := by
  intro heq
  rcases h.image hknown with hinbox | hmem
  · cases hinbox.symm.trans heq
  · rw [heq] at hmem
    exact Nat.lt_irrefl _ (h.numbered'.lt hmem)

lemma observer?_addObserver (name : String) (manner : Manner) (fails : Bool) (sought : String) :
    (link.addObserver name manner fails).observer? sought =
      if name = sought then some (.observer link.observers.length name manner fails)
      else link.observer? sought := by
  rw [observer?, addObserver, List.reverse_append, List.reverse_singleton, List.singleton_append]
  by_cases heq : name = sought
  · rw [if_pos heq]
    exact List.find?_cons_of_pos (by simp [Listener.name?, heq])
  · rw [if_neg heq]
    exact List.find?_cons_of_neg (by simp [Listener.name?, heq])

lemma SameRoster.addObserver (h : SameRoster k names link link') (name : String) (manner : Manner)
    (fails : Bool) :
    SameRoster k names (link.addObserver name manner fails) (link'.addObserver name manner fails) := by
  have hnew : (Listener.observer link.observers.length name manner fails).renumbered k =
      .observer link'.observers.length name manner fails := by
    have hnext := h.next 0
    rw [Nat.add_zero, Nat.add_zero] at hnext
    rw [Listener.renumbered, hnext]
  have hknown : ∀ listener, IsKnown names (link.addObserver name manner fails) listener →
      listener = .observer link.observers.length name manner fails ∨ IsKnown names link listener := by
    rintro listener (hmem | ⟨sought, hname, hfound⟩)
    · rcases List.mem_append.mp hmem with hold | hlast
      · exact .inr (.inl hold)
      · exact .inl (List.mem_singleton.mp hlast)
    · rw [observer?_addObserver] at hfound
      split at hfound
      · exact .inl (Option.some.inj hfound).symm
      · exact .inr (.inr ⟨sought, hname, hfound⟩)
  refine ⟨(h.numbered.act 0 (.addObserver name manner fails)).1,
    (h.numbered'.act 0 (.addObserver name manner fails)).1, fun more => ?_, ?_,
    fun sought hname => ?_, fun first second hfirst hsecond heq => ?_⟩
  · have hnext := h.next (1 + more)
    rw [← Nat.add_assoc, ← Nat.add_assoc] at hnext
    rw [Link.addObserver, Link.addObserver, List.length_append, List.length_append]
    exact hnext
  · rw [Link.addObserver, Link.addObserver, List.map_append, ← h.listeners, List.map_singleton, hnew]
  · rw [observer?_addObserver, observer?_addObserver]
    split
    · rw [Option.map_some, hnew]
    · exact h.found sought hname
  · rcases hknown first hfirst with rfl | hfirst
    · rcases hknown second hsecond with rfl | hsecond
      · rfl
      · exact (h.ne_new hsecond name manner fails (heq.symm.trans hnew)).elim
    · rcases hknown second hsecond with rfl | hsecond
      · exact (h.ne_new hfirst name manner fails (heq.trans hnew)).elim
      · exact h.distinct first second hfirst hsecond heq

/-- The numbers of observers that are made later follow those of all that were made before. -/
def extended (k : ℕ → ℕ) (count count' : ℕ) (serial : ℕ) : ℕ :=
  if serial < count then k serial else count' + (serial - count)

lemma renumbered_extended (h : Numbered link) {listener : Listener}
    (hmem : listener = .inbox ∨ listener ∈ link.observers) (count' : ℕ) :
    listener.renumbered (extended k link.observers.length count') = listener.renumbered k := by
  rcases listener with _ | ⟨serial, name, manner, fails⟩
  · rfl
  · rw [Listener.renumbered, Listener.renumbered, extended,
      if_pos (h.lt (hmem.resolve_left Listener.noConfusion))]

lemma renumbered_injective (h : Function.Injective k) :
    Function.Injective (Listener.renumbered k) := by
  intro first second heq
  cases first <;> cases second <;> simp_all [Listener.renumbered, h.eq_iff]

end PixelPanel.Proofs
