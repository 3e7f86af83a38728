import PixelPanel.Proofs.PairedSessions

/-!
# Sessions do not leak into each other

Before a session begins there may have been others: one that was left by a disconnect, one that the
device closed in the middle of an envelope, one of which chunks were waiting and listeners were
blocked. None of it shows in what the new session reports.
-/

namespace PixelPanel.Proofs
open Link

variable {session session' : ℕ} {link link' : Link} {k : ℕ → ℕ}

/-! ### The beginning of a session -/

/-- The listeners of two panels are the same under other numbers, and so are the observers to which
later events refer. The gate and the callbacks are the same. -/
structure SameAudience (k : ℕ → ℕ) (later : List Panel.Event) (panel panel' : Link) : Prop where
  injective : Function.Injective k
  listeners : panel'.listeners = panel.listeners.map (Listener.renumbered k)
  recalled : ∀ event ∈ later, ∀ name, event.name? = some name →
    panel'.observer? name = (panel.observer? name).map (Listener.renumbered k)
  gateOpen : panel'.gateOpen = panel.gateOpen
  callbacks : panel'.inbox.callbacks = panel.inbox.callbacks

lemma SameAudience.roster {later : List Panel.Event} (h : SameAudience k later link link')
    (hnumbered : Numbered link) (hnumbered' : Numbered link') :
    SameRoster (extended k link.observers.length link'.observers.length)
      (fun name => ∃ event ∈ later, event.name? = some name) link link' := by
  have hsame : ∀ listener, listener = .inbox ∨ listener ∈ link.observers →
      listener.renumbered (extended k link.observers.length link'.observers.length) =
        listener.renumbered k := fun listener hmem => renumbered_extended hnumbered hmem _
  have hknown : ∀ listener, IsKnown (fun name => ∃ event ∈ later, event.name? = some name) link
      listener → listener = .inbox ∨ listener ∈ link.observers := by
    rintro listener (hmem | ⟨name, -, hfound⟩)
    · exact hnumbered.listeners listener hmem
    · exact .inr (mem_observers_of_observer? hfound)
  refine ⟨hnumbered, hnumbered', fun more => ?_, ?_, ?_, fun first second hfirst hsecond heq => ?_⟩
  · rw [extended, if_neg (by omega)]
    omega
  · rw [h.listeners]
    exact List.map_congr_left fun listener hmem =>
      (hsame listener (hnumbered.listeners listener hmem)).symm
  · rintro name ⟨event, hevent, hname⟩
    rw [h.recalled event hevent name hname]
    cases hfound : link.observer? name with
    | none => rfl
    | some listener =>
      rw [Option.map_some, Option.map_some, hsame listener (.inr (mem_observers_of_observer? hfound))]
  · rw [hsame first (hknown first hfirst), hsame second (hknown second hsecond)] at heq
    exact renumbered_injective h.injective heq

lemma SameAudience.refl (later : List Panel.Event) (link : Link) : SameAudience id later link link := by
  have hsame : Listener.renumbered id = id := by
    funext listener
    cases listener <;> rfl
  refine ⟨Function.injective_id, ?_, fun _ _ name _ => ?_, rfl, rfl⟩
  · rw [hsame, List.map_id]
  · rw [hsame, Option.map_id, id]

lemma BegunAnew.found (h : BegunAnew session link) : ∃ isOpen,
    link.sessions[session]? = some ⟨isOpen, true, link.workers, []⟩ := by
  obtain ⟨isOpen, hfound⟩ := exists_found (lt_of_current h.sound h.current)
  rw [h.reading, h.idle, h.queue] at hfound
  exact ⟨isOpen, hfound⟩

/-- The same callback and the same observer after a session of which much is left: half an envelope has
come behind a whole one, an observer is blocked, a chunk waits behind it, and the device has closed the
session. A second attempt to connect waits for its answer. -/
def late : List Panel.Event :=
  [.addCallback "first" false, .link (.addObserver "wall" .gated false), .link (.connect .accepted),
    .link (.deviceSends [0x01, 0x06, 0x00, 0x04, 0x09, 0x55, 0x07, 0x6f, 0x00, 0x02, 0x01, 0x06]),
    .link (.deviceSends [0x00, 0x04, 0x09]), .link .deviceCloses, .link (.removeObserver "wall"),
    .link (.addObserver "hall" .direct false), .link (.connect .later)]

end PixelPanel.Proofs
