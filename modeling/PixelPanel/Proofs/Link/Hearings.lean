import PixelPanel.Proofs.Link.Quiet

/-!
# Who hears what

A worker with a turn goes through the listeners of its chunk until it has to wait, and then through the
queue. How far it comes depends on the listeners and on the gate alone, so what listeners hear while
events happen can be read off the states that the link goes through. It is what the observers note, in
the same order.
-/

namespace PixelPanel.Link

/-- A listener is handed a chunk. -/
structure Hearing where
  listener : Listener
  chunk : Octets
  deriving DecidableEq, Repr

/-- What an observer notes. -/
def Hearing.heard? (hearing : Hearing) : Option (String × Octets) :=
  hearing.listener.name?.map fun name => (name, hearing.chunk)

/-- The listeners that a worker reaches in one turn. -/
def reached (gateOpen : Bool) : List Listener → List Listener
  | [] => []
  | .inbox :: rest => .inbox :: reached gateOpen rest
  | .observer serial name .direct fails :: rest =>
    .observer serial name .direct fails :: reached gateOpen rest
  | .observer serial name .threaded fails :: _ => [.observer serial name .threaded fails]
  | .observer serial name .gated fails :: rest =>
    if gateOpen then .observer serial name .gated fails :: reached gateOpen rest else []

/-- Whether a worker has to wait for a listener. -/
def Listener.waits (gateOpen : Bool) : Listener → Bool
  | .observer _ _ .threaded _ => true
  | .observer _ _ .gated _ => !gateOpen
  | _ => false

/-- Whether a worker is through with all listeners in one turn. -/
def goesThrough (gateOpen : Bool) (listeners : List Listener) : Bool :=
  !listeners.any (Listener.waits gateOpen)

/-- What is heard when a worker hands a chunk to listeners. -/
def hearingsOf (gateOpen : Bool) (chunk : Octets) (listeners : List Listener) : List Hearing :=
  (reached gateOpen listeners).map fun listener => ⟨listener, chunk⟩

/-- What is heard when a worker goes through a queue. -/
def hearingsWorking (gateOpen : Bool) (listeners : List Listener) : List Octets → List Hearing
  | [] => []
  | chunk :: rest => hearingsOf gateOpen chunk listeners ++
      if goesThrough gateOpen listeners then hearingsWorking gateOpen listeners rest else []

/-- What is heard when a worker goes on with a chunk. -/
def hearingsGoing (link : Link) (going : Delivery) : List Hearing :=
  hearingsOf link.gateOpen going.chunk going.listeners ++
    if goesThrough link.gateOpen going.listeners then
      hearingsWorking link.gateOpen link.listeners (link.queueOf going.session)
    else []

/-- What is heard in one turn. -/
def hearingsIn (link : Link) : Wake → List Hearing
  | .call _ | .leaving .. => []
  | .worker session => hearingsWorking link.gateOpen link.listeners (link.queueOf session)
  | .delivery going | .returned _ going => link.hearingsGoing going

/-- What is heard in some turns. -/
def hearingsDraining : ℕ → Link → List Hearing
  | 0, _ => []
  | turns + 1, link =>
    match link.wakes with
    | [] => []
    | wake :: rest =>
      link.hearingsIn wake ++ hearingsDraining turns ({ link with wakes := rest }.resume wake)

/-- What is heard while events happen. -/
def hearings (link : Link) : List Event → List Hearing
  | [] => []
  | event :: later =>
    hearingsDraining (link.act link.clock event).load (link.act link.clock event) ++
      hearings (link.step event) later

end PixelPanel.Link

namespace PixelPanel.Proofs
open Link

variable {link : Link}

/-! ### Turns -/

/-- What the observers have noted. -/
def notedBy (link : Link) : List (String × Octets) :=
  link.trace.filterMap Note.heard?

lemma noted_note (seen : Note) :
    notedBy (link.note seen) = notedBy link ++ seen.heard?.toList := by
  rw [notedBy, note, List.filterMap_append, notedBy]
  cases h : seen.heard? <;> simp [h]

lemma noted_takeNote (serial : ℕ) (name : String) (manner : Manner) (fails : Bool) (chunk : Octets) :
    notedBy (link.takeNote serial name manner fails chunk) = notedBy link ++ [(name, chunk)] := by
  cases fails with
  | true =>
    rw [takeNote, if_pos rfl, logFailure, log, noted_note, noted_note]
    exact List.append_nil _
  | false => exact noted_note _

lemma noted_receive (chunk : Octets) : notedBy (link.receive chunk) = notedBy link := by
  obtain ⟨notes, hfit, hreceive⟩ := exists_receive_reach 0 link chunk
  rw [hreceive, notedBy, withPasses, List.filterMap_append, hfit]
  exact List.append_nil _

lemma gateOpen_receive (chunk : Octets) : (link.receive chunk).gateOpen = link.gateOpen := by
  obtain ⟨inbox, notes, -, hreceive⟩ := exists_receive link chunk
  rw [hreceive]

lemma gateOpen_takeNote (serial : ℕ) (name : String) (manner : Manner) (fails : Bool)
    (chunk : Octets) : (link.takeNote serial name manner fails chunk).gateOpen = link.gateOpen := by
  cases fails <;> rfl

/-- A worker with a chunk comes as far as the listeners and the gate let it. -/
lemma deliver_hearings (session : ℕ) (chunk : Octets) (listeners : List Listener) (link : Link) :
    (deliver session chunk listeners link).2 = goesThrough link.gateOpen listeners ∧
      notedBy (deliver session chunk listeners link).1 = notedBy link ++
        (hearingsOf link.gateOpen chunk listeners).filterMap Hearing.heard? := by
  induction listeners generalizing link with
  | nil => exact ⟨rfl, (List.append_nil _).symm⟩
  | cons listener rest ih =>
    rcases listener with _ | ⟨serial, name, manner, fails⟩
    · have hrest := ih (link.receive chunk)
      rw [gateOpen_receive, noted_receive] at hrest
      exact hrest
    · -- an observer that takes note at once does so before the others
      have hnoted : ∀ manner, ∀ others : List Hearing,
          notedBy (link.takeNote serial name manner fails chunk) ++ others.filterMap Hearing.heard? =
            notedBy link ++ ((⟨.observer serial name manner fails, chunk⟩ : Hearing) ::
              others).filterMap Hearing.heard? := fun manner others => by
        rw [noted_takeNote, List.append_assoc]
        rfl
      cases manner with
      | direct =>
        have hrest := ih (link.takeNote serial name .direct fails chunk)
        rw [gateOpen_takeNote, hnoted] at hrest
        exact hrest
      | threaded => exact ⟨rfl, noted_note _⟩
      | gated =>
        rw [deliver, goesThrough, hearingsOf, reached]
        split
        · rename_i hopen
          have hrest := ih (link.takeNote serial name .gated fails chunk)
          rw [gateOpen_takeNote, hnoted] at hrest
          rw [hopen] at hrest ⊢
          exact hrest
        · rename_i hclosed
          rw [Bool.not_eq_true] at hclosed
          rw [hclosed]
          exact ⟨rfl, (List.append_nil _).symm⟩

/-- A worker with a chunk leaves the gate, the listeners and the queues alone. -/
lemma deliver_frame (session : ℕ) (chunk : Octets) (listeners : List Listener) (link : Link) :
    (deliver session chunk listeners link).1.gateOpen = link.gateOpen ∧
      (deliver session chunk listeners link).1.listeners = link.listeners ∧
      (deliver session chunk listeners link).1.sessions = link.sessions := by
  have hhanded := deliver_handed session chunk listeners link
  generalize deliver session chunk listeners link = result at hhanded ⊢
  cases hhanded <;> exact ⟨rfl, rfl, rfl⟩

end PixelPanel.Proofs
