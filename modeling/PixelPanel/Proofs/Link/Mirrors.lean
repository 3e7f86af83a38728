import PixelPanel.Proofs.Link.Roster

/-!
# Two sessions side by side

Two links are compared session against session. Their pasts, their numbers of sessions and observers and
all that concerns calls may differ; but in the sessions in use the same chunks wait, the workers wait
for the same things, the inboxes are equal and the same listeners are there, if under other numbers.
Then whatever the workers do they do in both, and both links report the same.
-/

namespace PixelPanel.Link

/-- Whether a note tells what has become of something that the device has sent: who has heard it, what
was noise, what could not be decoded, what was decoded and to whom it was told. -/
def Note.isReport : Note → Bool
  | .heard .. | .told .. => true
  | .log entry => entry.origin == .envelope || entry.origin == .panel &&
    (entry.level == .warning || "Device: ".toList.isPrefixOf entry.message.toList)
  | _ => false

/-- All that has been reported. -/
def reports (link : Link) : List Note :=
  link.trace.filter Note.isReport

/-- The same listener under another number. -/
def Listener.renumbered (k : ℕ → ℕ) : Listener → Listener
  | .inbox => .inbox
  | .observer serial name manner fails => .observer (k serial) name manner fails

/-- A delivery of another session to listeners under other numbers. -/
def Delivery.moved (k : ℕ → ℕ) (session : ℕ) (going : Delivery) : Delivery :=
  { going.recast (Listener.renumbered k) with session := session }

@[simp] lemma Delivery.moved_session (k : ℕ → ℕ) (session : ℕ) (going : Delivery) :
    (going.moved k session).session = session := rfl

@[simp] lemma Delivery.moved_chunk (k : ℕ → ℕ) (session : ℕ) (going : Delivery) :
    (going.moved k session).chunk = going.chunk := rfl

@[simp] lemma Delivery.moved_listeners (k : ℕ → ℕ) (session : ℕ) (going : Delivery) :
    (going.moved k session).listeners = going.listeners.map (Listener.renumbered k) := rfl

/-- A turn of a worker in another session. -/
def Wake.moved (k : ℕ → ℕ) (session : ℕ) : Wake → Wake
  | .call id => .call id
  | .leaving id turns outcome => .leaving id turns outcome
  | .worker _ => .worker session
  | .delivery going => .delivery (going.moved k session)
  | .returned listener going => .returned (listener.renumbered k) (going.moved k session)

end PixelPanel.Link

namespace PixelPanel.Proofs
open Link

/-- A session to be compared: its number, whether its reader listens, and what had been reported before
the comparison. -/
structure Seat where
  session : ℕ
  listens : Bool
  past : List Note

/-- The workers of the sessions in use of two links are in the same situation, and since the beginning
of the comparison the same has been reported. -/
structure Mirrors (k : ℕ → ℕ) (seat seat' : Seat) (link link' : Link) : Prop where
  current : link.current = some seat.session
  current' : link'.current = some seat'.session
  found : ∃ isOpen isOpen' idle queue,
    link.sessions[seat.session]? = some ⟨isOpen, seat.listens, idle, queue⟩ ∧
    link'.sessions[seat'.session]? = some ⟨isOpen', seat'.listens, idle, queue⟩
  capacity : link'.capacity = link.capacity
  inbox : link'.inbox = link.inbox
  gateOpen : link'.gateOpen = link.gateOpen
  listeners : link'.listeners = link.listeners.map (Listener.renumbered k)
  blocked : link'.blocked = link.blocked.map (Delivery.moved k seat'.session)
  wakes : link'.wakes = link.wakes.map (Wake.moved k seat'.session)
  own : ∀ going ∈ link.blocked, going.session = seat.session
  turns : ∀ wake ∈ link.wakes, workerOf? wake = some seat.session
  reports : ∃ since, link.reports = seat.past ++ since ∧ link'.reports = seat'.past ++ since

variable {k : ℕ → ℕ} {seat seat' : Seat} {link link' : Link}

/-! ### Single changes -/

lemma Mirrors.queueOf (h : Mirrors k seat seat' link link') :
    link'.queueOf seat'.session = link.queueOf seat.session := by
  obtain ⟨isOpen, isOpen', idle, queue, hfound, hfound'⟩ := h.found
  rw [Link.queueOf, Link.queueOf, hfound, hfound']
  rfl

lemma Mirrors.trace (h : Mirrors k seat seat' link link') {notes notes' : List Note}
    (hsame : notes'.filter Note.isReport = notes.filter Note.isReport) :
    Mirrors k seat seat' { link with trace := link.trace ++ notes }
      { link' with trace := link'.trace ++ notes' } := by
  obtain ⟨since, hreports, hreports'⟩ := h.reports
  refine { h with reports := ⟨since ++ notes.filter Note.isReport, ?_, ?_⟩ }
  · rw [Link.reports, List.filter_append, ← List.append_assoc, ← hreports]
    rfl
  · rw [Link.reports, List.filter_append, hsame, ← List.append_assoc, ← hreports']
    rfl

lemma Mirrors.log (h : Mirrors k seat seat' link link') (level : Level) (message message' : String) :
    Mirrors k seat seat' (link.log level message) (link'.log level message') :=
  h.trace rfl

lemma Mirrors.modify (h : Mirrors k seat seat' link link') (f : ℕ → ℕ)
    (g : List Octets → List Octets) :
    Mirrors k seat seat'
      (link.modifySession seat.session fun found =>
        { found with idle := f found.idle, queue := g found.queue })
      (link'.modifySession seat'.session fun found =>
        { found with idle := f found.idle, queue := g found.queue }) := by
  obtain ⟨isOpen, isOpen', idle, queue, hfound, hfound'⟩ := h.found
  refine { h with found := ⟨isOpen, isOpen', f idle, g queue, ?_, ?_⟩ }
  · rw [modifySession, List.getElem?_modify_eq, hfound]
    rfl
  · rw [modifySession, List.getElem?_modify_eq, hfound']
    rfl

lemma Mirrors.wake (h : Mirrors k seat seat' link link') {wakes : List Wake}
    (hown : ∀ wake ∈ wakes, workerOf? wake = some seat.session) :
    Mirrors k seat seat' (link.wake wakes)
      (link'.wake (wakes.map (Wake.moved k seat'.session))) := by
  refine { h with wakes := ?_, turns := List.forall_mem_append.mpr ⟨h.turns, hown⟩ }
  rw [Link.wake, Link.wake, h.wakes, List.map_append]

lemma Mirrors.block (h : Mirrors k seat seat' link link') {going : Delivery}
    (hown : going.session = seat.session) :
    Mirrors k seat seat' { link with blocked := link.blocked ++ [going] }
      { link' with blocked := link'.blocked ++ [going.moved k seat'.session] } := by
  refine { h with
    blocked := ?_
    own := List.forall_mem_append.mpr ⟨h.own, List.forall_mem_singleton.mpr hown⟩ }
  rw [h.blocked, List.map_append]
  rfl

/-! ### Workers -/

lemma Mirrors.receive (h : Mirrors k seat seat' link link') (chunk : Octets) :
    Mirrors k seat seat' (link.receive chunk) (link'.receive chunk) := by
  have hinbox : ∀ inbox, Mirrors k seat seat' { link with inbox := inbox }
      { link' with inbox := inbox } := fun inbox => { h with inbox := rfl }
  rw [Link.receive, Link.receive, h.inbox]
  dsimp only
  have hnoted := (hinbox (link.inbox.receive chunk).1).trace
    (rfl : (((link.inbox.receive chunk).2.notes.map ofInboxNote).filter Note.isReport) = _)
  split
  · exact hnoted
  · exact hnoted.log ..

/-- The number of an observer stands only in the log of the link. -/
lemma Mirrors.takeNote (h : Mirrors k seat seat' link link') (serial serial' : ℕ) (name : String)
    (manner : Manner) (fails : Bool) (chunk : Octets) :
    Mirrors k seat seat' (link.takeNote serial name manner fails chunk)
      (link'.takeNote serial' name manner fails chunk) := by
  have hnoted : Mirrors k seat seat' (link.note (.heard name chunk)) (link'.note (.heard name chunk)) :=
    h.trace rfl
  cases fails with
  | true => exact hnoted.log ..
  | false => exact hnoted

lemma Mirrors.deliver (h : Mirrors k seat seat' link link') (chunk : Octets)
    (listeners : List Listener) :
    Mirrors k seat seat' (Link.deliver seat.session chunk listeners link).1
        (Link.deliver seat'.session chunk (listeners.map (Listener.renumbered k)) link').1 ∧
      (Link.deliver seat'.session chunk (listeners.map (Listener.renumbered k)) link').2 =
        (Link.deliver seat.session chunk listeners link).2 := by
  induction listeners generalizing link link' with
  | nil => exact ⟨h, rfl⟩
  | cons listener rest ih =>
    rw [List.map_cons]
    rcases listener with _ | ⟨serial, name, manner, fails⟩
    · exact ih (h.receive chunk)
    · cases manner with
      | direct => exact ih (h.takeNote ..)
      | threaded =>
        have hnoted : Mirrors k seat seat' (link.note (.heard name chunk))
            (link'.note (.heard name chunk)) := h.trace rfl
        refine ⟨?_, rfl⟩
        exact @Mirrors.wake _ _ _ _ _ hnoted
          [.returned (.observer serial name .threaded fails) ⟨seat.session, chunk, rest⟩]
          (List.forall_mem_singleton.mpr rfl)
      | gated =>
        rw [Listener.renumbered, Link.deliver, Link.deliver]
        by_cases hopen : link.gateOpen = true
        · rw [if_pos (h.gateOpen.trans hopen), if_pos hopen]
          exact ih (h.takeNote ..)
        · have hshut : ¬link'.gateOpen = true := fun hopen' => hopen (h.gateOpen.symm.trans hopen')
          rw [if_neg hshut, if_neg hopen]
          refine ⟨?_, rfl⟩
          exact @Mirrors.block _ _ _ _ _ h
            ⟨seat.session, chunk, .observer serial name .gated fails :: rest⟩ rfl

lemma Mirrors.work (h : Mirrors k seat seat' link link') (queue : List Octets) :
    Mirrors k seat seat' (Link.work seat.session queue link) (Link.work seat'.session queue link') := by
  induction queue generalizing link link' with
  | nil => exact h.modify (· + 1) id
  | cons chunk rest ih =>
    have htaken : Mirrors k seat seat'
        (link.modifySession seat.session fun found => { found with queue := rest })
        (link'.modifySession seat'.session fun found => { found with queue := rest }) :=
      h.modify id fun _ => rest
    obtain ⟨hdealt, hend⟩ := htaken.deliver chunk link.listeners
    rw [work_cons, work_cons, h.listeners]
    dsimp only
    rw [hend]
    split
    · exact ih hdealt
    · exact hdealt

lemma Mirrors.resumeDelivery (h : Mirrors k seat seat' link link') {going : Delivery}
    (hown : going.session = seat.session) :
    Mirrors k seat seat' (link.resumeDelivery going)
      (link'.resumeDelivery (going.moved k seat'.session)) := by
  obtain ⟨hdealt, hend⟩ := h.deliver going.chunk going.listeners
  rw [Link.resumeDelivery, Link.resumeDelivery, hown, Delivery.moved_session, Delivery.moved_chunk,
    Delivery.moved_listeners]
  generalize Link.deliver seat.session going.chunk going.listeners link = result at *
  generalize Link.deliver seat'.session going.chunk
    (going.listeners.map (Listener.renumbered k)) link' = result' at *
  obtain ⟨next, completed⟩ := result
  obtain ⟨next', completed'⟩ := result'
  dsimp only at *
  subst hend
  cases completed' with
  | true =>
    dsimp only
    rw [hdealt.queueOf]
    exact hdealt.work _
  | false => exact hdealt

lemma Mirrors.turn (h : Mirrors k seat seat' link link') {wake : Wake} {rest : List Wake}
    (hwakes : link.wakes = wake :: rest) :
    Mirrors k seat seat' ({ link with wakes := rest }.resume wake)
      ({ link' with wakes := rest.map (Wake.moved k seat'.session) }.resume
        (wake.moved k seat'.session)) := by
  obtain ⟨hown, hrest⟩ := List.forall_mem_cons.mp (hwakes ▸ h.turns)
  have hpopped : Mirrors k seat seat' { link with wakes := rest }
      { link' with wakes := rest.map (Wake.moved k seat'.session) } :=
    { h with wakes := rfl, turns := hrest }
  cases wake with
  | call id => cases hown
  | leaving id turns outcome => cases hown
  | worker session =>
    obtain rfl : session = seat.session := Option.some.inj hown
    rw [Wake.moved, resume, resume, hpopped.queueOf]
    exact hpopped.work _
  | delivery going => exact hpopped.resumeDelivery (Option.some.inj hown)
  | returned listener going =>
    have hsession : going.session = seat.session := Option.some.inj hown
    rcases listener with _ | ⟨serial, name, manner, _ | _⟩
    · exact hpopped.resumeDelivery hsession
    · exact hpopped.resumeDelivery hsession
    · exact (hpopped.log ..).resumeDelivery hsession

lemma Mirrors.drain (h : Mirrors k seat seat' link link') (turns : ℕ) :
    Mirrors k seat seat' (Link.drain turns link) (Link.drain turns link') := by
  induction turns generalizing link link' with
  | zero => exact h
  | succ turns ih =>
    rw [Link.drain, Link.drain, h.wakes]
    cases hwakes : link.wakes with
    | nil => exact h
    | cons wake rest => exact ih (h.turn hwakes)

/-- A link that has settled does not change in more turns. -/
lemma settle_eq_drain {turns : ℕ} (h : link.load ≤ turns) : link.settle = Link.drain turns link := by
  obtain ⟨more, rfl⟩ := Nat.exists_eq_add_of_le h
  rw [drain_add]
  exact (drain_of_nil (wakes_settle link) more).symm

lemma Mirrors.settle (h : Mirrors k seat seat' link link') :
    Mirrors k seat seat' link.settle link'.settle := by
  rw [settle_eq_drain (Nat.le_add_right link.load link'.load),
    settle_eq_drain (Nat.le_add_left link'.load link.load)]
  exact h.drain _

/-! ### The reader -/

lemma Mirrors.enqueue (h : Mirrors k seat seat' link link') (chunk : Octets) :
    Mirrors k seat seat' (link.enqueue chunk) (link'.enqueue chunk) := by
  have henqueue : ∀ {link : Link} {session : ℕ}, link.current = some session →
      link.enqueue chunk =
        if 0 < link.capacity ∧ link.capacity ≤ (link.queueOf session).length then
          { link with dropped := link.dropped + 1 }.log .warning
            (s!"Listener queue full, dropped {chunk.length} byte chunk " ++
              s!"({link.dropped + 1} dropped so far)")
        else link.modifySession session fun found => { found with queue := found.queue ++ [chunk] } := by
    intro link session hcurrent
    unfold Link.enqueue
    split <;> simp_all
  have hdropped : Mirrors k seat seat' { link with dropped := link.dropped + 1 }
      { link' with dropped := link'.dropped + 1 } := { h with }
  have hsame : (0 < link'.capacity ∧ link'.capacity ≤ (link'.queueOf seat'.session).length) ↔
      0 < link.capacity ∧ link.capacity ≤ (link.queueOf seat.session).length := by
    rw [h.capacity, h.queueOf]
  rw [henqueue h.current, henqueue h.current']
  by_cases hfull : 0 < link.capacity ∧ link.capacity ≤ (link.queueOf seat.session).length
  · rw [if_pos hfull, if_pos (hsame.mpr hfull)]
    exact hdropped.log ..
  · rw [if_neg hfull, if_neg (hfull ∘ hsame.mp)]
    exact h.modify id (· ++ [chunk])

lemma Mirrors.rouse (h : Mirrors k seat seat' link link') :
    Mirrors k seat seat' (link.rouse seat.session) (link'.rouse seat'.session) := by
  obtain ⟨isOpen, isOpen', idle, queue, hfound, hfound'⟩ := h.found
  have hwoken := @Mirrors.wake _ _ _ _ _ (h.modify (· - min idle queue.length) id)
    (List.replicate (min idle queue.length) (.worker seat.session))
    fun wake hmem => by rw [List.eq_of_mem_replicate hmem]; rfl
  rw [List.map_replicate] at hwoken
  rw [Link.rouse, Link.rouse, hfound, hfound']
  exact hwoken

lemma hasReader_of_found {session : ℕ} {found : Session}
    (hfound : link.sessions[session]? = some found) (hreading : found.reading) : link.hasReader :=
  List.any_eq_true.mpr ⟨found, List.mem_of_getElem? hfound, hreading⟩

lemma Mirrors.read (h : Mirrors k seat seat' link link') (hlistens : seat.listens)
    (hlistens' : seat'.listens) (octets : Octets) :
    Mirrors k seat seat' (link.read octets) (link'.read octets) := by
  have hfold : ∀ (pieces : List Octets) {link link' : Link}, Mirrors k seat seat' link link' →
      Mirrors k seat seat'
        (pieces.foldl (fun link chunk =>
          (link.log .debug ("Received: " ++ Hex.encode chunk)).enqueue chunk) link)
        (pieces.foldl (fun link chunk =>
          (link.log .debug ("Received: " ++ Hex.encode chunk)).enqueue chunk) link') := by
    intro pieces
    induction pieces with
    | nil => exact id
    | cons piece rest ih => exact fun h => ih ((h.log ..).enqueue piece)
  obtain ⟨isOpen, isOpen', idle, queue, hfound, hfound'⟩ := h.found
  have hqueued := hfold (chunks octets) h
  rw [Link.read, Link.read, if_pos (hasReader_of_found hfound hlistens),
    if_pos (hasReader_of_found hfound' hlistens')]
  dsimp only
  rw [hqueued.current, hqueued.current']
  exact hqueued.rouse

end PixelPanel.Proofs
