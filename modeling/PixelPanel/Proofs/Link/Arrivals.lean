import PixelPanel.Proofs.Link.Asides

/-!
# Chunks that arrive

What the device sends is cut into chunks of at most `chunkSize` octets. A chunk arrives when a certain
number of chunks wait already. If that is the capacity of the link, it is lost, and it is put at the
end of the queue otherwise.
-/

namespace PixelPanel.Link

/-- A chunk that the reader has read, and the number of chunks that waited then. -/
structure Arrival where
  chunk : Octets
  waiting : ℕ
  deriving DecidableEq, Repr

/-- Whether there is no room for a chunk. -/
def Arrival.isLost (capacity : ℤ) (arrival : Arrival) : Bool :=
  decide (0 < capacity ∧ (arrival.waiting : ℤ) = capacity)

/-- The chunks that have been put into the queue. -/
def accepted (capacity : ℤ) (arrivals : List Arrival) : List Octets :=
  (arrivals.filter fun arrival => !arrival.isLost capacity).map Arrival.chunk

/-- Chunks that arrive one after the other in a session. -/
def arriving (session : ℕ) : List Octets → Link → List Arrival
  | [], _ => []
  | chunk :: rest, link => ⟨chunk, (link.queueOf session).length⟩ ::
    arriving session rest ((link.log .debug ("Received: " ++ Hex.encode chunk)).enqueue chunk)

end PixelPanel.Link

namespace PixelPanel.Proofs
open Link

variable {link : Link} {session : ℕ}

/-! ### Chunks -/

lemma chunks_nil : chunks [] = [] := by
  rw [chunks]
  rfl

lemma chunks_of_ne_nil {octets : Octets} (h : octets ≠ []) :
    chunks octets = octets.take chunkSize :: chunks (octets.drop chunkSize) := by
  rw [chunks, if_neg]
  simpa using h

/-- The induction along the chunks of some octets. -/
lemma chunks_induction {P : Octets → Prop} (hnil : P [])
    (hcut : ∀ octets, octets ≠ [] → P (octets.drop chunkSize) → P octets) (octets : Octets) :
    P octets := by
  induction hlength : octets.length using Nat.strong_induction_on generalizing octets with
  | _ count ih =>
    by_cases hne : octets = []
    · rw [hne]
      exact hnil
    · have hpos := List.length_pos_iff.mpr hne
      refine hcut octets hne (ih _ ?_ _ rfl)
      rw [List.length_drop, chunkSize]
      omega

lemma flatten_chunks (octets : Octets) : (chunks octets).flatten = octets := by
  induction octets using chunks_induction with
  | hnil => rw [chunks_nil, List.flatten_nil]
  | hcut octets hne ih => rw [chunks_of_ne_nil hne, List.flatten_cons, ih, List.take_append_drop]

lemma length_chunks_le {octets : Octets} {count : ℕ} (h : octets.length ≤ chunkSize * count) :
    (chunks octets).length ≤ count := by
  induction octets using chunks_induction generalizing count with
  | hnil =>
    rw [chunks_nil]
    exact Nat.zero_le count
  | hcut octets hne ih =>
    have hpos := List.length_pos_iff.mpr hne
    rw [chunks_of_ne_nil hne, List.length_cons]
    cases count with
    | zero => omega
    | succ count =>
      refine Nat.succ_le_succ (ih ?_)
      rw [List.length_drop]
      rw [chunkSize] at h ⊢
      omega

/-! ### Arrivals -/

lemma map_chunk_arriving (pieces : List Octets) (link : Link) :
    (arriving session pieces link).map Arrival.chunk = pieces := by
  induction pieces generalizing link with
  | nil => rfl
  | cons piece rest ih => rw [arriving, List.map_cons, ih]

lemma accepted_append (capacity : ℤ) (arrivals more : List Arrival) :
    accepted capacity (arrivals ++ more) = accepted capacity arrivals ++ accepted capacity more := by
  rw [accepted, List.filter_append, List.map_append]
  rfl

/-- There are no more chunks in the queue of a session than the capacity allows. -/
def HasRoom (session : ℕ) (link : Link) : Prop :=
  0 < link.capacity → ((link.queueOf session).length : ℤ) ≤ link.capacity

/-- The change of a session when chunks are put into its queue. -/
def putInQueue (more : List Octets) (found : Session) : Session :=
  { found with queue := found.queue ++ more }

/-- The link when chunks have arrived, and `notes` were logged. -/
def withArrivals (link : Link) (session : ℕ) (arrivals : List Arrival) (notes : List Note) : Link :=
  { link with
    dropped := link.dropped + arrivals.countP (Arrival.isLost link.capacity)
    trace := link.trace ++ notes
    sessions := link.sessions.modify session (putInQueue (accepted link.capacity arrivals)) }

lemma queueOf_withArrivals (hlt : session < link.sessions.length) (arrivals : List Arrival)
    (notes : List Note) : (withArrivals link session arrivals notes).queueOf session =
      link.queueOf session ++ accepted link.capacity arrivals := by
  simp [queueOf, withArrivals, List.getElem?_eq_getElem hlt, putInQueue]

lemma withArrivals_append (first second : List Arrival) (notes more : List Note) :
    withArrivals (withArrivals link session first notes) session second more =
      withArrivals link session (first ++ second) (notes ++ more) := by
  have hput : putInQueue (accepted link.capacity second) ∘ putInQueue (accepted link.capacity first) =
      putInQueue (accepted link.capacity (first ++ second)) := by
    funext found
    simp [putInQueue, accepted_append]
  simp only [withArrivals, List.countP_append, List.append_assoc, Nat.add_assoc,
    List.modify_modify_eq, hput]

/-- What the reader logs: there is no warning unless a chunk is lost. -/
def FromReader (capacity : ℤ) (arrivals : List Arrival) (seen : Note) : Prop :=
  ∃ entry, seen = .log entry ∧
    (entry.level = .debug ∨ ∃ arrival ∈ arrivals, arrival.isLost capacity)

lemma FromReader.mono {capacity : ℤ} {arrivals more : List Arrival} {seen : Note}
    (h : FromReader capacity arrivals seen) (hsub : arrivals ⊆ more) :
    FromReader capacity more seen := by
  obtain ⟨entry, rfl, hdebug | ⟨arrival, hmem, hlost⟩⟩ := h
  · exact ⟨entry, rfl, .inl hdebug⟩
  · exact ⟨entry, rfl, .inr ⟨arrival, hsub hmem, hlost⟩⟩

/-- A chunk that arrives is lost or put into the queue. -/
lemma exists_enqueue_eq (hcurrent : link.current = some session) (hroom : HasRoom session link)
    (chunk : Octets) : ∃ notes,
      (∀ seen ∈ notes, FromReader link.capacity [⟨chunk, (link.queueOf session).length⟩] seen) ∧
      link.enqueue chunk =
        withArrivals link session [⟨chunk, (link.queueOf session).length⟩] notes := by
  unfold enqueue
  split
  · rename_i hnone
    cases hnone.symm.trans hcurrent
  · rename_i other hother
    obtain rfl : other = session := Option.some.inj (hother.symm.trans hcurrent)
    split
    · rename_i hfull
      have hlost : Arrival.isLost link.capacity ⟨chunk, (link.queueOf other).length⟩ = true :=
        decide_eq_true ⟨hfull.1, le_antisymm (hroom hfull.1) hfull.2⟩
      have hsame : putInQueue (accepted link.capacity [⟨chunk, (link.queueOf other).length⟩]) = id := by
        funext found
        simp [putInQueue, accepted, hlost]
      refine ⟨[.log ⟨.warning, .link, s!"Listener queue full, dropped {chunk.length} byte chunk " ++
        s!"({link.dropped + 1} dropped so far)"⟩], List.forall_mem_singleton.mpr ⟨_, rfl, .inr ?_⟩, ?_⟩
      · exact ⟨_, List.mem_singleton_self _, hlost⟩
      rw [withArrivals, hsame, List.modify_id, List.countP_cons_of_pos hlost]
      rfl
    · rename_i hfree
      have hkept : Arrival.isLost link.capacity ⟨chunk, (link.queueOf other).length⟩ = false :=
        decide_eq_false fun hlost => hfree ⟨hlost.1, hlost.2.ge⟩
      have hsame : accepted link.capacity [⟨chunk, (link.queueOf other).length⟩] = [chunk] := by
        simp [accepted, hkept]
      refine ⟨[], List.forall_mem_nil _, ?_⟩
      rw [withArrivals, hsame, List.append_nil, List.countP_cons_of_neg (by simp [hkept])]
      rfl

lemma exists_readOne_eq (hcurrent : link.current = some session) (hroom : HasRoom session link)
    (chunk : Octets) : ∃ notes,
      (∀ seen ∈ notes, FromReader link.capacity [⟨chunk, (link.queueOf session).length⟩] seen) ∧
      (link.log .debug ("Received: " ++ Hex.encode chunk)).enqueue chunk =
        withArrivals link session [⟨chunk, (link.queueOf session).length⟩] notes := by
  obtain ⟨notes, hnotes, henqueue⟩ := @exists_enqueue_eq
    (link.log .debug ("Received: " ++ Hex.encode chunk)) session hcurrent hroom chunk
  refine ⟨[.log ⟨.debug, .link, "Received: " ++ Hex.encode chunk⟩] ++ notes, ?_, ?_⟩
  · rw [List.forall_mem_append]
    exact ⟨List.forall_mem_singleton.mpr ⟨_, rfl, .inl rfl⟩, hnotes⟩
  · rw [henqueue, withArrivals, withArrivals, ← List.append_assoc]
    rfl

lemma length_sessions_withArrivals (arrivals : List Arrival) (notes : List Note) :
    (withArrivals link session arrivals notes).sessions.length = link.sessions.length :=
  List.length_modify ..

lemma HasRoom.withArrival (h : HasRoom session link) (hlt : session < link.sessions.length)
    (chunk : Octets) (notes : List Note) : HasRoom session
      (withArrivals link session [⟨chunk, (link.queueOf session).length⟩] notes) := by
  intro hbound
  have hle := h hbound
  rw [queueOf_withArrivals hlt]
  change _ ≤ link.capacity
  cases hlost : Arrival.isLost link.capacity ⟨chunk, (link.queueOf session).length⟩ with
  | true => simpa [accepted, hlost] using hle
  | false =>
    have hne : ((link.queueOf session).length : ℤ) ≠ link.capacity := by
      intro heq
      rw [Arrival.isLost, decide_eq_true ⟨hbound, heq⟩] at hlost
      cases hlost
    simp only [accepted, hlost, Bool.not_false, List.filter_cons_of_pos, List.filter_nil,
      List.map_cons, List.map_nil, List.length_append, List.length_singleton]
    omega

lemma length_accepted_le (capacity : ℤ) (arrivals : List Arrival) :
    (accepted capacity arrivals).length ≤ arrivals.length := by
  rw [accepted, List.length_map]
  exact List.length_filter_le ..

/-- No chunk is lost if there is room for all of them at once. -/
lemma not_isLost_of_fits (hcurrent : link.current = some session) (hroom : HasRoom session link)
    (hlt : session < link.sessions.length) {pieces : List Octets}
    (hfits : 0 < link.capacity →
      ((link.queueOf session).length + pieces.length : ℤ) ≤ link.capacity) :
    ∀ arrival ∈ arriving session pieces link, arrival.isLost link.capacity = false := by
  induction pieces generalizing link with
  | nil => exact List.forall_mem_nil _
  | cons piece rest ih =>
    obtain ⟨notes, -, hread⟩ := exists_readOne_eq hcurrent hroom piece
    rw [List.length_cons] at hfits
    refine List.forall_mem_cons.mpr ⟨decide_eq_false fun hlost => ?_, ?_⟩
    · have hle := hfits hlost.1
      have heq : ((link.queueOf session).length : ℤ) = link.capacity := hlost.2
      omega
    · rw [hread]
      refine ih hcurrent (hroom.withArrival hlt piece notes)
        ((length_sessions_withArrivals ..).symm ▸ hlt) fun hbound => ?_
      have hle := hfits hbound
      have hone := length_accepted_le link.capacity [⟨piece, (link.queueOf session).length⟩]
      rw [List.length_singleton] at hone
      rw [queueOf_withArrivals hlt, List.length_append]
      change _ ≤ link.capacity
      omega

/-- What the reader does with chunks: they arrive one after the other. -/
lemma exists_foldl_enqueue_eq (hcurrent : link.current = some session)
    (hroom : HasRoom session link) (hlt : session < link.sessions.length) (pieces : List Octets) :
    ∃ notes, (∀ seen ∈ notes, FromReader link.capacity (arriving session pieces link) seen) ∧
      pieces.foldl (fun link chunk =>
          (link.log .debug ("Received: " ++ Hex.encode chunk)).enqueue chunk) link =
        withArrivals link session (arriving session pieces link) notes ∧
      HasRoom session (withArrivals link session (arriving session pieces link) notes) := by
  induction pieces generalizing link with
  | nil =>
    have hput : putInQueue [] = id := by
      funext found
      exact congrArg (fun queue => { found with queue := queue }) (List.append_nil found.queue)
    have hsame : withArrivals link session [] [] = link := by
      change { link with
        trace := link.trace ++ [], sessions := link.sessions.modify session (putInQueue []) } = link
      rw [hput, List.modify_id, List.append_nil]
    exact ⟨[], List.forall_mem_nil _, hsame.symm, by rwa [arriving, hsame]⟩
  | cons piece rest ih =>
    obtain ⟨notes, hnotes, hread⟩ := exists_readOne_eq hcurrent hroom piece
    obtain ⟨later, hlater, hfold, hleft⟩ := @ih
      (withArrivals link session [⟨piece, (link.queueOf session).length⟩] notes) hcurrent
      (hroom.withArrival hlt piece _) ((length_sessions_withArrivals ..).symm ▸ hlt)
    rw [List.foldl_cons, arriving, hread, hfold]
    rw [withArrivals_append] at hleft ⊢
    refine ⟨_, List.forall_mem_append.mpr ⟨fun seen hmem => ?_, fun seen hmem => ?_⟩, rfl, hleft⟩
    · exact (hnotes seen hmem).mono (List.cons_subset_cons _ (List.nil_subset _))
    · exact (hlater seen hmem).mono (List.subset_cons_self ..)

/-- What the device sends arrives, and then workers are woken. -/
lemma exists_read_eq (hreader : link.hasReader) (hcurrent : link.current = some session)
    (hroom : HasRoom session link) (hlt : session < link.sessions.length) (octets : Octets) :
    ∃ notes, (∀ seen ∈ notes, FromReader link.capacity (arriving session (chunks octets) link) seen) ∧
      link.read octets =
        (withArrivals link session (arriving session (chunks octets) link) notes).rouse session ∧
      HasRoom session (withArrivals link session (arriving session (chunks octets) link) notes) := by
  obtain ⟨notes, hnotes, hfold, hleft⟩ :=
    exists_foldl_enqueue_eq hcurrent hroom hlt (chunks octets)
  refine ⟨notes, hnotes, ?_, hleft⟩
  have hsame : (withArrivals link session (arriving session (chunks octets) link) notes).current =
      some session := hcurrent
  rw [Link.read, if_pos hreader, hfold]
  dsimp only
  rw [hsame]

end PixelPanel.Proofs
