import PixelPanel.Panel
import PixelPanel.Proofs.InboxAnswers
import PixelPanel.Proofs.Link.Arrivals
import PixelPanel.Proofs.Link.Beginning
import PixelPanel.Proofs.Link.WriteLedger

/-!
# From the device to the callbacks

A panel that listens reads a row of envelopes in pieces. Every piece is cut into chunks, and all of
them find room in the queue; the worker takes them to the inbox one after the other and waits for the
next piece. So every payload of the row is answered, whatever the pieces are.
-/

namespace PixelPanel.Proofs
open Envelope Link

variable {session : ℕ} {link panel panel' : Link}

/-! ### The assembler and the inbox over many chunks -/

lemma feedAll_append (assembler : Assembler) (first second : List Octets) :
    assembler.feedAll (first ++ second) =
      ((assembler.feedAll first).1 ++ ((assembler.feedAll first).2.feedAll second).1,
        ((assembler.feedAll first).2.feedAll second).2) := by
  induction first generalizing assembler with
  | nil => rfl
  | cons chunk rest ih =>
    rw [List.cons_append, feedAll_cons, feedAll_cons, ih]
    rfl

/-- The link when chunks have gone through the inbox and `notes` were taken. -/
def withChunks (link : Link) (chunks : List Octets) (notes : List Note) : Link :=
  { link with
    inbox := { link.inbox with assembler := (link.inbox.assembler.feedAll chunks).2 }
    trace := link.trace ++ notes }

/-- The notes answer the envelopes that chunks complete. -/
def Answers (inbox : Inbox) (chunks : List Octets) (notes : List Note) : Prop :=
  notes.filter Note.isAnswer =
    (inbox.assembler.feedAll chunks).1.flatten.flatMap (Inbox.answer inbox.callbacks)

lemma Answers.append {inbox : Inbox} {first second : List Octets} {notes more : List Note}
    (hfirst : Answers inbox first notes)
    (hsecond : Answers { inbox with assembler := (inbox.assembler.feedAll first).2 } second more) :
    Answers inbox (first ++ second) (notes ++ more) := by
  rw [Answers, List.filter_append, hfirst, hsecond, feedAll_append, List.flatten_append,
    List.flatMap_append]

lemma withChunks_append (first second : List Octets) (notes more : List Note) :
    withChunks (withChunks link first notes) second more =
      withChunks link (first ++ second) (notes ++ more) := by
  simp only [withChunks, feedAll_append, List.append_assoc]

/-- The inbox takes a chunk. -/
lemma exists_receive_eq (h : ∀ callback ∈ link.inbox.callbacks, callback.fails = false)
    (chunk : Octets) :
    ∃ notes, Answers link.inbox [chunk] notes ∧
      link.receive chunk = withChunks link [chunk] notes := by
  obtain ⟨hinbox, hcompleted, hanswers⟩ := receive_of_sound h chunk
  refine ⟨(link.inbox.receive chunk).2.notes.map ofInboxNote, ?_, ?_⟩
  · rw [Answers, feedAll_cons]
    change answers _ = (_ ++ []).flatMap _
    rw [hanswers, List.append_nil]
  · rw [Link.receive]
    dsimp only
    rw [if_pos hcompleted, hinbox]
    rfl

lemma modify_eq_set {found : Session} {sessions : List Session}
    (hfound : sessions[session]? = some found) (change : Session → Session) :
    sessions.modify session change = sessions.set session (change found) := by
  rw [List.modify_eq_set_getElem?, hfound]
  rfl

lemma exists_work_eq {found : Session} {queue : List Octets}
    (hlisteners : link.listeners = [.inbox])
    (hcallbacks : ∀ callback ∈ link.inbox.callbacks, callback.fails = false)
    (hfound : link.sessions[session]? = some found) (hqueue : found.queue = queue) :
    ∃ notes, Answers link.inbox queue notes ∧
      work session queue link = { withChunks link queue notes with
        sessions := link.sessions.set session { found with queue := [], idle := found.idle + 1 } } := by
  induction queue generalizing link found with
  | nil =>
    obtain ⟨isOpen, reading, idle, queue⟩ := found
    obtain rfl : queue = [] := hqueue
    refine ⟨[], rfl, ?_⟩
    rw [work, modifySession, modify_eq_set hfound, withChunks, List.append_nil]
    rfl
  | cons chunk rest ih =>
    -- the chunk is no longer in the queue when it reaches the inbox
    obtain ⟨notes, hnotes, hreceive⟩ := @exists_receive_eq
      (link.modifySession session fun found => { found with queue := rest }) hcallbacks chunk
    obtain ⟨hlt, -⟩ := List.getElem?_eq_some_iff.mp hfound
    have hset : (link.sessions.modify session fun found => { found with queue := rest }) =
        link.sessions.set session { found with queue := rest } := modify_eq_set hfound _
    obtain ⟨more, hmore, hwork⟩ := @ih (withChunks
        (link.modifySession session fun found => { found with queue := rest }) [chunk] notes)
      { found with queue := rest } hlisteners hcallbacks
      (by rw [withChunks, modifySession, hset]; exact List.getElem?_set_self hlt) rfl
    have hdeliver : deliver session chunk link.listeners
        (link.modifySession session fun found => { found with queue := rest }) =
        (withChunks (link.modifySession session fun found => { found with queue := rest }) [chunk]
          notes, true) := by
      rw [hlisteners, deliver, deliver, hreceive]
    refine ⟨notes ++ more, hnotes.append hmore, ?_⟩
    rw [work_cons, hdeliver]
    dsimp only
    rw [if_pos rfl, hwork, withChunks_append]
    have hsame : (link.sessions.modify session fun found => { found with queue := rest }).set session
        { found with queue := [], idle := found.idle + 1 } =
        link.sessions.set session { found with queue := [], idle := found.idle + 1 } := by
      rw [hset, List.set_set]
    exact congrArg (fun sessions => { withChunks link (chunk :: rest) (notes ++ more) with
      sessions := sessions }) hsame

/-! ### A panel that listens -/

/-- A panel with no listener but the inbox, whose callbacks do not fail, has read and handled all that
has come in its session so far, and its worker waits for more. -/
structure Listening (session : ℕ) (panel : Link) : Prop where
  current : panel.current = some session
  found : ∃ isOpen, panel.sessions[session]? = some ⟨isOpen, true, 1, []⟩
  listeners : panel.listeners = [.inbox]
  callbacks : ∀ callback ∈ panel.inbox.callbacks, callback.fails = false
  wakes : panel.wakes = []

/-- What has become of a panel that listens when chunks have come: all of them went through the inbox,
and the panel listens again. -/
structure Heard (session : ℕ) (chunks : List Octets) (panel panel' : Link) : Prop where
  listening : Listening session panel'
  capacity : panel'.capacity = panel.capacity
  dropped : panel'.dropped = panel.dropped
  inbox : panel'.inbox =
    { panel.inbox with assembler := (panel.inbox.assembler.feedAll chunks).2 }
  trace : ∃ notes, panel'.trace = panel.trace ++ notes ∧ Answers panel.inbox chunks notes

lemma Heard.trans {panel'' : Link} {first second : List Octets}
    (hfirst : Heard session first panel panel') (hsecond : Heard session second panel' panel'') :
    Heard session (first ++ second) panel panel'' where
  listening := hsecond.listening
  capacity := hsecond.capacity.trans hfirst.capacity
  dropped := hsecond.dropped.trans hfirst.dropped
  inbox := by rw [hsecond.inbox, hfirst.inbox, feedAll_append]
  trace := by
    obtain ⟨notes, htrace, hnotes⟩ := hfirst.trace
    obtain ⟨more, htrace', hmore⟩ := hsecond.trace
    refine ⟨notes ++ more, by rw [htrace', htrace, List.append_assoc], hnotes.append ?_⟩
    rwa [hfirst.inbox] at hmore

/-- Where one turn is all that happens, the link settles with it. -/
lemma settle_of_turn {wake : Wake} (hwakes : link.wakes = [wake])
    (hnext : ({ link with wakes := [] }.resume wake).wakes = []) :
    link.settle = { link with wakes := [] }.resume wake := by
  have hpos : 0 < link.load := Nat.zero_lt_of_lt (load_turn_lt hwakes)
  rw [settle, ← Nat.succ_pred_eq_of_pos hpos, drain_of_wakes hwakes, drain_of_nil hnext]

/-- When a worker is all that can run, it takes all chunks to the inbox. -/
lemma exists_settle_eq {found : Session} (hlisteners : link.listeners = [.inbox])
    (hcallbacks : ∀ callback ∈ link.inbox.callbacks, callback.fails = false)
    (hwakes : link.wakes = [.worker session]) (hfound : link.sessions[session]? = some found) :
    ∃ notes, Answers link.inbox found.queue notes ∧
      link.settle = { withChunks link found.queue notes with
        wakes := []
        sessions := link.sessions.set session { found with queue := [], idle := found.idle + 1 } } := by
  obtain ⟨notes, hnotes, hwork⟩ := @exists_work_eq session { link with wakes := [] } _ _ hlisteners
    hcallbacks hfound rfl
  have hqueue : queueOf { link with wakes := [] } session = found.queue := by
    rw [queueOf, hfound]
    rfl
  have hturn : resume { link with wakes := [] } (.worker session) =
      { withChunks { link with wakes := [] } found.queue notes with
        sessions := link.sessions.set session
          { found with queue := [], idle := found.idle + 1 } } := by
    rw [resume, hqueue, hwork]
  refine ⟨notes, hnotes, ?_⟩
  rw [settle_of_turn hwakes (by rw [hturn]; rfl), hturn]
  rfl

lemma rouse_eq {found : Session} (hfound : link.sessions[session]? = some found)
    (hidle : found.idle = 1) :
    link.rouse session = { link with
      sessions := link.sessions.set session
        { found with idle := 1 - min 1 found.queue.length }
      wakes := link.wakes ++ List.replicate (min 1 found.queue.length) (.worker session) } := by
  rw [rouse, hfound]
  dsimp only
  rw [hidle, modifySession, modify_eq_set hfound, hidle]
  rfl

/-- What the device sends reaches the queue as a whole if it fits. -/
lemma Listening.exists_read_eq (h : Listening session panel) {octets : Octets}
    (hfits : 0 < panel.capacity → (octets.length : ℤ) ≤ chunkSize * panel.capacity) :
    ∃ isOpen notes, notes.filter Note.isAnswer = [] ∧ panel.read octets = { panel with
      trace := panel.trace ++ notes
      sessions := panel.sessions.set session
        ⟨isOpen, true, 1 - min 1 (chunks octets).length, chunks octets⟩
      wakes := List.replicate (min 1 (chunks octets).length) (.worker session) } := by
  obtain ⟨isOpen, hfound⟩ := h.found
  obtain ⟨hlt, -⟩ := List.getElem?_eq_some_iff.mp hfound
  have hqueue : panel.queueOf session = [] := by
    rw [queueOf, hfound]
    rfl
  have hroom : HasRoom session panel := by
    intro hpos
    rw [hqueue]
    exact hpos.le
  have hreader : panel.hasReader :=
    List.any_eq_true.mpr ⟨_, List.mem_of_getElem? hfound, rfl⟩
  -- there is room for all chunks at once
  have hkept : ∀ arrival ∈ arriving session (chunks octets) panel,
      arrival.isLost panel.capacity = false := by
    refine not_isLost_of_fits h.current hroom hlt fun hpos => ?_
    have hle := @length_chunks_le octets panel.capacity.toNat (by
      have hbound := hfits hpos
      rw [chunkSize] at hbound ⊢
      omega)
    rw [hqueue, List.length_nil]
    omega
  obtain ⟨notes, hnotes, hread, -⟩ := Proofs.exists_read_eq hreader h.current hroom hlt octets
  have hquiet : notes.filter Note.isAnswer = [] := by
    refine List.filter_eq_nil_iff.mpr fun seen hmem => ?_
    obtain ⟨entry, rfl, hdebug | ⟨arrival, harrival, hlost⟩⟩ := hnotes seen hmem
    · rw [Note.isAnswer, hdebug]
      exact Bool.false_ne_true
    · cases (hkept arrival harrival).symm.trans hlost
  have haccepted : accepted panel.capacity (arriving session (chunks octets) panel) =
      chunks octets := by
    rw [accepted, List.filter_eq_self.mpr fun arrival hmem => by rw [hkept arrival hmem]; rfl,
      map_chunk_arriving]
  have hnone : (arriving session (chunks octets) panel).countP (Arrival.isLost panel.capacity) = 0 :=
    List.countP_eq_zero.mpr fun arrival hmem => by rw [hkept arrival hmem]; exact Bool.false_ne_true
  have hput : withArrivals panel session (arriving session (chunks octets) panel) notes =
      { panel with
        trace := panel.trace ++ notes
        sessions := panel.sessions.set session ⟨isOpen, true, 1, chunks octets⟩ } := by
    rw [withArrivals, hnone, haccepted, modify_eq_set hfound]
    rfl
  refine ⟨isOpen, notes, hquiet, ?_⟩
  rw [hread, hput, rouse_eq (List.getElem?_set_self hlt) rfl, h.wakes]
  dsimp only
  rw [List.set_set, List.nil_append]

/-- A panel that listens takes in whatever fits into its queue. -/
lemma Listening.deviceSends (h : Listening session panel) (octets : Octets)
    (hfits : 0 < panel.capacity → (octets.length : ℤ) ≤ chunkSize * panel.capacity) :
    Heard session (chunks octets) panel (panel.step (.deviceSends octets)) := by
  suffices hsettled : Heard session (chunks octets) panel (panel.read octets).settle from
    { hsettled with listening := { hsettled.listening with } }
  obtain ⟨isOpen, notes, hquiet, hread⟩ := h.exists_read_eq hfits
  obtain ⟨_, hfound⟩ := h.found
  obtain ⟨hlt, -⟩ := List.getElem?_eq_some_iff.mp hfound
  rw [hread]
  cases hchunks : chunks octets with
  | nil =>
    rw [settle, drain_of_nil rfl]
    refine ⟨{ h with found := ⟨isOpen, List.getElem?_set_self hlt⟩, wakes := rfl }, rfl, rfl, rfl,
      notes, rfl, hquiet⟩
  | cons chunk rest =>
    -- the worker takes all chunks in one turn
    obtain ⟨more, hmore, hsettle⟩ := @exists_settle_eq session { panel with
        trace := panel.trace ++ notes
        sessions := panel.sessions.set session ⟨isOpen, true, 0, chunk :: rest⟩
        wakes := [.worker session] } _ h.listeners h.callbacks rfl (List.getElem?_set_self hlt)
    have hone : min 1 (chunk :: rest).length = 1 := by
      rw [List.length_cons]
      omega
    rw [hone]
    change Heard session (chunk :: rest) panel (settle { panel with
        trace := panel.trace ++ notes
        sessions := panel.sessions.set session ⟨isOpen, true, 0, chunk :: rest⟩
        wakes := [.worker session] })
    rw [hsettle]
    refine ⟨⟨h.current, ⟨isOpen, ?_⟩, h.listeners, h.callbacks, rfl⟩, rfl, rfl, rfl, notes ++ more,
      List.append_assoc .., ?_⟩
    · exact List.getElem?_set_self (by rwa [List.length_set])
    · have hnone : Answers panel.inbox [] notes := hquiet
      exact hnone.append hmore

lemma listening_attach {socket : ℕ} {found : Session}
    (hfound : link.sessions[socket]? = some found) (hworkers : link.workers = 1)
    (hlisteners : link.listeners = [.inbox])
    (hcallbacks : ∀ callback ∈ link.inbox.callbacks, callback.fails = false)
    (hwakes : link.wakes = []) (id : ℕ) : Listening socket (link.attach id socket [] .plain) := by
  refine ⟨rfl, ⟨found.isOpen, ?_⟩, hlisteners, hcallbacks, hwakes⟩
  change (link.sessions.modify socket fun found =>
    { found with reading := true, idle := link.workers, queue := [] })[socket]? = _
  rw [List.getElem?_modify_eq, hfound, hworkers]
  rfl

/-- A connection that the device accepts makes a panel listen. -/
lemma exists_listening_step (hphase : link.phase = .disconnected ∨ link.phase = .closed)
    (haddress : (Address.ofText? link.address.toList).isSome) (hworkers : link.workers = 1)
    (hlisteners : link.listeners = [.inbox])
    (hcallbacks : ∀ callback ∈ link.inbox.callbacks, callback.fails = false)
    (hwakes : link.wakes = []) :
    ∃ session, Listening session (link.step (.connect .accepted)) ∧
      (link.step (.connect .accepted)).inbox = link.inbox ∧
      (link.step (.connect .accepted)).dropped = 0 := by
  obtain ⟨-, hworkers', hlisteners', hinbox⟩ := cleaned_eq link
  obtain ⟨start, found, socket, hconnect, hfound, hstart, hheard, hsame, hquiet⟩ :
      ∃ (start : Link) (found : Session) (socket : ℕ),
        link.connect link.clock [] .plain .accepted = start.attach link.clock socket [] .plain ∧
        start.sessions[socket]? = some found ∧ start.workers = 1 ∧ start.listeners = [.inbox] ∧
        start.inbox = link.inbox ∧ start.wakes = [] := by
    obtain ⟨notes, hconnect⟩ := exists_connect_eq hphase haddress link.clock [] .plain
    exact ⟨link.dialling notes, _, _, hconnect, List.getElem?_concat_length,
      hworkers'.trans hworkers, hlisteners'.trans hlisteners, hinbox, wakes_cleaned hwakes⟩
  have hlistening := listening_attach hfound hstart hheard (hsame ▸ hcallbacks) hquiet link.clock
  have hstep : link.step (.connect .accepted) =
      { start.attach link.clock socket [] .plain with clock := link.clock + 1 } := by
    rw [Link.step, act, hconnect, settle, drain_of_nil hlistening.wakes]
  rw [hstep]
  exact ⟨socket, { hlistening with }, hsame, rfl⟩

/-- A panel that has just been connected listens, with nothing left of an envelope. -/
lemma exists_listening_connect (hphase : panel.phase = .disconnected ∨ panel.phase = .closed)
    (haddress : (Address.ofText? panel.address.toList).isSome) (hworkers : panel.workers = 1)
    (hlisteners : panel.listeners = [.inbox])
    (hcallbacks : ∀ callback ∈ panel.inbox.callbacks, callback.fails = false)
    (hwakes : panel.wakes = []) :
    ∃ session, Listening session (Panel.step panel (.link (.connect .accepted))) ∧
      (Panel.step panel (.link (.connect .accepted))).inbox = panel.inbox.reset ∧
      (Panel.step panel (.link (.connect .accepted))).dropped = 0 :=
  @exists_listening_step (Panel.resetInbox panel) hphase haddress hworkers hlisteners
    hcallbacks hwakes

lemma Listening.run (h : Listening session panel) (pieces : List Octets)
    (hfits : 0 < panel.capacity → ∀ octets ∈ pieces,
      (octets.length : ℤ) ≤ chunkSize * panel.capacity) :
    Heard session (pieces.flatMap chunks) panel
      (Panel.run panel (pieces.map fun octets => .link (.deviceSends octets))) := by
  induction pieces generalizing panel with
  | nil =>
    exact ⟨h, rfl, rfl, rfl, [], (List.append_nil _).symm, rfl⟩
  | cons piece rest ih =>
    have hpiece := h.deviceSends piece fun hpos => hfits hpos piece List.mem_cons_self
    refine hpiece.trans (ih hpiece.listening fun hpos octets hmem => ?_)
    rw [hpiece.capacity] at hpos ⊢
    exact hfits hpos octets (List.mem_cons_of_mem _ hmem)

lemma flatten_flatMap_chunks (pieces : List Octets) :
    (pieces.flatMap chunks).flatten = pieces.flatten := by
  induction pieces with
  | nil => rfl
  | cons piece rest ih =>
    rw [List.flatMap_cons, List.flatten_append, flatten_chunks, ih, List.flatten_cons]

/-- A panel that listens and has nothing left of an envelope is sent a row of envelopes, none of which
hides another one, in pieces that fit into its queue. Then every payload of the row is answered, in
order: its report is told to every callback, or there is one warning if it has no report. There is no
other warning, no chunk is dropped, and nothing is left of an envelope. -/
theorem reports_delivered (h : Listening session panel) (hempty : panel.inbox.assembler = {})
    (payloads : List Octets)
    (hclean : ∀ payload ∈ payloads, payload.length ≤ 510 ∧ ¬Hides (wrap payload))
    (pieces : List Octets) (hcut : pieces.flatten = row payloads)
    (hfits : 0 < panel.capacity → ∀ octets ∈ pieces,
      (octets.length : ℤ) ≤ chunkSize * panel.capacity) :
    let result := Panel.run panel (pieces.map fun octets => .link (.deviceSends octets))
    (seenSince panel result).filter Note.isAnswer =
        payloads.flatMap (Inbox.answerTo panel.inbox.callbacks) ∧
      result.dropped = panel.dropped ∧ result.inbox.assembler = {} ∧ Listening session result := by
  intro result
  have hheard : Heard session (pieces.flatMap chunks) panel result := h.run pieces hfits
  have hpending : Pending [] payloads := by
    cases payloads with
    | nil => rfl
    | cons payload payloads => exact Nat.lt_of_lt_of_eq (Nat.succ_pos _) (length_wrap payload).symm
  have hrow : [] ++ (pieces.flatMap chunks).flatten = row payloads := by
    rw [flatten_flatMap_chunks, hcut, List.nil_append]
  obtain ⟨henvelopes, hbuffer⟩ := feedAll_of_clean hclean hrow hpending
  have hassembler : panel.inbox.assembler = ⟨[]⟩ := hempty
  obtain ⟨notes, htrace, hnotes⟩ := hheard.trace
  refine ⟨?_, hheard.dropped, ?_, hheard.listening⟩
  · rw [Answers, hassembler, henvelopes, List.flatMap_map] at hnotes
    rw [seenSince_eq htrace, hnotes]
    refine List.flatMap_congr fun payload hmem => ?_
    exact answer_wrap _ ((hclean payload hmem).1.trans (by decide))
  · rw [hheard.inbox, hassembler]
    exact congrArg Assembler.mk hbuffer

/-! ### Two payloads in two pieces -/

/-- An envelope with only one start mark hides no other one. -/
lemma not_hides_of_forall_ne {octets : Octets} (h : ∀ octet ∈ octets.tail, octet ≠ startMark) :
    ¬Hides octets := by
  rintro ⟨initial, offset, hinitial, -, hoffset, envelope, ⟨payload, -, rfl⟩, hbegins⟩
  have hmem : startMark ∈ initial.drop offset := hbegins.subset List.mem_cons_self
  have hdrop : startMark ∈ octets.drop offset := (hinitial.sublist.drop offset).subset hmem
  obtain ⟨more, rfl⟩ := Nat.exists_eq_add_of_le hoffset
  rw [← List.drop_drop, List.drop_one] at hdrop
  exact h startMark (List.mem_of_mem_drop hdrop) rfl

/-- A panel with room for one chunk and two callbacks, just connected. -/
def listeningPanel : Link :=
  Panel.step { sampleLink with
    capacity := 1
    listeners := [.inbox]
    inbox := { callbacks := [{ name := "first" }, { name := "second" }] } } (.link (.connect .accepted))

lemma listening_listeningPanel : Listening 0 listeningPanel :=
  ⟨by decide +kernel, ⟨true, by decide +kernel⟩, by decide +kernel, by decide +kernel,
    by decide +kernel⟩

/-- A report of the volume, and a payload that reports nothing. -/
def twoPayloads : List Octets := [[0x04, 0x09, 0x55, 0x07], [0x20]]

/-- The envelopes of both, cut in the middle of the first one. -/
def twoPieces : List Octets := [(row twoPayloads).take 5, (row twoPayloads).drop 5]

theorem reports_delivered_twoPieces :
    Listening 0 listeningPanel ∧ listeningPanel.inbox.assembler = {} ∧
      (∀ payload ∈ twoPayloads, payload.length ≤ 510 ∧ ¬Hides (wrap payload)) ∧
      twoPieces.flatten = row twoPayloads ∧
      (0 < listeningPanel.capacity → ∀ octets ∈ twoPieces,
        (octets.length : ℤ) ≤ chunkSize * listeningPanel.capacity) ∧
      let result :=
        Panel.run listeningPanel (twoPieces.map fun octets => .link (.deviceSends octets))
      (seenSince listeningPanel result).filter Note.isAnswer =
          [.told "first" ⟨0x09, [0x07], none, none, some 7, "Volume was set to 7/16"⟩,
            .told "second" ⟨0x09, [0x07], none, none, some 7, "Volume was set to 7/16"⟩,
            .log ⟨.warning, .panel, "Could not parse message 01030020230002: received a message " ++
              "format I don't understand: 20"⟩] ∧
        result.dropped = 0 ∧ result.inbox.assembler = {} := by
  have hempty : listeningPanel.inbox.assembler = {} := by decide +kernel
  have hclean : ∀ payload ∈ twoPayloads, payload.length ≤ 510 ∧ ¬Hides (wrap payload) := by
    have hmarks : ∀ payload ∈ twoPayloads, payload.length ≤ 510 ∧
        ∀ octet ∈ (wrap payload).tail, octet ≠ startMark := by
      decide +kernel
    exact fun payload hmem => (hmarks payload hmem).imp_right not_hides_of_forall_ne
  have hcut : twoPieces.flatten = row twoPayloads := by decide +kernel
  have hfits : 0 < listeningPanel.capacity → ∀ octets ∈ twoPieces,
      (octets.length : ℤ) ≤ chunkSize * listeningPanel.capacity := by
    decide +kernel
  obtain ⟨hanswers, hdropped, hassembler, -⟩ := reports_delivered listening_listeningPanel hempty
    twoPayloads hclean twoPieces hcut hfits
  refine ⟨listening_listeningPanel, hempty, hclean, hcut, hfits, hanswers.trans ?_,
    hdropped.trans ?_, hassembler⟩
  · decide +kernel
  · decide +kernel

end PixelPanel.Proofs
