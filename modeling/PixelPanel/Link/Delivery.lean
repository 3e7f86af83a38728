import PixelPanel.Link.Basic

/-!
# Chunks on their way to listeners

The reader puts chunks into the queue of the session in use. A worker takes a chunk together with the
listeners of that moment, and hands it to them one after the other; a listener that fails is logged.
It goes on to the next chunk until it has to wait, for a chunk, for the gate or for a thread.
-/

namespace PixelPanel.Link

/-- The greatest number of octets read at once. -/
def chunkSize : Nat := 128

/-- Cuts received octets into chunks. -/
def chunks (octets : Octets) : List Octets :=
  if octets.isEmpty then []
  else octets.take chunkSize :: chunks (octets.drop chunkSize)
termination_by octets.length
decreasing_by
  rename_i h
  have : octets ≠ [] := by simpa using h
  have := List.length_pos_iff.2 this
  simp only [List.length_drop, chunkSize]
  omega

/-- Logs that a listener has failed. -/
def logFailure (link : Link) (listener : Listener) : Link :=
  link.log .error s!"Listener {listener.text} failed"

/-- A note of the inbox as a note of the link. -/
def ofInboxNote : Inbox.Note → Note
  | .log entry => .log entry
  | .told callback report => .told callback report

/-- Hands a chunk to the inbox. -/
def receive (link : Link) (chunk : Octets) : Link :=
  let (inbox, outcome) := link.inbox.receive chunk
  let link :=
    { link with inbox := inbox, trace := link.trace ++ outcome.notes.map ofInboxNote }
  if outcome.completed then link else link.logFailure .inbox

/-- An observer takes note of a chunk, and then it may fail. -/
def takeNote (link : Link) (serial : Nat) (name : String) (manner : Manner) (fails : Bool)
    (chunk : Octets) : Link :=
  let link := link.note (.heard name chunk)
  if fails then link.logFailure (.observer serial name manner fails) else link

/-- Hands a chunk to listeners until the worker has to wait. Tells whether it has reached the end. -/
def deliver (session : Nat) (chunk : Octets) : List Listener → Link → Link × Bool
  | [], link => (link, true)
  | .inbox :: rest, link => deliver session chunk rest (link.receive chunk)
  | .observer serial name .direct fails :: rest, link =>
    deliver session chunk rest (link.takeNote serial name .direct fails chunk)
  | .observer serial name .threaded fails :: rest, link =>
    let listener := Listener.observer serial name .threaded fails
    ((link.note (.heard name chunk)).wake [.returned listener ⟨session, chunk, rest⟩], false)
  | .observer serial name .gated fails :: rest, link =>
    if link.gateOpen then
      deliver session chunk rest (link.takeNote serial name .gated fails chunk)
    else
      let delivery : Delivery := ⟨session, chunk, .observer serial name .gated fails :: rest⟩
      ({ link with blocked := link.blocked ++ [delivery] }, false)

/-- Takes chunks from the queue until the worker has to wait. -/
def work (session : Nat) : List Octets → Link → Link
  | [], link => link.modifySession session fun found => { found with idle := found.idle + 1 }
  | chunk :: rest, link =>
    let link := link.modifySession session fun found => { found with queue := rest }
    match deliver session chunk link.listeners link with
    | (link, true) => work session rest link
    | (link, false) => link

/-- The chunks that wait in a session. -/
def queueOf (link : Link) (session : Nat) : List Octets :=
  ((link.sessions[session]?).map Session.queue).getD []

/-- A worker goes on with a chunk, and then with the queue. -/
def resumeDelivery (link : Link) (delivery : Delivery) : Link :=
  match deliver delivery.session delivery.chunk delivery.listeners link with
  | (link, true) => work delivery.session (link.queueOf delivery.session) link
  | (link, false) => link

/-- Puts a chunk into the queue in use. If there is no room, the chunk is dropped. -/
def enqueue (link : Link) (chunk : Octets) : Link :=
  match link.current with
  | none => link
  | some session =>
    if 0 < link.capacity ∧ link.capacity ≤ (link.queueOf session).length then
      let dropped := link.dropped + 1
      { link with dropped := dropped }.log .warning
        (s!"Listener queue full, dropped {chunk.length} byte chunk " ++
          s!"({dropped} dropped so far)")
    else
      link.modifySession session fun found => { found with queue := found.queue ++ [chunk] }

/-- Lets as many waiting workers of a session run as there are chunks for them. -/
def rouse (link : Link) (session : Nat) : Link :=
  match link.sessions[session]? with
  | none => link
  | some found =>
    let count := min found.idle found.queue.length
    let link := link.modifySession session fun found => { found with idle := found.idle - count }
    link.wake (List.replicate count (.worker session))

/-- Whether some reader runs. -/
def hasReader (link : Link) : Bool :=
  link.sessions.any Session.reading

/-- The reader reads all that the device has sent, and then the workers may run. -/
def read (link : Link) (octets : Octets) : Link :=
  if link.hasReader then
    let link := (chunks octets).foldl
      (fun link chunk => (link.log .debug ("Received: " ++ Hex.encode chunk)).enqueue chunk) link
    match link.current with
    | none => link
    | some session => link.rouse session
  else link

/-- The device has closed the link: every reader ends. -/
def readEnd (link : Link) : Link :=
  link.sessions.foldl (fun link session =>
    if session.reading then link.retire "closed by device" else link)
    { link with sessions := link.sessions.map fun session => { session with reading := false } }

/-- A read fails: the reader that has run longest ends. -/
def readError (link : Link) (error : SystemError) : Link :=
  match link.sessions.findIdx? Session.reading with
  | none => link
  | some session =>
    (link.modifySession session fun found => { found with reading := false }).retire
      ("read failed: " ++ error.message)

end PixelPanel.Link
