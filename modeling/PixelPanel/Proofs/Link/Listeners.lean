import Mathlib.Tactic.Lemma
import Mathlib.Data.Nat.Notation
import PixelPanel.Link.Step
import PixelPanel.Proofs.CaptureModes

/-!
# What the work for listeners touches

A worker that hands chunks on touches the inbox, the trace and its own session. In the end it is
parked in one of three places: it waits for a chunk, for a thread or for the gate. Phase, calls and
sockets stay as they are.
-/

namespace PixelPanel.Proofs
open Link

/-- What listeners leave in the trace. Every report that is told has been decoded. -/
def FromListeners : Note → Prop
  | .heard .. | .log _ => True
  | .told _ report => report.IsDecoded
  | _ => False

/-! ### What the inbox tells -/

/-- What the inbox tells has been decoded. -/
def OnlyDecoded (notes : List Inbox.Note) : Prop :=
  ∀ callback report, .told callback report ∈ notes → report.IsDecoded

lemma onlyDecoded_log (entry : LogEntry) : OnlyDecoded [.log entry] := by
  intro callback report hmem
  cases List.mem_singleton.mp hmem

lemma OnlyDecoded.andThen {first second : Inbox.Outcome} (h : OnlyDecoded first.notes)
    (hsecond : OnlyDecoded second.notes) : OnlyDecoded (first.andThen second).notes := by
  unfold Inbox.Outcome.andThen
  split
  · exact fun callback report hmem =>
      (List.mem_append.mp hmem).elim (h callback report) (hsecond callback report)
  · exact h

lemma onlyDecoded_tell {report : Report} (h : report.IsDecoded) (callbacks : List Callback) :
    OnlyDecoded (Inbox.tell report callbacks).notes := by
  induction callbacks with
  | nil => exact fun _ _ hmem => (nomatch hmem)
  | cons callback rest ih =>
    have hone : OnlyDecoded [.told callback.name report] := by
      intro name told hmem
      obtain ⟨-, rfl⟩ := Inbox.Note.told.inj (List.mem_singleton.mp hmem)
      exact h
    rw [Inbox.tell]
    exact OnlyDecoded.andThen hone ih

lemma onlyDecoded_handleReports (callbacks : List Callback) {reports : List Report}
    (h : ∀ report ∈ reports, report.IsDecoded) :
    OnlyDecoded (Inbox.handleReports callbacks reports).notes := by
  induction reports with
  | nil => exact fun _ _ hmem => (nomatch hmem)
  | cons report rest ih =>
    obtain ⟨hreport, hrest⟩ := List.forall_mem_cons.mp h
    rw [Inbox.handleReports]
    exact OnlyDecoded.andThen (onlyDecoded_log _) ((onlyDecoded_tell hreport callbacks).andThen (ih hrest))

lemma onlyDecoded_handleEnvelopes (callbacks : List Callback) (envelopes : List Octets) :
    OnlyDecoded (Inbox.handleEnvelopes callbacks envelopes).notes := by
  induction envelopes with
  | nil => exact fun _ _ hmem => (nomatch hmem)
  | cons envelope rest ih =>
    rw [Inbox.handleEnvelopes]
    split
    · exact OnlyDecoded.andThen (onlyDecoded_log _) ih
    · rename_i reports hread
      exact (onlyDecoded_handleReports callbacks (isDecoded_of_readAll hread)).andThen ih

lemma onlyDecoded_receive (inbox : Inbox) (chunk : Octets) :
    OnlyDecoded (inbox.receive chunk).2.notes := by
  have hdiscards : OnlyDecoded ((inbox.assembler.feed chunk).discards.map fun discard =>
      .log ⟨.debug, .envelope, discard.message⟩) := by
    intro callback report hmem
    obtain ⟨discard, -, hdiscard⟩ := List.mem_map.mp hmem
    cases hdiscard
  exact @OnlyDecoded.andThen ⟨_, true⟩ _ hdiscards
    (onlyDecoded_handleEnvelopes inbox.callbacks (inbox.assembler.feed chunk).envelopes)

/-! ### Handing a chunk on -/

/-- How handing a chunk to `count` listeners can end: behind the last of them, at a thread or at the
gate. -/
inductive Handed (session : ℕ) (chunk : Octets) (count : ℕ) (link : Link) : Link × Bool → Prop
  | through (inbox : Inbox) (notes : List Note) (hnotes : ∀ seen ∈ notes, FromListeners seen) :
    Handed session chunk count link
      ({ link with inbox := inbox, trace := link.trace ++ notes }, true)
  | thread (inbox : Inbox) (notes : List Note) (hnotes : ∀ seen ∈ notes, FromListeners seen)
    (listener : Listener) (rest : List Listener) (hrest : rest.length < count) :
    Handed session chunk count link
      ({ link with
        inbox := inbox
        trace := link.trace ++ notes
        wakes := link.wakes ++ [.returned listener ⟨session, chunk, rest⟩] }, false)
  | gate (inbox : Inbox) (notes : List Note) (hnotes : ∀ seen ∈ notes, FromListeners seen)
    (rest : List Listener) :
    Handed session chunk count link
      ({ link with
        inbox := inbox
        trace := link.trace ++ notes
        blocked := link.blocked ++ [⟨session, chunk, rest⟩] }, false)

/-- The notes of a listener that was done at once stand in front of those of the others. -/
lemma Handed.behind {session count more : ℕ} {chunk : Octets} {link : Link}
    {result : Link × Bool} {inbox : Inbox} {notes : List Note} (hle : count ≤ more)
    (hnotes : ∀ seen ∈ notes, FromListeners seen)
    (h : Handed session chunk count
      { link with inbox := inbox, trace := link.trace ++ notes } result) :
    Handed session chunk more link result := by
  cases h with
  | through inbox later hlater =>
    rw [List.append_assoc]
    exact .through inbox _ (List.forall_mem_append.mpr ⟨hnotes, hlater⟩)
  | thread inbox later hlater listener rest hrest =>
    rw [List.append_assoc]
    exact .thread inbox _ (List.forall_mem_append.mpr ⟨hnotes, hlater⟩) listener rest (by omega)
  | gate inbox later hlater rest =>
    rw [List.append_assoc]
    exact .gate inbox _ (List.forall_mem_append.mpr ⟨hnotes, hlater⟩) rest

lemma exists_receive (link : Link) (chunk : Octets) : ∃ inbox notes,
    (∀ seen ∈ notes, FromListeners seen) ∧
      link.receive chunk = { link with inbox := inbox, trace := link.trace ++ notes } := by
  have hnotes : ∀ seen ∈ (link.inbox.receive chunk).2.notes.map ofInboxNote,
      FromListeners seen := by
    intro seen hmem
    obtain ⟨inner, hinner, rfl⟩ := List.mem_map.mp hmem
    cases inner with
    | log entry => trivial
    | told callback report => exact onlyDecoded_receive link.inbox chunk callback report hinner
  unfold receive
  dsimp only
  split
  · exact ⟨_, _, hnotes, rfl⟩
  · refine ⟨_, _ ++ [_], ?_, by simp only [logFailure, log, note, List.append_assoc]; rfl⟩
    rw [List.forall_mem_append]
    exact ⟨hnotes, by simp [FromListeners]⟩

lemma exists_takeNote (link : Link) (serial : ℕ) (name : String) (manner : Manner) (fails : Bool)
    (chunk : Octets) : ∃ notes, (∀ seen ∈ notes, FromListeners seen) ∧
      link.takeNote serial name manner fails chunk = { link with trace := link.trace ++ notes } := by
  cases fails with
  | true =>
    refine ⟨[.heard name chunk, .log ⟨.error, .link,
      s!"Listener {(Listener.observer serial name manner true).text} failed"⟩],
      by simp [FromListeners], ?_⟩
    simp only [takeNote, if_true, logFailure, log, note, List.append_assoc]
    rfl
  | false => exact ⟨[.heard name chunk], by simp [FromListeners], rfl⟩

lemma deliver_handed (session : ℕ) (chunk : Octets) (listeners : List Listener) (link : Link) :
    Handed session chunk listeners.length link (deliver session chunk listeners link) := by
  induction listeners generalizing link with
  | nil =>
    have h : Handed session chunk 0 link ({ link with trace := link.trace ++ [] }, true) :=
      .through link.inbox [] (by simp)
    rwa [List.append_nil] at h
  | cons listener rest ih =>
    rw [List.length_cons]
    rcases listener with _ | ⟨serial, name, manner, fails⟩
    · obtain ⟨inbox, notes, hnotes, hreceive⟩ := exists_receive link chunk
      rw [deliver, hreceive]
      exact (ih _).behind (Nat.le_succ _) hnotes
    · cases manner with
      | direct =>
        obtain ⟨notes, hnotes, hnoted⟩ := exists_takeNote link serial name .direct fails chunk
        rw [deliver, hnoted]
        exact (ih _).behind (Nat.le_succ _) hnotes
      | threaded =>
        exact .thread link.inbox [.heard name chunk] (by simp [FromListeners]) _ rest
          (Nat.lt_succ_self _)
      | gated =>
        rw [deliver]
        split
        · obtain ⟨notes, hnotes, hnoted⟩ := exists_takeNote link serial name .gated fails chunk
          rw [hnoted]
          exact (ih _).behind (Nat.le_succ _) hnotes
        · have h : Handed session chunk (rest.length + 1) link ({ link with
              trace := link.trace ++ []
              blocked := link.blocked ++
                [⟨session, chunk, .observer serial name .gated fails :: rest⟩] }, false) :=
            .gate link.inbox [] (by simp) _
          rwa [List.append_nil] at h

/-! ### Where a worker is parked -/

/-- Where a worker of a session waits: the number of idle workers, the wakes and the blocked
deliveries that it adds. -/
inductive Parked (session : ℕ) : ℕ → List Wake → List Delivery → Prop
  | idle : Parked session 1 [] []
  | thread (listener : Listener) (going : Delivery) (h : going.session = session) :
    Parked session 0 [.returned listener going] []
  | gate (going : Delivery) (h : going.session = session) : Parked session 0 [] [going]

/-- A change of a session that adds idle workers and leaves its socket and its reader alone. -/
structure AddsIdle (count : ℕ) (change : Session → Session) : Prop where
  isOpen : ∀ found, (change found).isOpen = found.isOpen
  reading : ∀ found, (change found).reading = found.reading
  idle : ∀ found, (change found).idle = found.idle + count

lemma AddsIdle.behind {count : ℕ} {change other : Session → Session} (h : AddsIdle count change)
    (hother : AddsIdle 0 other) : AddsIdle count (change ∘ other) where
  isOpen found := (h.isOpen _).trans (hother.isOpen found)
  reading found := (h.reading _).trans (hother.reading found)
  idle found := by rw [Function.comp_apply, h.idle, hother.idle, Nat.add_zero]

/-- A worker has gone as far as it could. -/
def Works (session : ℕ) (link link' : Link) : Prop :=
  ∃ (inbox : Inbox) (notes : List Note) (idle : ℕ) (wakes : List Wake) (blocked : List Delivery)
    (change : Session → Session), (∀ seen ∈ notes, FromListeners seen) ∧
    Parked session idle wakes blocked ∧ AddsIdle idle change ∧
    link' = { link with
      inbox := inbox
      trace := link.trace ++ notes
      wakes := link.wakes ++ wakes
      blocked := link.blocked ++ blocked
      sessions := link.sessions.modify session change }

lemma addsIdle_id : AddsIdle 0 id := ⟨fun _ => rfl, fun _ => rfl, fun _ => rfl⟩

/-- A worker that has handed something on first. -/
lemma Works.behind {session : ℕ} {link link' : Link} (inbox : Inbox) {notes : List Note}
    {change : Session → Session} (hnotes : ∀ seen ∈ notes, FromListeners seen)
    (hchange : AddsIdle 0 change)
    (h : Works session { link with
      inbox := inbox
      trace := link.trace ++ notes
      sessions := link.sessions.modify session change } link') : Works session link link' := by
  obtain ⟨inbox, later, idle, wakes, blocked, last, hlater, hparked, hlast, rfl⟩ := h
  refine ⟨inbox, notes ++ later, idle, wakes, blocked, last ∘ change,
    List.forall_mem_append.mpr ⟨hnotes, hlater⟩, hparked, hlast.behind hchange, ?_⟩
  rw [List.append_assoc, List.modify_modify_eq]

/-- A worker that is through with a chunk takes the next one. -/
lemma work_cons (session : ℕ) (chunk : Octets) (rest : List Octets) (link : Link) :
    work session (chunk :: rest) link =
      let handed := deliver session chunk link.listeners
        (link.modifySession session fun found => { found with queue := rest })
      if handed.2 then work session rest handed.1 else handed.1 := by
  rw [work]
  dsimp only [modifySession]
  generalize deliver session chunk link.listeners _ = result
  obtain ⟨next, completed⟩ := result
  cases completed <;> rfl

lemma work_works (session : ℕ) (queue : List Octets) (link : Link) :
    Works session link (work session queue link) := by
  induction queue generalizing link with
  | nil =>
    refine ⟨link.inbox, [], 1, [], [], fun found => { found with idle := found.idle + 1 }, by simp,
      .idle, ⟨fun _ => rfl, fun _ => rfl, fun _ => rfl⟩, ?_⟩
    simp only [List.append_nil, work, modifySession]
  | cons chunk rest ih =>
    have hchange : AddsIdle 0 fun found : Session => { found with queue := rest } :=
      ⟨fun _ => rfl, fun _ => rfl, fun _ => rfl⟩
    have hhanded := deliver_handed session chunk link.listeners
      (link.modifySession session fun found => { found with queue := rest })
    rw [work]
    dsimp only [modifySession] at hhanded ⊢
    generalize deliver session chunk link.listeners _ = result at hhanded ⊢
    cases hhanded with
    | through inbox notes hnotes => exact (ih _).behind inbox hnotes hchange
    | thread inbox notes hnotes listener rest hrest =>
      refine ⟨inbox, notes, 0, _, [], _, hnotes, .thread listener ⟨session, chunk, rest⟩ rfl,
        hchange, ?_⟩
      rw [List.append_nil]
    | gate inbox notes hnotes rest =>
      refine ⟨inbox, notes, 0, [], _, _, hnotes, .gate ⟨session, chunk, rest⟩ rfl, hchange, ?_⟩
      rw [List.append_nil]

lemma resumeDelivery_works (link : Link) (going : Delivery) :
    Works going.session link (link.resumeDelivery going) := by
  have hhanded := deliver_handed going.session going.chunk going.listeners link
  rw [resumeDelivery]
  generalize deliver going.session going.chunk going.listeners link = result at hhanded ⊢
  cases hhanded with
  | through inbox notes hnotes =>
    refine Works.behind inbox hnotes addsIdle_id ?_
    rw [List.modify_id]
    exact work_works ..
  | thread inbox notes hnotes listener rest hrest =>
    refine ⟨inbox, notes, 0, _, [], id, hnotes,
      .thread listener ⟨going.session, going.chunk, rest⟩ rfl, addsIdle_id, ?_⟩
    rw [List.append_nil, List.modify_id]
  | gate inbox notes hnotes rest =>
    refine ⟨inbox, notes, 0, [], _, id, hnotes, .gate ⟨going.session, going.chunk, rest⟩ rfl,
      addsIdle_id, ?_⟩
    rw [List.append_nil, List.modify_id]

/-- The session of the worker that a wake lets run. -/
def workerOf? : Wake → Option ℕ
  | .call _ | .leaving .. => none
  | .worker session => some session
  | .delivery going | .returned _ going => some going.session

lemma resume_works {link : Link} {wake : Wake} {session : ℕ} (h : workerOf? wake = some session) :
    Works session link (link.resume wake) := by
  cases wake with
  | call id => cases h
  | leaving id turns outcome => cases h
  | worker owner =>
    obtain rfl := Option.some.inj h
    exact work_works ..
  | delivery going =>
    obtain rfl := Option.some.inj h
    exact resumeDelivery_works ..
  | returned listener going =>
    obtain rfl := Option.some.inj h
    rcases listener with _ | ⟨serial, name, manner, _ | _⟩
    · exact resumeDelivery_works ..
    · exact resumeDelivery_works ..
    · -- the failure of the listener is logged before the worker goes on
      have hwork := resumeDelivery_works
        (link.logFailure (.observer serial name manner true)) going
      have hfailure : ∀ seen ∈ [Note.log ⟨.error, .link,
          s!"Listener {(Listener.observer serial name manner true).text} failed"⟩],
          FromListeners seen := by
        simp [FromListeners]
      exact Works.behind link.inbox hfailure addsIdle_id (by rw [List.modify_id]; exact hwork)

end PixelPanel.Proofs
