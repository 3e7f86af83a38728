import PixelPanel.Proofs.Link.SessionBooks

/-!
# The lock of a session

At every moment of a session the lock is free, and then no call waits, or one call has it: the one
that was made first of all that wait. Nobody behind it has written anything. It keeps the lock until it
ends, and hands it to the next in line.
-/

namespace PixelPanel.Proofs
open Link

/-- The calls that wait for the lock behind the call `id`, in the order in which they were made. -/
structure Queue (session : ℕ) (asked : List (ℕ × List Octets)) (block : ℕ → List Octets) (id : ℕ)
    (calls : List Call) : Prop where
  waiting : ∀ call ∈ calls, call.stage = .waiting session
  sorted : calls.Pairwise fun first second => first.id < second.id
  above : ∀ call ∈ calls, id < call.id
  later : ∀ ask ∈ asked, id < ask.1 → block ask.1 = []

/-- The call that has the lock, with the queue behind it. -/
structure Owns (session : ℕ) (asked : List (ℕ × List Octets)) (block : ℕ → List Octets)
    (link : Link) (owner : Call) : Prop where
  mem : owner ∈ link.calls
  only : link.calls.filter (fun call => call.id == owner.id) = [owner]
  queue : Queue session asked block owner.id (link.removeCall owner.id).calls

/-- Who has the lock. The owner is about to go on, or waits for a write that is held back. -/
inductive Lock (session : ℕ) (asked : List (ℕ × List Octets)) (block : ℕ → List Octets)
    (link : Link) : Prop
  | free (hcalls : link.calls = []) (hturns : callTurns link = [])
  | held (owner : Call) (howns : Owns session asked block link owner)
    (hturns : callTurns link = [.call owner.id] ∨
      callTurns link = [] ∧ link.writesHeld ∧ owner.isWriting)

/-- The writes of a session are serial at a moment. -/
def Serial (session : ℕ) (start : Link) (asked : List (ℕ × List Octets)) (next : ℕ) (link : Link) :
    Prop :=
  ∃ notes block, Books session start asked next none notes block link ∧
    Lock session asked block link

variable {session next id : ℕ} {start link link' : Link} {asked : List (ℕ × List Octets)}
  {notes : List Note} {block : ℕ → List Octets} {messages : List Octets} {owner call : Call}

/-! ### Who has the lock -/

lemma Queue.write {calls : List Call} (h : Queue session asked block id calls)
    (written : List Octets) : Queue session asked (Function.update block id written) id calls where
  __ := h
  later ask hmem hlt := by
    rw [Function.update_of_ne (Nat.ne_of_gt hlt)]
    exact h.later ask hmem hlt

lemma Queue.not_writing {calls : List Call} (h : Queue session asked block id calls)
    (hmem : call ∈ calls) : call.isWriting = false := by
  rw [Call.isWriting, h.waiting call hmem]

lemma Queue.id_ne {calls : List Call} (h : Queue session asked block id calls) :
    ∀ call ∈ calls, call.id ≠ id :=
  fun call hmem => (h.above call hmem).ne'

lemma Queue.filter_eq_nil {calls : List Call} (h : Queue session asked block id calls) :
    calls.filter (fun call => call.id == id) = [] :=
  List.filter_eq_nil_iff.mpr fun call hmem => by simpa using h.id_ne call hmem

lemma Queue.filter_eq_self {calls : List Call} (h : Queue session asked block id calls) :
    calls.filter (fun call => call.id != id) = calls :=
  List.filter_eq_self.mpr fun call hmem => by simpa using h.id_ne call hmem

lemma Owns.congr (h : Owns session asked block link owner) (hcalls : link'.calls = link.calls) :
    Owns session asked block link' owner where
  mem := hcalls ▸ h.mem
  only := hcalls ▸ h.only
  queue := by
    rw [removeCall, hcalls]
    exact h.queue

lemma Owns.eq_of_id (h : Owns session asked block link owner) (hmem : call ∈ link.calls)
    (hid : call.id = owner.id) : call = owner := by
  have hfound : call ∈ link.calls.filter fun other => other.id == owner.id :=
    List.mem_filter.mpr ⟨hmem, beq_iff_eq.mpr hid⟩
  rw [h.only] at hfound
  exact List.mem_singleton.mp hfound

lemma Lock.congr (h : Lock session asked block link) (hcalls : link'.calls = link.calls)
    (hturns : callTurns link' = callTurns link) (hheld : link.writesHeld → link'.writesHeld) :
    Lock session asked block link' := by
  cases h with
  | free hnone hidle => exact .free (hcalls.trans hnone) (hturns.trans hidle)
  | held owner howns hnext =>
    refine .held owner (howns.congr hcalls) ?_
    rw [hturns]
    exact hnext.imp_right fun ⟨hidle, hstill, hwriting⟩ => ⟨hidle, hheld hstill, hwriting⟩

lemma Lock.note (h : Lock session asked block link) (seen : Note) :
    Lock session asked block (link.note seen) :=
  h.congr rfl rfl id

lemma Lock.aside (h : Lock session asked block link) (haside : Aside link link') :
    Lock session asked block link' :=
  h.congr haside.calls haside.turns haside.writesHeld

lemma Lock.eq_of_id (h : Lock session asked block link) {other : Call}
    (hcall : call ∈ link.calls) (hother : other ∈ link.calls) (hid : call.id = other.id) :
    call = other := by
  cases h with
  | free hcalls hturns =>
    rw [hcalls] at hcall
    cases hcall
  | held owner howns hturns =>
    by_cases heq : call.id = owner.id
    · rw [howns.eq_of_id hcall heq, howns.eq_of_id hother (hid.symm.trans heq)]
    · -- both of them wait in the queue
      have hnodup : ((link.removeCall owner.id).calls.map Call.id).Nodup :=
        (List.pairwise_map.mpr howns.queue.sorted).imp fun hlt => Nat.ne_of_lt hlt
      have hne : other.id ≠ owner.id := hid ▸ heq
      exact List.inj_on_of_nodup_map hnodup (mem_removeCall hcall heq) (mem_removeCall hother hne)
        hid

/-- When nothing can run, the owner of the lock waits for a write that is held back. -/
lemma Lock.at_rest (h : Lock session asked block link) (hwakes : link.wakes = []) :
    link.calls = [] ∨ ∃ owner, Owns session asked block link owner ∧ link.writesHeld ∧
      owner.isWriting := by
  cases h with
  | free hcalls hturns => exact .inl hcalls
  | held owner howns hturns =>
    rw [callTurns_eq_nil hwakes] at hturns
    obtain ⟨-, hheld, hwriting⟩ := hturns.resolve_left (List.cons_ne_nil _ _).symm
    exact .inr ⟨owner, howns, hheld, hwriting⟩

/-- The lock of a call that has ended goes to the first of those that wait. -/
lemma lock_handOver (hqueue : Queue session asked block id link.calls)
    (hturns : callTurns link = []) : Lock session asked block (link.handOver session) := by
  cases hcalls : link.calls with
  | nil =>
    have hhand : link.handOver session = link := by
      rw [handOver, hcalls]
      rfl
    rw [hhand]
    exact .free hcalls hturns
  | cons owner rest =>
    rw [hcalls] at hqueue
    have hhand : link.handOver session = link.wake [.call owner.id] := by
      have hfind : link.calls.find? (fun call => call.stage == .waiting session) = some owner := by
        rw [hcalls, List.find?_cons_of_pos]
        rw [hqueue.waiting owner List.mem_cons_self]
        exact beq_self_eq_true _
      rw [handOver, hfind]
    obtain ⟨habove, hsorted⟩ := List.pairwise_cons.mp hqueue.sorted
    have hrest : Queue session asked block owner.id rest :=
      ⟨fun call hmem => hqueue.waiting call (List.mem_cons_of_mem _ hmem), hsorted, habove,
        fun ask hmem hlt => hqueue.later ask hmem ((hqueue.above owner List.mem_cons_self).trans hlt)⟩
    have howns : Owns session asked block link owner := by
      refine ⟨by rw [hcalls]; exact List.mem_cons_self, ?_, ?_⟩
      · rw [hcalls, List.filter_cons_of_pos (by simp), hrest.filter_eq_nil]
      · rw [removeCall, hcalls, List.filter_cons_of_neg (by simp), hrest.filter_eq_self]
        exact hrest
    rw [hhand]
    refine .held owner (howns.congr rfl) (.inl ?_)
    rw [callTurns, wake, List.filter_append]
    exact congrArg (· ++ _) hturns

/-- A call that has the lock ends, and hands the lock over. -/
lemma serial_close (h : Books session start asked next (some id) notes block link)
    (hqueue : Queue session asked block id link.calls) (hturns : callTurns link = [])
    (hlt : id < next) {outcome : Outcome}
    (hfits : ∀ ask ∈ asked, ask.1 = id → Fits ask.2 (block id) outcome)
    (hinactive : ∀ error, outcome = .failed error → error ≠ .cancelled → link.phase ≠ .active) :
    Serial session start asked next ((link.handOver session).finish id outcome) := by
  have hhand : Books session start asked next (some id) (notes ++ []) block
      (link.handOver session) :=
    h.keep (by rw [trace_handOver, List.append_nil]) (by simp)
      (fun hactive => ⟨by rwa [phase_handOver] at hactive, current_handOver _⟩) (calls_handOver _)
  have hcalls : ∀ call ∈ (link.handOver session).calls, call.id ≠ id := by
    rw [calls_handOver]
    exact hqueue.id_ne
  have hhalted : ∀ ask ∈ asked, ask.1 = id → ∀ error, outcome = .failed error → error ≠ .cancelled →
      (link.handOver session).phase ≠ .active ∧ ∀ call ∈ (link.handOver session).calls,
        id < call.id → call.stage = .waiting session := by
    intro ask hask hid error houtcome hne
    rw [phase_handOver, calls_handOver]
    exact ⟨hinactive error houtcome hne, fun call hmem _ => hqueue.waiting call hmem⟩
  have hended := hhand.finish (.inr rfl) hlt hcalls hfits (fun _ _ _ => hqueue.later) hhalted
  exact ⟨_, block, hended, (lock_handOver hqueue hturns).note _⟩

/-! ### A call that has the lock -/

/-- The call that has the lock waits in a write that is held back. -/
lemma serial_suspend (h : Books session start asked next (some id) notes block link)
    (hqueue : Queue session asked block id link.calls) (hturns : callTurns link = [])
    (hask : (id, messages) ∈ asked) {message : Octets} {rest : List Octets}
    (hmessages : messages = block id ++ message :: rest) (hactive : link.phase = .active)
    (hheld : link.writesHeld) :
    Serial session start asked next (link.suspend
      ⟨id, .writing session session message, rest.map .write ++ [.release], .plain⟩) := by
  refine ⟨notes, block, h.suspend hactive hask (.writing id message rest hmessages), ?_⟩
  refine .held _ ⟨List.mem_concat_self, ?_, ?_⟩ (.inr ⟨hturns, hheld, rfl⟩)
  · rw [suspend, List.filter_append, hqueue.filter_eq_nil, List.filter_cons_of_pos (by simp)]
    rfl
  · rw [removeCall, suspend, List.filter_append, hqueue.filter_eq_self,
      List.filter_cons_of_neg (by simp), List.filter_nil, List.append_nil]
    exact hqueue

/-- The write of the call that has the lock fails. -/
lemma serial_failWrite (h : Books session start asked next (some id) notes block link)
    (hqueue : Queue session asked block id link.calls) (hturns : callTurns link = [])
    (hlt : id < next) (hask : (id, messages) ∈ asked) {error : SystemError}
    (hfits : Fits messages (block id) (.failed (.writeFailed error))) :
    Serial session start asked next (link.failWrite id .plain (some session) error) := by
  have hretire := h.keep (trace_retire ("write failed: " ++ error.message))
    (by split <;> simp [IsAside]) (fun hactive => by cases hactive) (calls_retire _)
  refine serial_close hretire ?_ ?_ hlt (hretire.fits hask hfits) fun _ _ _ hactive => ?_
  · rwa [calls_retire]
  · rwa [callTurns, wakes_retire]
  · cases hactive

lemma eq_append_of_write {message : Octets} {rest : List Octets}
    (h : messages = block id ++ message :: rest) :
    messages = Function.update block id (block id ++ [message]) id ++ rest := by
  rw [Function.update_self, h, List.append_assoc]
  rfl

/-- The call that has the lock goes on with the messages that remain. -/
lemma serial_perform (remaining : List Octets)
    (h : Books session start asked next (some id) notes block link)
    (hqueue : Queue session asked block id link.calls) (hturns : callTurns link = [])
    (hlt : id < next) (hask : (id, messages) ∈ asked) (hmessages : messages = block id ++ remaining) :
    Serial session start asked next
      (perform id .plain (some session) (remaining.map .write ++ [.release]) link) := by
  -- the block grows by one message at each write, so it is general in the induction
  induction remaining generalizing notes block link with
  | nil =>
    rw [List.append_nil] at hmessages
    have hdone : Fits messages (block id) .done := hmessages.symm
    exact serial_close h hqueue hturns hlt (h.fits hask hdone) (fun _ heq => by cases heq)
  | cons message rest ih =>
    have hstopped : ∀ error, Fits messages (block id) (.failed error) :=
      fun _ => .inr ⟨message, rest, hmessages⟩
    rw [List.map_cons, List.cons_append, perform]
    split
    · rename_i socket hactive hcurrent
      obtain rfl : socket = session := Option.some.inj (hcurrent.symm.trans (h.current hactive))
      have hlog := h.log .debug ("Sending: " ++ Hex.encode message)
      dsimp only
      split
      · -- the write is held back, and the call keeps the lock meanwhile
        rename_i hheld
        exact serial_suspend hlog hqueue hturns hask hmessages hactive hheld
      · rcases tryWrite_cases (link.log .debug ("Sending: " ++ Hex.encode message)) socket message
          with ⟨fault, htry⟩ | ⟨error, htry⟩
        · rw [htry]
          -- an active session has no send that failed
          have hahead : ∀ ask ∈ asked, ∀ error, .finished ask.1 (.failed error) ∈
              notes ++ [.log ⟨.debug, .link, "Sending: " ++ Hex.encode message⟩] →
              error ≠ .cancelled → id ≤ ask.1 := by
            intro ask hmem error hfailed hne
            exact ((hlog.halted ask hmem error hfailed hne).1 hactive).elim
          have hwritten := hlog.write hask hmessages hqueue.later hqueue.id_ne hahead fault
          exact ih hwritten (hqueue.write _) hturns (eq_append_of_write hmessages)
        · rw [htry]
          exact serial_failWrite hlog hqueue hturns hlt hask (hstopped _)
    · rename_i hinactive
      refine serial_close h hqueue hturns hlt (h.fits hask (hstopped _)) fun _ _ _ hactive => ?_
      exact hinactive session hactive (h.current hactive)

/-! ### Turns -/

lemma Serial.aside (h : Serial session start asked next link) (haside : Aside link link') :
    Serial session start asked next link' := by
  obtain ⟨notes, block, hbooks, hlock⟩ := h
  obtain ⟨more, htrace, hmore⟩ := haside.trace
  exact ⟨notes ++ more, block, hbooks.keep htrace hmore haside.phase haside.calls,
    hlock.aside haside⟩

/-- What the owner of the lock does in its turn. -/
lemma Owns.resumeCall_eq (h : Owns session asked block link owner) :
    link.resumeCall owner.id = match owner.stage with
      | .opening _ => link
      | .waiting lock =>
        perform owner.id owner.ending (some lock) owner.actions (link.removeCall owner.id)
      | .writing lock socket message =>
        match (link.removeCall owner.id).tryWrite socket message with
        | (link, none) => perform owner.id owner.ending (some lock) owner.actions link
        | (link, some error) => link.failWrite owner.id owner.ending (some lock) error := by
  rw [resumeCall, ← List.head?_filter, h.only]
  rfl

/-- In the turn of a call this call has the lock. -/
lemma Lock.owner_of_turn (h : Lock session asked block link) {wake : Wake} {rest : List Wake}
    (hwakes : link.wakes = wake :: rest) (hwake : workerOf? wake = none) :
    ∃ owner, Owns session asked block link owner ∧ wake = .call owner.id ∧
      callTurns { link with wakes := rest } = [] := by
  have hturns : callTurns link = wake :: callTurns { link with wakes := rest } := by
    rw [callTurns, hwakes, List.filter_cons_of_pos (by rw [hwake]; rfl)]
    rfl
  cases h with
  | free hcalls hnone =>
    rw [hturns] at hnone
    cases hnone
  | held owner howns hnext =>
    rw [hturns] at hnext
    rcases hnext with hone | ⟨hnone, -⟩
    · obtain ⟨hcall, hrest⟩ := List.cons.inj hone
      exact ⟨owner, howns, hcall, hrest⟩
    · cases hnone

lemma Serial.turn (h : Serial session start asked next link) {wake : Wake} {rest : List Wake}
    (hwakes : link.wakes = wake :: rest) :
    Serial session start asked next ({ link with wakes := rest }.resume wake) := by
  cases hworker : workerOf? wake with
  | some worker =>
    have hpop : Aside link { link with wakes := rest } := by
      refine ⟨fun hactive => ⟨hactive, rfl⟩, rfl, fun hheld => hheld, ?_, [],
        (List.append_nil _).symm, by simp⟩
      rw [callTurns, callTurns, hwakes, List.filter_cons_of_neg (by rw [hworker]; simp)]
    exact h.aside (hpop.trans (aside_of_works (resume_works hworker)))
  | none =>
    obtain ⟨notes, block, hbooks, hlock⟩ := h
    obtain ⟨owner, howns, rfl, hturns⟩ := hlock.owner_of_turn hwakes hworker
    have hqueue := howns.queue
    have hpop : Books session start asked next none notes block { link with wakes := rest } :=
      { hbooks with }
    have hremoved := hpop.removeCall howns.mem
    obtain ⟨messages, hask, hposition⟩ := hbooks.ledger.pending owner howns.mem
    have hlt := hbooks.lt _ hask
    have hpopped : Owns session asked block { link with wakes := rest } owner := howns.congr rfl
    rw [resume, hpopped.resumeCall_eq]
    cases hposition with
    | waiting id hblock =>
      exact serial_perform messages hremoved hqueue hturns hlt hask (by rw [hblock]; rfl)
    | writing id message remaining hmessages =>
      dsimp only
      rcases tryWrite_cases (removeCall { link with wakes := rest } id) session message
        with ⟨fault, htry⟩ | ⟨error, htry⟩
      · rw [htry]
        -- behind a send that failed it would not be in a write
        have hahead : ∀ ask ∈ asked, ∀ error, .finished ask.1 (.failed error) ∈ notes →
            error ≠ .cancelled → id ≤ ask.1 := by
          intro ask hmem error hfailed hne
          by_contra hbehind
          have hwaiting := (hbooks.halted ask hmem error hfailed hne).2 _ howns.mem
          cases hwaiting (Nat.lt_of_not_le hbehind)
        have hwritten := hremoved.write hask hmessages hqueue.later hqueue.id_ne hahead fault
        exact serial_perform remaining hwritten (hqueue.write _) hturns hlt hask
          (eq_append_of_write hmessages)
      · rw [htry]
        exact serial_failWrite hremoved hqueue hturns hlt hask (.inr ⟨message, remaining, hmessages⟩)

end PixelPanel.Proofs
