import PixelPanel.Proofs.Link.Beginning
import PixelPanel.Proofs.Link.WriteLock

/-!
# Writes of a session, one call after the other

Sends get in line, cancelled calls leave it, and writes that go on move it forward. So the ledger of a
session is kept by every event, until another session begins.
-/

namespace PixelPanel.Proofs
open Link

variable {session next id : ℕ} {start link link' : Link} {asked : List (ℕ × List Octets)}
  {notes : List Note} {block : ℕ → List Octets} {messages : List Octets} {owner call : Call}

/-! ### Sends -/

lemma Queue.ask {calls : List Call} (h : Queue session asked block id calls)
    (hlt : ∀ ask ∈ asked, ask.1 < next) (messages : List Octets) :
    Queue session (asked ++ [(next, messages)]) (Function.update block next []) id calls where
  __ := h
  later := by
    refine forall_mem_concat (fun ask hmem hid => ?_) fun _ => Function.update_self ..
    rw [Function.update_of_ne (Nat.ne_of_lt (hlt ask hmem))]
    exact h.later ask hmem hid

lemma Lock.ask (h : Lock session asked block link) (hlt : ∀ ask ∈ asked, ask.1 < next)
    (messages : List Octets) :
    Lock session (asked ++ [(next, messages)]) (Function.update block next []) link := by
  cases h with
  | free hcalls hturns => exact .free hcalls hturns
  | held owner howns hturns =>
    exact .held owner { howns with queue := howns.queue.ask hlt messages } hturns

/-- A call that has to wait for the lock gets in line. -/
lemma Lock.enqueue (h : Lock session asked block link) (hcalls : link.calls ≠ [])
    (hlt : ∀ call ∈ link.calls, call.id < id) (actions : List Action) :
    Lock session asked block (link.suspend ⟨id, .waiting session, actions, .plain⟩) := by
  cases h with
  | free hnone hturns => exact (hcalls hnone).elim
  | held owner howns hturns =>
    have hown := hlt owner howns.mem
    have hqueue := howns.queue
    refine .held owner ⟨List.mem_append_left _ howns.mem, ?_, ?_⟩ hturns
    · rw [Link.suspend, List.filter_append, howns.only,
        List.filter_cons_of_neg (by simpa using hown.ne')]
      rfl
    · have hothers : ((link.suspend ⟨id, .waiting session, actions, .plain⟩).removeCall
          owner.id).calls = (link.removeCall owner.id).calls ++
            [⟨id, .waiting session, actions, .plain⟩] := by
        rw [removeCall, removeCall, Link.suspend, List.filter_append,
          List.filter_cons_of_pos (by simpa using hown.ne')]
        rfl
      rw [hothers]
      refine ⟨forall_mem_concat hqueue.waiting rfl, ?_, forall_mem_concat hqueue.above hown,
        hqueue.later⟩
      refine List.pairwise_append.mpr ⟨hqueue.sorted, List.pairwise_singleton .., ?_⟩
      intro call hmem other hother
      rw [List.mem_singleton.mp hother]
      exact hlt call (List.mem_of_mem_filter hmem)

lemma Position.concerns {written : List Octets} (h : Position session messages written call) :
    call.concerns session := by
  cases h <;> exact beq_self_eq_true session

lemma fits_nil (messages : List Octets) (error : CallError) : Fits messages [] (.failed error) := by
  cases messages with
  | nil => exact .inl rfl
  | cons message rest => exact .inr ⟨message, rest, rfl⟩

lemma serial_send (h : Serial session start asked next link) (hwakes : link.wakes = [])
    (messages : List Octets) :
    Serial session start (asked ++ [(next, messages)]) (next + 1)
      (perform next .plain none (Action.batch messages) link) := by
  obtain ⟨notes, block, hbooks, hlock⟩ := h
  have hasked := hbooks.ask messages
  have hask : (next, messages) ∈ asked ++ [(next, messages)] := List.mem_concat_self
  have hnone : Function.update block next [] next = [] := Function.update_self ..
  have hmine := hlock.ask hbooks.lt messages
  rw [Action.batch, List.cons_append, perform]
  split
  · rename_i current hactive hcurrent
    obtain rfl : current = session := Option.some.inj (hcurrent.symm.trans (hbooks.current hactive))
    split
    · -- somebody has the lock, so it gets in line
      rename_i hbusy
      refine ⟨notes, _, hasked.suspend hactive hask (.waiting next hnone),
        hmine.enqueue ?_ (fun call => hbooks.call_lt) _⟩
      intro hcalls
      rw [isBusy, hcalls] at hbusy
      cases hbusy
    · -- nobody waits at all, since every call that waits concerns the lock
      rename_i hidle
      have hcalls : link.calls = [] := by
        refine List.eq_nil_iff_forall_not_mem.mpr fun call hmem => hidle ?_
        obtain ⟨other, -, hposition⟩ := hbooks.ledger.pending call hmem
        exact List.any_eq_true.mpr ⟨call, hmem, hposition.concerns⟩
      refine serial_perform messages hasked ?_ (callTurns_eq_nil hwakes) (Nat.lt_succ_self _) hask ?_
      · rw [hcalls]
        refine ⟨by simp, .nil, by simp, fun ask hmem hlt => ?_⟩
        exact absurd (hasked.lt ask hmem) (by omega)
      · rw [hnone]
        rfl
  · rename_i hinactive
    have hfits : Fits messages (Function.update block next [] next) (.failed .notConnected) := by
      rw [hnone]
      exact fits_nil messages _
    have hothers : ∀ call ∈ link.calls, call.id ≠ next := fun call hmem => (hbooks.call_lt hmem).ne
    have hended := hasked.finish (.inr rfl) (Nat.lt_succ_self _) hothers (hasked.fits hask hfits)
    refine ⟨_, _, hended ?_ ?_, hmine.note _⟩
    · intro ask hmem hid later hlater hlt
      exact absurd (hasked.lt later hlater) (by omega)
    · intro ask hmem hid error houtcome hne
      refine ⟨fun hactive => ?_, fun call hcall hlt => ?_⟩
      · exact hinactive session hactive (hbooks.current hactive)
      · exact absurd (hbooks.call_lt hcall) (by omega)

/-! ### Cancelled calls, and writes that go on -/

/-- A call that waits in line is cancelled. -/
lemma Owns.leaveLine (h : Owns session asked block link owner) (hne : owner.id ≠ call.id) :
    Owns session asked block (link.removeCall call.id) owner := by
  have hsub : ((link.removeCall call.id).removeCall owner.id).calls.Sublist
      (link.removeCall owner.id).calls := by
    rw [removeCall, removeCall, List.filter_comm]
    exact List.filter_sublist
  refine ⟨mem_removeCall h.mem hne, ?_, ?_⟩
  · rw [removeCall, List.filter_comm, h.only, List.filter_cons_of_pos (by simpa using hne),
      List.filter_nil]
  · exact ⟨fun other hother => h.queue.waiting other (hsub.subset hother),
      h.queue.sorted.sublist hsub, fun other hother => h.queue.above other (hsub.subset hother),
      h.queue.later⟩

lemma serial_cancel (h : Serial session start asked next link) (hwakes : link.wakes = [])
    (id : ℕ) : Serial session start asked next (link.cancel id) := by
  unfold Link.cancel
  split
  · exact h
  · rename_i call hfind
    obtain ⟨hmem, rfl⟩ := mem_of_find?_id hfind
    obtain ⟨notes, block, hbooks, hlock⟩ := h
    have hturns := callTurns_eq_nil hwakes
    rcases hlock.at_rest hwakes with hnone | ⟨owner, howns, hheld, hwriting⟩
    · rw [hnone] at hmem
      cases hmem
    · have hqueue := howns.queue
      have hremoved := hbooks.removeCall hmem
      obtain ⟨messages, hask, hposition⟩ := hbooks.ledger.pending call hmem
      have hlt := hbooks.call_lt hmem
      have hcancelled : ∀ error, Outcome.failed .cancelled = .failed error → error ≠ .cancelled →
          False := by
        rintro error ⟨⟩ hne
        exact hne rfl
      by_cases heq : call.id = owner.id
      · -- the owner of the lock is cancelled in its write
        obtain rfl := howns.eq_of_id hmem heq
        cases hposition with
        | waiting id hblock => cases hwriting
        | writing id message rest hmessages =>
          exact serial_close hremoved hqueue hturns hlt
            (hremoved.fits hask (.inr ⟨message, rest, hmessages⟩)) fun error heq hne =>
              (hcancelled error heq hne).elim
      · have hline : call ∈ (link.removeCall owner.id).calls := mem_removeCall hmem heq
        have hleft : Lock session asked block (link.removeCall call.id) :=
          .held owner (howns.leaveLine (Ne.symm heq)) (.inr ⟨hturns, hheld, hwriting⟩)
        cases hposition with
        | writing id message rest hmessages => cases hqueue.waiting _ hline
        | waiting id hblock =>
          have hothers : ∀ other ∈ (link.removeCall id).calls, other.id ≠ id := by
            intro other hother
            simpa using (List.mem_filter.mp hother).2
          have hfits : Fits messages (block id) (.failed .cancelled) := by
            rw [hblock]
            exact fits_nil messages _
          have hended := hremoved.finish (.inr rfl) hlt hothers (hremoved.fits hask hfits)
          refine ⟨_, block, hended ?_ ?_, hleft.note _⟩
          · intro ask _ _ later hlater hafter
            exact hqueue.later later hlater ((hqueue.above _ hline).trans hafter)
          · intro _ _ _ error heq hne
            exact (hcancelled error heq hne).elim

/-- Writes may go on: the owner of the lock has its turn. -/
lemma serial_release (h : Serial session start asked next link) (hwakes : link.wakes = []) :
    Serial session start asked next ({ link with writesHeld := false }.wake
      ((link.calls.filter Call.isWriting).map fun call : Call => Wake.call call.id)) := by
  obtain ⟨notes, block, hbooks, hlock⟩ := h
  refine ⟨notes, block, { hbooks with }, ?_⟩
  rcases hlock.at_rest hwakes with hnone | ⟨owner, howns, -, hwriting⟩
  · refine .free hnone ?_
    rw [callTurns, wake, hwakes, hnone]
    rfl
  · have hwriters : link.calls.filter Call.isWriting = [owner] := by
      rw [← howns.only]
      refine List.filter_congr fun call hmem => ?_
      by_cases heq : call.id = owner.id
      · rw [howns.eq_of_id hmem heq, hwriting, beq_self_eq_true]
      · rw [howns.queue.not_writing (mem_removeCall hmem heq)]
        simp [heq]
    refine .held owner (howns.congr rfl) (.inl ?_)
    rw [callTurns, wake, hwakes, hwriters]
    rfl

/-! ### Events -/

lemma Serial.mono (h : Serial session start asked next link) :
    Serial session start asked (next + 1) link := by
  obtain ⟨notes, block, hbooks, hlock⟩ := h
  exact ⟨notes, block, hbooks.mono, hlock⟩

/-- An event that ends at once and is no send. -/
lemma Serial.finish (h : Serial session start asked next link) (outcome : Outcome) :
    Serial session start asked (next + 1) (link.finish next outcome) := by
  obtain ⟨notes, block, hbooks, hlock⟩ := h
  have hnone : ∀ {P : ℕ × List Octets → Prop}, ∀ ask ∈ asked, ask.1 = next → P ask :=
    fun ask hmem heq => absurd (hbooks.lt ask hmem) (by omega)
  have hothers : ∀ call ∈ link.calls, call.id ≠ next := fun call hmem => (hbooks.call_lt hmem).ne
  exact ⟨_, block, hbooks.mono.finish (.inl rfl) (Nat.lt_succ_self _) hothers hnone hnone hnone,
    hlock.note _⟩

/-- No call of the session waits for the device. -/
lemma Serial.answerYoungest (h : Serial session start asked next link) (answer : Answer) :
    link.answerYoungest answer = link := by
  obtain ⟨notes, block, hbooks, -⟩ := h
  have hnone : link.calls.reverse.find? (fun call => call.socket?.isSome) = none := by
    refine List.find?_eq_none.mpr fun call hmem => ?_
    obtain ⟨messages, -, hposition⟩ := hbooks.ledger.pending call (List.mem_reverse.mp hmem)
    cases hposition <;> simp [Call.socket?]
  rw [Link.answerYoungest, hnone]

lemma serial_act (h : Serial session start asked next link) (hwakes : link.wakes = [])
    {event : Event} (hevent : event.connects → link.phase = .active) :
    Serial session start (asked ++ sends next [event]) (next + 1) (link.act next event) := by
  cases hconcerns : event.concernsCalls with
  | false =>
    rw [sends_of_none (messages?_of_concernsCalls hconcerns), List.append_nil]
    obtain ⟨middle, haside, hact⟩ := act_of_concernsCalls_eq_false hconcerns next
    have hmiddle := h.aside haside
    rcases hact with hact | ⟨outcome, hact⟩
    · rw [hact]
      exact hmiddle.mono
    · rw [hact]
      exact hmiddle.finish outcome
  | true =>
    have hconnect : ∀ actions ending answer, link.phase = .active →
        Serial session start (asked ++ []) (next + 1) (link.connect next actions ending answer) := by
      intro actions ending answer hactive
      rw [connect, if_pos (.inr hactive), List.append_nil]
      exact h.finish _
    cases event with
    | connect answer => exact hconnect _ _ _ (hevent rfl)
    | scope sent raises answer => exact hconnect _ _ _ (hevent rfl)
    | answer answer =>
      rw [act, h.answerYoungest answer, sends_of_none rfl, List.append_nil]
      exact h.mono
    | cancel call =>
      rw [sends_of_none rfl, List.append_nil]
      exact (serial_cancel h hwakes call).mono
    | send sent => exact serial_send h hwakes sent
    | releaseWrites =>
      rw [sends_of_none rfl, List.append_nil]
      exact (serial_release h hwakes).mono
    | _ => cases hconcerns

/-! ### Runs -/

/-- Whether no event begins a session, or tries to while the link is not active. -/
def lasts (link : Link) : List Event → Bool
  | [] => true
  | event :: later => (!event.connects || link.isActive) && lasts (link.step event) later

lemma connects_imp_of_lasts {event : Event} {later : List Event} (h : lasts link (event :: later)) :
    (event.connects → link.phase = .active) ∧ lasts (link.step event) later := by
  rw [lasts, Bool.and_eq_true, Bool.or_eq_true] at h
  refine ⟨fun hconnects => ?_, h.2⟩
  rw [hconnects] at h
  simpa [isActive] using h.1

/-- A session that has just begun, with no call left of an earlier one. -/
structure HasBegun (session : ℕ) (link : Link) : Prop where
  phase : link.phase = .active
  current : link.current = some session
  calls : link.calls = []
  wakes : link.wakes = []

/-- A connection that the device accepts begins a session. -/
lemma hasBegun_attach (hcalls : link.calls = []) (hwakes : link.wakes = []) (id socket : ℕ) :
    HasBegun socket (link.attach id socket [] .plain) :=
  ⟨rfl, rfl, hcalls, hwakes⟩

lemma HasBegun.step {session : ℕ} {event : Event} (h : HasBegun session (link.act link.clock event)) :
    HasBegun session (link.step event) := by
  have hstep : link.step event = { link.act link.clock event with clock := link.clock + 1 } := by
    rw [Link.step, settle, drain_of_nil h.wakes]
  rw [hstep]
  exact ⟨h.phase, h.current, h.calls, h.wakes⟩

/-- A connection that succeeds at once begins a session. -/
lemma hasBegun_connect (hphase : link.phase = .disconnected ∨ link.phase = .closed)
    (haddress : (Address.ofText? link.address.toList).isSome) (hcalls : link.calls = [])
    (hwakes : link.wakes = []) :
    ∃ session, HasBegun session (link.step (.connect .accepted)) := by
  obtain ⟨notes, hconnect⟩ := exists_connect_eq hphase haddress link.clock [] .plain
  refine ⟨link.cleaned.sessions.length, HasBegun.step ?_⟩
  rw [act, hconnect]
  have hcalls' : (link.dialling notes).calls = [] := (calls_cleaned link).trans hcalls
  exact hasBegun_attach hcalls' (wakes_cleaned hwakes) ..

/-- A connection that the device accepts later begins a session too. -/
lemma hasBegun_answer {id socket : ℕ} (hcalls : link.calls = [⟨id, .opening socket, [], .plain⟩])
    (hwakes : link.wakes = []) : HasBegun socket (link.step (.answer .accepted)) := by
  refine HasBegun.step ?_
  rw [act, answerYoungest, hcalls]
  refine ⟨rfl, rfl, ?_, hwakes⟩
  change (link.removeCall id).calls = []
  rw [removeCall, hcalls]
  simp

lemma HasBegun.serial (h : HasBegun session start) :
    Serial session start [] start.clock start := by
  refine ⟨[], fun _ => [], ⟨(List.append_nil _).symm, fun _ => h.current, ?_, .nil, ?_, ?_, ?_, ?_,
    ?_⟩, .free h.calls ?_⟩
  · refine ⟨rfl, ?_, ?_, ?_, ?_⟩ <;> simp [h.calls]
  · simp
  · simp
  · simp
  · simp
  · simp
  · exact callTurns_eq_nil h.wakes

end PixelPanel.Proofs
