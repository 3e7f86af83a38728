import PixelPanel.Proofs.Link.WriteLedger

/-!
# The books of a session

The ledger along a run of a session, together with what keeps it in order: calls are numbered in the
order in which they are made, a call that has ended does not wait, every call waits or has ended, and
after a failure the link is no longer active.
-/

namespace PixelPanel.Proofs
open Link

/-- The books of a session that began at `start`. Calls are numbered below `next`, and `runner` is the
call that runs at the moment. -/
structure Books (session : ℕ) (start : Link) (asked : List (ℕ × List Octets)) (next : ℕ)
    (runner : Option ℕ) (notes : List Note) (block : ℕ → List Octets) (link : Link) : Prop where
  trace : link.trace = start.trace ++ notes
  current : link.phase = .active → link.current = some session
  ledger : Ledger session asked notes link.calls block
  sorted : asked.Pairwise fun first second => first.1 < second.1
  lt : ∀ ask ∈ asked, ask.1 < next
  ended_lt : ∀ id outcome, .finished id outcome ∈ notes → id < next
  ended : ∀ id outcome, .finished id outcome ∈ notes →
    runner ≠ some id ∧ ∀ call ∈ link.calls, call.id ≠ id
  settled : ∀ ask ∈ asked, runner = some ask.1 ∨ (∃ call ∈ link.calls, call.id = ask.1) ∨
    ∃ outcome, .finished ask.1 outcome ∈ notes
  halted : ∀ ask ∈ asked, ∀ error, .finished ask.1 (.failed error) ∈ notes → error ≠ .cancelled →
    link.phase ≠ .active ∧ ∀ call ∈ link.calls, ask.1 < call.id → call.stage = .waiting session

variable {session next id : ℕ} {start link link' : Link} {asked : List (ℕ × List Octets)}
  {runner : Option ℕ} {notes more : List Note} {block : ℕ → List Octets} {messages : List Octets}

namespace Books

/-- What is not seen by calls does not matter for the books. -/
lemma keep (h : Books session start asked next runner notes block link)
    (htrace : link'.trace = link.trace ++ more) (hmore : ∀ seen ∈ more, IsAside seen)
    (hphase : link'.phase = .active → link.phase = .active ∧ link'.current = link.current)
    (hcalls : link'.calls = link.calls) :
    Books session start asked next runner (notes ++ more) block link' where
  trace := by rw [htrace, h.trace, List.append_assoc]
  current hactive := (hphase hactive).2.trans (h.current (hphase hactive).1)
  ledger := hcalls ▸ h.ledger.aside hmore
  sorted := h.sorted
  lt := h.lt
  ended_lt id outcome hmem := h.ended_lt id outcome (finished_mem_append_aside hmore hmem)
  ended id outcome hmem := hcalls ▸ h.ended id outcome (finished_mem_append_aside hmore hmem)
  settled ask hask := by
    rw [hcalls]
    refine (h.settled ask hask).imp_right (Or.imp_right ?_)
    exact fun ⟨outcome, hmem⟩ => ⟨outcome, List.mem_append_left _ hmem⟩
  halted ask hask error hmem hne := by
    obtain ⟨hinactive, hwaiting⟩ :=
      h.halted ask hask error (finished_mem_append_aside hmore hmem) hne
    exact ⟨fun hactive => hinactive (hphase hactive).1, hcalls ▸ hwaiting⟩

/-- A call that waited goes on. -/
lemma removeCall (h : Books session start asked next none notes block link) {call : Call}
    (hmem : call ∈ link.calls) :
    Books session start asked next (some call.id) notes block (link.removeCall call.id) where
  trace := h.trace
  current := h.current
  ledger := h.ledger.sublist (List.filter_subset_self _)
  sorted := h.sorted
  lt := h.lt
  ended_lt := h.ended_lt
  ended id outcome hover := by
    obtain ⟨-, hcalls⟩ := h.ended id outcome hover
    exact ⟨fun heq => hcalls call hmem (Option.some.inj heq),
      fun other hother => hcalls other (List.mem_of_mem_filter hother)⟩
  settled ask hask := by
    rcases h.settled ask hask with hrunner | ⟨other, hother, hid⟩ | hover
    · cases hrunner
    · by_cases heq : other.id = call.id
      · exact .inl (by rw [← heq, hid])
      · exact .inr (.inl ⟨other, mem_removeCall hother heq, hid⟩)
    · exact .inr (.inr hover)
  halted ask hask error hfailed hne := by
    obtain ⟨hinactive, hwaiting⟩ := h.halted ask hask error hfailed hne
    exact ⟨hinactive, fun other hother => hwaiting other (List.mem_of_mem_filter hother)⟩

/-- The call that runs begins to wait. -/
lemma suspend {call : Call} (h : Books session start asked next (some call.id) notes block link)
    (hactive : link.phase = .active) (hask : (call.id, messages) ∈ asked)
    (hposition : Position session messages (block call.id) call) :
    Books session start asked next none notes block (link.suspend call) where
  trace := h.trace
  current := h.current
  ledger := h.ledger.suspend hask hposition
  sorted := h.sorted
  lt := h.lt
  ended_lt := h.ended_lt
  ended id outcome hover := by
    obtain ⟨hrunner, hcalls⟩ := h.ended id outcome hover
    refine ⟨(Option.some_ne_none id).symm, forall_mem_concat hcalls ?_⟩
    exact fun heq => hrunner (congrArg some heq)
  settled ask hask := by
    rcases h.settled ask hask with hrunner | ⟨other, hother, hid⟩ | hover
    · exact .inr (.inl ⟨call, List.mem_concat_self, Option.some.inj hrunner⟩)
    · exact .inr (.inl ⟨other, List.mem_append_left _ hother, hid⟩)
    · exact .inr (.inr hover)
  halted ask hask error hfailed hne := ((h.halted ask hask error hfailed hne).1 hactive).elim

/-- A call ends in a way that fits its block. -/
lemma finish (h : Books session start asked next runner notes block link)
    (hrunner : runner = none ∨ runner = some id) (hlt : id < next)
    (hcalls : ∀ call ∈ link.calls, call.id ≠ id) {outcome : Outcome}
    (hfits : ∀ ask ∈ asked, ask.1 = id → Fits ask.2 (block id) outcome)
    (hlater : ∀ ask ∈ asked, ask.1 = id → ∀ later ∈ asked, id < later.1 → block later.1 = [])
    (hhalted : ∀ ask ∈ asked, ask.1 = id → ∀ error, outcome = .failed error → error ≠ .cancelled →
      link.phase ≠ .active ∧ ∀ call ∈ link.calls, id < call.id → call.stage = .waiting session) :
    Books session start asked next none (notes ++ [.finished id outcome]) block
      (link.finish id outcome) := by
  refine { h with
    trace := ?_
    ledger := h.ledger.finish hfits hlater
    ended_lt := ?_
    ended := ?_
    settled := ?_
    halted := ?_ }
  · change link.trace ++ _ = _
    rw [h.trace, List.append_assoc]
  · intro other result hmem
    rcases finished_mem_concat hmem with hold | ⟨rfl, -⟩
    · exact h.ended_lt other result hold
    · exact hlt
  · intro other result hmem
    refine ⟨(Option.some_ne_none other).symm, ?_⟩
    rcases finished_mem_concat hmem with hold | ⟨rfl, -⟩
    · exact (h.ended other result hold).2
    · exact hcalls
  · intro ask hask
    rcases h.settled ask hask with hrun | hpending | ⟨result, hover⟩
    · -- it is the call that ends
      have hid : ask.1 = id := by
        rcases hrunner with hnone | hsome
        · cases hrun.symm.trans hnone
        · exact Option.some.inj (hrun.symm.trans hsome)
      rw [hid]
      exact .inr (.inr ⟨outcome, List.mem_concat_self⟩)
    · exact .inr (.inl hpending)
    · exact .inr (.inr ⟨result, List.mem_append_left _ hover⟩)
  · intro ask hask error hmem hne
    rcases finished_mem_concat hmem with hold | ⟨hid, houtcome⟩
    · exact h.halted ask hask error hold hne
    · rw [hid]
      exact hhalted ask hask hid error houtcome.symm hne

/-- The call that runs has written its next message. -/
lemma write (h : Books session start asked next (some id) notes block link)
    (hask : (id, messages) ∈ asked) {message : Octets} {rest : List Octets}
    (hmessages : messages = block id ++ message :: rest)
    (hlater : ∀ ask ∈ asked, id < ask.1 → block ask.1 = [])
    (hcalls : ∀ call ∈ link.calls, call.id ≠ id)
    (hahead : ∀ ask ∈ asked, ∀ error, .finished ask.1 (.failed error) ∈ notes →
      error ≠ .cancelled → id ≤ ask.1) (fault : Option (SystemError × ℕ)) :
    Books session start asked next (some id) (notes ++ [.written message])
      (Function.update block id (block id ++ [message]))
      ({ link with writeFault := fault }.note (.written message)) := by
  have hmem : ∀ {other : ℕ} {outcome : Outcome},
      .finished other outcome ∈ notes ++ [.written message] → .finished other outcome ∈ notes := by
    intro other outcome hmem
    simpa using hmem
  have hover : ∀ outcome, .finished id outcome ∉ notes :=
    fun outcome hover => (h.ended id outcome hover).1 rfl
  refine { h with
    trace := ?_
    ledger := h.ledger.write h.sorted hask hmessages hlater hcalls hover hahead
    ended_lt := fun other outcome hother => h.ended_lt other outcome (hmem hother)
    ended := fun other outcome hother => h.ended other outcome (hmem hother)
    settled := fun ask hask => (h.settled ask hask).imp_right (Or.imp_right ?_)
    halted := fun ask hask error hfailed => h.halted ask hask error (hmem hfailed) }
  · change link.trace ++ _ = _
    rw [h.trace, List.append_assoc]
  · exact fun ⟨outcome, hold⟩ => ⟨outcome, List.mem_append_left _ hold⟩

/-- A new call is made. -/
lemma ask (h : Books session start asked next none notes block link) (messages : List Octets) :
    Books session start (asked ++ [(next, messages)]) (next + 1) (some next) notes
      (Function.update block next []) link := by
  have hover : ∀ outcome, .finished next outcome ∉ notes :=
    fun outcome hover => Nat.lt_irrefl _ (h.ended_lt next outcome hover)
  refine { h with
    ledger := h.ledger.ask h.lt messages hover
    sorted := ?_
    lt := forall_mem_concat (fun ask hmem => (h.lt ask hmem).trans (Nat.lt_succ_self _))
      (Nat.lt_succ_self _)
    ended_lt := fun other outcome hmem => (h.ended_lt other outcome hmem).trans (Nat.lt_succ_self _)
    ended := fun other outcome hmem => ⟨?_, (h.ended other outcome hmem).2⟩
    settled := forall_mem_concat (fun ask hmem => .inr ?_) (.inl rfl)
    halted := forall_mem_concat h.halted fun error hmem => (hover _ hmem).elim }
  · refine List.pairwise_append.mpr ⟨h.sorted, List.pairwise_singleton .., ?_⟩
    intro ask hmem other hother
    rw [List.mem_singleton.mp hother]
    exact h.lt ask hmem
  · rintro ⟨⟩
    exact hover outcome hmem
  · exact (h.settled ask hmem).resolve_left (fun heq => by cases heq)

lemma fits (h : Books session start asked next runner notes block link)
    (hask : (id, messages) ∈ asked) {outcome : Outcome} (hfits : Fits messages (block id) outcome) :
    ∀ ask ∈ asked, ask.1 = id → Fits ask.2 (block id) outcome := by
  rintro ⟨other, found⟩ hmem rfl
  rwa [messages_unique h.sorted hask hmem]

lemma log (h : Books session start asked next runner notes block link) (level : Level)
    (message : String) : Books session start asked next runner
      (notes ++ [.log ⟨level, .link, message⟩]) block (link.log level message) :=
  h.keep rfl (by simp [IsAside]) (fun hactive => ⟨hactive, rfl⟩) rfl

lemma call_lt (h : Books session start asked next runner notes block link) {call : Call}
    (hmem : call ∈ link.calls) : call.id < next := by
  obtain ⟨messages, hask, -⟩ := h.ledger.pending call hmem
  exact h.lt _ hask

lemma mono (h : Books session start asked next runner notes block link) :
    Books session start asked (next + 1) runner notes block link where
  __ := h
  lt ask hmem := (h.lt ask hmem).trans (Nat.lt_succ_self _)
  ended_lt id outcome hmem := (h.ended_lt id outcome hmem).trans (Nat.lt_succ_self _)

end Books

end PixelPanel.Proofs
