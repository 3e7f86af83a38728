import PixelPanel.Proofs.Link.SerialWrites

/-!
# After a session is lost

Once its session is no longer active, whatever the cause, a link begins no write any more. One write
may still be under way, that of the call which has the lock; it may be recorded when the system lets
it go on. Whoever has anything left to write is told that the session is lost, and so is everyone who
comes later.
-/

namespace PixelPanel.Proofs
open Link

/-- An error that tells of a lost session. -/
def IsLoss : CallError → Prop
  | .notConnected | .writeFailed _ => True
  | _ => False

/-- What has become of a session that was lost `before`, with the notes of the time since. -/
structure Lost (session : ℕ) (before : Link) (after : List Event) (notes : List Note) (link : Link) :
    Prop where
  phase : link.phase ≠ .active
  calls : link.calls ⊆ before.calls
  trace : link.trace = before.trace ++ notes
  writes : notes.filterMap Note.written? = [] ∨ ∃ call ∈ before.calls, ∃ message,
    call.stage = .writing session session message ∧ notes.filterMap Note.written? = [message] ∧
    ∀ other ∈ link.calls, other.isWriting = false
  fresh : ∀ ask ∈ sends before.clock after, .finished ask.1 (.failed .notConnected) ∈ notes
  fate : ∀ call ∈ before.calls, (∃ message, .write message ∈ call.actions) →
    call ∈ link.calls ∨ .cancel call.id ∈ after ∨
      ∃ error, IsLoss error ∧ .finished call.id (.failed error) ∈ notes

variable {session next : ℕ} {start before link link' : Link} {asked : List (ℕ × List Octets)}
  {after : List Event} {notes more : List Note}

namespace Lost

/-- Nothing is written, and no call goes on. -/
lemma keep (h : Lost session before after notes link) (hphase : link'.phase ≠ .active)
    (hcalls : link'.calls = link.calls) (htrace : link'.trace = link.trace ++ more)
    (hwrites : more.filterMap Note.written? = []) :
    Lost session before after (notes ++ more) link' where
  phase := hphase
  calls := hcalls ▸ h.calls
  trace := by rw [htrace, h.trace, List.append_assoc]
  writes := by
    rw [List.filterMap_append, hwrites, List.append_nil, hcalls]
    exact h.writes
  fresh ask hmem := List.mem_append_left _ (h.fresh ask hmem)
  fate call hmem hmore := by
    rw [hcalls]
    refine (h.fate call hmem hmore).imp_right (Or.imp_right ?_)
    exact fun ⟨error, hloss, hover⟩ => ⟨error, hloss, List.mem_append_left _ hover⟩

/-- A call goes on and ends; if it was in a write, this may be recorded. -/
lemma release (h : Lost session before after notes link) (hphase : link'.phase ≠ .active)
    {call : Call} (hmem : call ∈ link.calls)
    (honly : ∀ other ∈ link.calls, other.id = call.id → other = call)
    (hcalls : link'.calls = (link.removeCall call.id).calls)
    (htrace : link'.trace = link.trace ++ more)
    (hwrites : more.filterMap Note.written? = [] ∨ ∃ message,
      call.stage = .writing session session message ∧ more.filterMap Note.written? = [message] ∧
      ∀ other ∈ (link.removeCall call.id).calls, other.isWriting = false)
    (hfate : (∃ message, .write message ∈ call.actions) → .cancel call.id ∈ after ∨
      ∃ error, IsLoss error ∧ .finished call.id (.failed error) ∈ more) :
    Lost session before after (notes ++ more) link' where
  phase := hphase
  calls := by
    rw [hcalls]
    exact fun other hother => h.calls (List.mem_of_mem_filter hother)
  trace := by rw [htrace, h.trace, List.append_assoc]
  writes := by
    rw [List.filterMap_append, hcalls]
    rcases hwrites with hnone | ⟨message, hstage, hone, hothers⟩
    · rw [hnone, List.append_nil]
      refine h.writes.imp_right ?_
      rintro ⟨owner, howner, message, hstage, hone, hothers⟩
      exact ⟨owner, howner, message, hstage, hone,
        fun other hother => hothers other (List.mem_of_mem_filter hother)⟩
    · -- no write was recorded before, since this one was under way
      have hbefore : notes.filterMap Note.written? = [] := by
        refine h.writes.resolve_right ?_
        rintro ⟨owner, howner, sent, hwriting, hsent, hquiet⟩
        have hidle := hquiet call hmem
        rw [Call.isWriting, hstage] at hidle
        cases hidle
      rw [hbefore, hone, List.nil_append]
      exact .inr ⟨call, h.calls hmem, message, hstage, rfl, hothers⟩
  fresh ask hask := List.mem_append_left _ (h.fresh ask hask)
  fate other hother hmore := by
    rcases h.fate other hother hmore with hpending | hcancelled | ⟨error, hloss, hover⟩
    · by_cases heq : other.id = call.id
      · obtain rfl := honly other hpending heq
        refine .inr ((hfate hmore).imp_right ?_)
        rintro ⟨error, hloss, hover⟩
        exact ⟨error, hloss, List.mem_append_right _ hover⟩
      · rw [hcalls]
        exact .inl (mem_removeCall hpending heq)
    · exact .inr (.inl hcancelled)
    · exact .inr (.inr ⟨error, hloss, List.mem_append_left _ hover⟩)

/-- A call that had the lock ends and hands it over. -/
lemma close (h : Lost session before after notes link) (middle : Link)
    (hphase : middle.phase ≠ .active) {call : Call} (hmem : call ∈ link.calls)
    (honly : ∀ other ∈ link.calls, other.id = call.id → other = call)
    (hcalls : middle.calls = (link.removeCall call.id).calls)
    (htrace : middle.trace = link.trace ++ more)
    (hwrites : more.filterMap Note.written? = [] ∨ ∃ message,
      call.stage = .writing session session message ∧ more.filterMap Note.written? = [message] ∧
      ∀ other ∈ (link.removeCall call.id).calls, other.isWriting = false) {outcome : Outcome}
    (hfate : (∃ message, .write message ∈ call.actions) → .cancel call.id ∈ after ∨
      ∃ error, IsLoss error ∧ outcome = .failed error) :
    Lost session before after (notes ++ (more ++ [.finished call.id outcome]))
      ((middle.handOver session).finish call.id outcome) := by
  refine h.release ?_ hmem honly ((calls_handOver _).trans hcalls) ?_ ?_ fun hwrite => ?_
  · exact fun hactive => hphase ((phase_handOver _).symm.trans hactive)
  · change (middle.handOver session).trace ++ _ = _
    rw [trace_handOver, htrace, List.append_assoc]
  · have hlast : [Note.finished call.id outcome].filterMap Note.written? = [] := rfl
    rw [List.filterMap_append, hlast, List.append_nil]
    exact hwrites
  · refine (hfate hwrite).imp_right ?_
    rintro ⟨error, hloss, rfl⟩
    exact ⟨error, hloss, List.mem_concat_self⟩

/-- Another event, after which every new send has failed. -/
lemma extend (h : Lost session before after notes link) {event : Event}
    (hfresh : ∀ ask ∈ sends (before.clock + after.length) [event],
      .finished ask.1 (.failed .notConnected) ∈ notes) :
    Lost session before (after ++ [event]) notes link where
  __ := h
  fresh := by
    rw [sends_append]
    exact List.forall_mem_append.mpr ⟨h.fresh, hfresh⟩
  fate call hmem hmore := (h.fate call hmem hmore).imp_right
    (Or.imp_left (List.mem_append_left _))

lemma aside (h : Lost session before after notes link) (haside : Aside link link') :
    ∃ more, Lost session before after (notes ++ more) link' := by
  obtain ⟨more, htrace, hmore⟩ := haside.trace
  exact ⟨more, h.keep (fun hactive => h.phase (haside.phase hactive).1) haside.calls htrace
    (filterMap_aside hmore)⟩

lemma finish (h : Lost session before after notes link) (id : ℕ) (outcome : Outcome) :
    Lost session before after (notes ++ [.finished id outcome]) (link.finish id outcome) :=
  h.keep h.phase rfl rfl rfl

end Lost

/-! ### Turns -/

/-- A call that has the lock and goes on after the session is lost. -/
lemma perform_lost (hphase : link.phase ≠ .active) (id : ℕ) (remaining : List Octets) :
    perform id .plain (some session) (remaining.map .write ++ [.release]) link =
      (link.handOver session).finish id
        (if remaining = [] then .done else .failed .notConnected) := by
  cases remaining with
  | nil => rfl
  | cons message rest =>
    rw [List.map_cons, List.cons_append, perform]
    split
    · rename_i hactive _
      exact (hphase hactive).elim
    · rfl

lemma exists_write_of_actions {remaining : List Octets}
    (h : ∃ message, Action.write message ∈ remaining.map .write ++ [.release]) : remaining ≠ [] := by
  rintro rfl
  obtain ⟨message, hmem⟩ := h
  simp at hmem

lemma Lost.turn (h : Lost session before after notes link)
    (hserial : Serial session start asked next link) {wake : Wake} {rest : List Wake}
    (hwakes : link.wakes = wake :: rest) :
    ∃ more, Lost session before after (notes ++ more) ({ link with wakes := rest }.resume wake) := by
  cases hworker : workerOf? wake with
  | some worker =>
    have hpop : Lost session before after notes { link with wakes := rest } := { h with }
    exact hpop.aside (aside_of_works (resume_works hworker))
  | none =>
    obtain ⟨old, block, hbooks, hlock⟩ := hserial
    obtain ⟨owner, howns, rfl, -⟩ := hlock.owner_of_turn hwakes hworker
    have hmem := howns.mem
    obtain ⟨messages, -, hposition⟩ := hbooks.ledger.pending owner hmem
    have hunique := fun other (hother : other ∈ link.calls) => howns.eq_of_id hother
    have hpopped : Owns session asked block { link with wakes := rest } owner := howns.congr rfl
    rw [resume, hpopped.resumeCall_eq]
    cases hposition with
    | waiting id hblock =>
      dsimp only
      rw [@perform_lost _ (removeCall { link with wakes := rest } id) h.phase]
      refine ⟨_, h.close (removeCall { link with wakes := rest } id) h.phase hmem hunique rfl
        (List.append_nil _).symm (.inl rfl) fun hwrite => ?_⟩
      rw [if_neg (exists_write_of_actions hwrite)]
      exact .inr ⟨.notConnected, trivial, rfl⟩
    | writing id message remaining hmessages =>
      dsimp only
      rcases tryWrite_cases (removeCall { link with wakes := rest } id) session message
        with ⟨fault, htry⟩ | ⟨error, htry⟩
      · -- this is the one write that may still be recorded
        rw [htry]
        dsimp only
        rw [perform_lost (by exact h.phase)]
        refine ⟨[.written message] ++ [.finished id _], h.close _ ?_ hmem hunique ?_ ?_
          (.inr ⟨message, rfl, rfl, fun other => howns.queue.not_writing⟩) fun hwrite => ?_⟩
        · exact h.phase
        · rfl
        · rfl
        · rw [if_neg (exists_write_of_actions hwrite)]
          exact .inr ⟨.notConnected, trivial, rfl⟩
      · rw [htry]
        refine ⟨_, h.close ((removeCall { link with wakes := rest } id).retire _)
          Phase.noConfusion hmem hunique (calls_retire _) (trace_retire _) (.inl ?_) fun _ =>
          .inr ⟨.writeFailed error, trivial, rfl⟩⟩
        split <;> rfl

/-! ### Events -/

lemma Lost.cancel (h : Lost session before after notes link)
    (hserial : Serial session start asked next link) {id : ℕ} (hid : .cancel id ∈ after) :
    ∃ more, Lost session before after (notes ++ more) (link.cancel id) := by
  unfold Link.cancel
  split
  · exact ⟨[], by rwa [List.append_nil]⟩
  · rename_i call hfind
    obtain ⟨hmem, rfl⟩ := mem_of_find?_id hfind
    obtain ⟨old, block, hbooks, hlock⟩ := hserial
    have hunique := fun other (hother : other ∈ link.calls) => hlock.eq_of_id hother hmem
    obtain ⟨messages, -, hposition⟩ := hbooks.ledger.pending call hmem
    cases hposition with
    | waiting id hblock =>
      exact ⟨[.finished id (.failed .cancelled)],
        h.release h.phase hmem hunique rfl rfl (.inl rfl) fun _ => .inl hid⟩
    | writing id message remaining hmessages =>
      exact ⟨_, h.close (link.removeCall id) h.phase hmem hunique rfl
        (List.append_nil _).symm (.inl rfl) fun _ => .inl hid⟩

lemma Lost.send (h : Lost session before after notes link) (messages : List Octets) :
    Lost session before (after ++ [.send messages])
      (notes ++ [.finished (before.clock + after.length) (.failed .notConnected)])
      (perform (before.clock + after.length) .plain none (Action.batch messages) link) := by
  have hperform : perform (before.clock + after.length) .plain none (Action.batch messages) link =
      link.finish (before.clock + after.length) (.failed .notConnected) := by
    rw [Action.batch, List.cons_append, perform]
    split
    · rename_i hactive _
      exact (h.phase hactive).elim
    · rfl
  rw [hperform]
  refine (h.finish _ _).extend fun ask hask => ?_
  obtain rfl := List.mem_singleton.mp hask
  exact List.mem_concat_self

lemma Lost.act (h : Lost session before after notes link)
    (hserial : Serial session start asked next link) (hclock : next = before.clock + after.length)
    {event : Event} (hevent : event.connects → link.phase = .active) :
    ∃ more, Lost session before (after ++ [event]) (notes ++ more) (link.act next event) := by
  have hlater : event.messages? = none → Lost session before (after ++ [event]) notes link := by
    intro hnone
    refine h.extend ?_
    rw [sends_of_none hnone]
    exact List.forall_mem_nil _
  cases hconcerns : event.concernsCalls with
  | false =>
    obtain ⟨middle, haside, hact⟩ := act_of_concernsCalls_eq_false hconcerns next
    obtain ⟨more, hmiddle⟩ := (hlater (messages?_of_concernsCalls hconcerns)).aside haside
    rcases hact with hact | ⟨outcome, hact⟩
    · rw [hact]
      exact ⟨more, hmiddle⟩
    · rw [hact]
      have hfinished := hmiddle.finish next outcome
      rw [List.append_assoc] at hfinished
      exact ⟨_, hfinished⟩
  | true =>
    cases event with
    | connect answer => exact (h.phase (hevent rfl)).elim
    | scope sent raises answer => exact (h.phase (hevent rfl)).elim
    | answer answer =>
      rw [Link.act, hserial.answerYoungest answer]
      exact (hlater rfl).aside (Aside.refl link)
    | cancel call => exact (hlater rfl).cancel hserial List.mem_concat_self
    | send sent =>
      rw [hclock]
      exact ⟨_, h.send sent⟩
    | releaseWrites =>
      refine ⟨[], ?_⟩
      rw [List.append_nil]
      exact { hlater rfl with }
    | _ => cases hconcerns

/-! ### Runs -/

lemma Lost.step (h : Lost session before after notes link)
    (hserial : Serial session start asked link.clock link) (hwakes : link.wakes = [])
    (hclock : link.clock = before.clock + after.length) {event : Event}
    (hevent : event.connects → link.phase = .active) :
    ∃ more, Lost session before (after ++ [event]) (notes ++ more) (link.step event) := by
  have hmoments := drain_induction (P := fun moment =>
    Serial session start (asked ++ sends link.clock [event]) (link.clock + 1) moment ∧
      ∃ more, Lost session before (after ++ [event]) (notes ++ more) moment)
    (fun moment wake rest hmoment hwakes => by
      obtain ⟨hserial, more, hlost⟩ := hmoment
      obtain ⟨later, hturn⟩ := hlost.turn hserial hwakes
      exact ⟨hserial.turn hwakes, more ++ later, by rwa [← List.append_assoc]⟩)
    (link.act link.clock event).load _
    ⟨serial_act hserial hwakes hevent, h.act hserial hclock hevent⟩
  obtain ⟨-, more, hlost⟩ := hmoments
  exact ⟨more, { hlost with }⟩

/-- A session that has just begun. -/
def opened : Link := sampleLink.step (.connect .accepted)

/-- While one send waits in its first write and another for the lock, the device closes the session;
then the writes go on. -/
def closing : List Event :=
  [.holdWrites, .send [[1], [2]], .send [[3]], .deviceCloses, .releaseWrites, .send [[4]]]

end PixelPanel.Proofs
