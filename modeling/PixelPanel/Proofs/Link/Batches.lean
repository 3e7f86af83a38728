import PixelPanel.Proofs.Link.SerialWrites
import PixelPanel.Proofs.Link.Tokens

/-!
# Batches

A send writes its messages in one turn: whenever it has to wait, it has all of them ahead, since it
can be held back only before its first message. So the messages of a send stand next to each other in
all that was sent, however many sessions have come and gone. The messages stay in the session of their
call as long as no call outlives its session into the next one.
-/

namespace PixelPanel.Proofs
open Link

/-- The messages of a send that went out are the first of those that it was to send, and stand next to
each other. -/
def Unbroken (ask : ℕ × List Octets) (sent : List Sent) : Prop :=
  ∃ before mine after, sent = before ++ mine ++ after ∧ mine.map Sent.message <+: ask.2 ∧
    (∀ one ∈ mine, one.call = ask.1) ∧ ∀ one ∈ before ++ after, one.call ≠ ask.1

/-- A call that waits has all of these messages ahead. -/
def Ahead (messages : List Octets) (call : Call) : Prop :=
  (∃ lock, call.stage = .waiting lock ∧ call.actions = messages.map .write ++ [.release]) ∨
    ∃ lock socket message rest, call.stage = .writing lock socket message ∧
      messages = message :: rest ∧ call.actions = rest.map .write ++ [.release]

/-- Batches at a moment: what was sent until then, and the sends that were made, numbered below
`next`. -/
structure Batches (next : ℕ) (asked : List (ℕ × List Octets)) (sent : List Sent) (link : Link) :
    Prop where
  tokens : Tokens next none none link
  sent_lt : ∀ one ∈ sent, one.call < next
  asked_lt : ∀ ask ∈ asked, ask.1 < next
  unbroken : ∀ ask ∈ asked, Unbroken ask sent
  ahead : ∀ ask ∈ asked, ∀ call ∈ link.calls, call.id = ask.1 →
    (∀ one ∈ sent, one.call ≠ ask.1) ∧ Ahead ask.2 call

variable {next id lock : ℕ} {link link' : Link} {call : Call} {asked : List (ℕ × List Octets)}
  {sent more : List Sent} {messages remaining : List Octets}

/-! ### What a call that runs sends -/

lemma call_of_mem_sentPerforming (held : Option ℕ) (actions : List Action) (link : Link) :
    ∀ one ∈ sentPerforming id held actions link, one.call = id := by
  induction actions generalizing held link with
  | nil =>
    rw [sentPerforming]
    exact List.forall_mem_nil _
  | cons action rest ih =>
    cases action with
    | acquire =>
      rw [sentPerforming]
      split
      · split
        · exact List.forall_mem_nil _
        · exact ih _ link
      · exact List.forall_mem_nil _
    | write message =>
      rw [sentPerforming]
      split
      · dsimp only
        split
        · exact List.forall_mem_nil _
        · split
          · exact List.forall_mem_cons.mpr ⟨rfl, ih _ _⟩
          · exact List.forall_mem_nil _
      · exact List.forall_mem_nil _
    | release =>
      cases held <;> rw [sentPerforming] <;> exact ih _ _

/-- The calls that wait are those that waited before, and the call that ran. -/
lemma mem_calls_perform (ending : Ending) (held : Option ℕ) (actions : List Action) (link : Link) :
    ∀ call ∈ (perform id ending held actions link).calls, call ∈ link.calls ∨ call.id = id := by
  refine perform_induction (P := fun link' => link'.calls = link.calls)
    (Q := fun link' => ∀ call ∈ link'.calls, call ∈ link.calls ∨ call.id = id) ?_ ?_ ?_ ?_ ?_ ?_ ?_
    held actions link rfl
  · exact fun _ _ h => h
  · exact fun _ lock h => (calls_handOver lock).trans h
  · exact fun _ _ _ h _ _ _ => forall_mem_concat (fun call hmem => .inl (h ▸ hmem)) (.inr rfl)
  · exact fun _ _ _ _ _ h _ _ _ => forall_mem_concat (fun call hmem => .inl (h ▸ hmem)) (.inr rfl)
  · exact fun _ socket message h _ _ => (calls_tryWrite socket message).trans h
  · exact fun _ reason h _ => (calls_retire reason).trans h
  · intro link' outcome h call hmem
    rw [calls_conclude, h] at hmem
    exact .inl hmem

lemma calls_abandon (ending : Ending) (held : Option ℕ) (error : CallError) :
    (link.abandon id ending held error).calls = link.calls := by
  cases held with
  | none => exact calls_conclude ..
  | some lock => exact (calls_conclude ..).trans (calls_handOver lock)

lemma calls_failWrite (ending : Ending) (held : Option ℕ) (error : SystemError) :
    (link.failWrite id ending held error).calls = link.calls :=
  (calls_abandon ..).trans (calls_retire _)

lemma calls_perform_release (ending : Ending) (held : Option ℕ) :
    (perform id ending held [.release] link).calls = link.calls := by
  cases held with
  | none => exact calls_conclude ..
  | some lock => exact (calls_conclude ..).trans (calls_handOver lock)

/-- A send that has the lock sends the first of the messages that remain. -/
lemma sentPerforming_batch (held : Option ℕ) (remaining : List Octets) (link : Link) :
    (sentPerforming id held (remaining.map .write ++ [.release]) link).map Sent.message <+:
      remaining := by
  induction remaining generalizing link with
  | nil => cases held <;> exact List.prefix_rfl
  | cons message rest ih =>
    rw [List.map_cons, List.cons_append, sentPerforming]
    split
    · dsimp only
      split
      · exact List.nil_prefix
      · split
        · rw [List.map_cons]
          exact (List.prefix_cons_inj message).mpr (ih _)
        · exact List.nil_prefix
    · exact List.nil_prefix

/-- A send that has the lock does not wait again unless writes are held back. -/
lemma calls_perform_batch (hfree : link.writesHeld = false) (ending : Ending) (held : Option ℕ)
    (remaining : List Octets) :
    (perform id ending held (remaining.map .write ++ [.release]) link).calls = link.calls := by
  induction remaining generalizing link with
  | nil => exact calls_perform_release ..
  | cons message rest ih =>
    rw [List.map_cons, List.cons_append, perform]
    split
    · rename_i socket _ _
      have hstill : (link.log .debug ("Sending: " ++ Hex.encode message)).writesHeld = false := hfree
      dsimp only
      rw [hstill, if_neg Bool.false_ne_true]
      rcases tryWrite_cases (link.log .debug ("Sending: " ++ Hex.encode message)) socket message
        with ⟨fault, htry⟩ | ⟨error, htry⟩
      · rw [htry]
        exact ih hstill
      · rw [htry]
        exact calls_failWrite ..
    · exact calls_abandon ..

/-- If a send that has the lock has to wait, then for its first message. -/
lemma ahead_of_mem_perform (ending : Ending) (held : Option ℕ) (remaining : List Octets)
    (hmem : call ∈ (perform id ending held (remaining.map .write ++ [.release]) link).calls)
    (hnew : call ∉ link.calls) :
    sentPerforming id held (remaining.map .write ++ [.release]) link = [] ∧
      Ahead remaining call := by
  cases hheld : link.writesHeld with
  | false =>
    rw [calls_perform_batch hheld] at hmem
    exact (hnew hmem).elim
  | true =>
    cases remaining with
    | nil =>
      rw [List.map_nil, List.nil_append, calls_perform_release] at hmem
      exact (hnew hmem).elim
    | cons message rest =>
      rw [List.map_cons, List.cons_append, perform] at hmem
      rw [List.map_cons, List.cons_append, sentPerforming]
      split at hmem
      · rename_i socket hphase hcurrent
        have hstill : (link.log .debug ("Sending: " ++ Hex.encode message)).writesHeld := hheld
        simp only [hphase, hcurrent, if_pos hstill] at hmem ⊢
        have hlast := (List.mem_append.mp hmem).resolve_left hnew
        rw [List.mem_singleton.mp hlast]
        exact ⟨trivial, .inr ⟨_, _, _, rest, rfl, rfl, rfl⟩⟩
      · rw [calls_abandon] at hmem
        exact (hnew hmem).elim

/-! ### What was sent, and what is sent next -/

/-- What another call sends leaves a batch as it is. -/
lemma Unbroken.append {ask : ℕ × List Octets} (h : Unbroken ask sent)
    (hmore : ∀ one ∈ more, one.call ≠ ask.1) : Unbroken ask (sent ++ more) := by
  obtain ⟨before, mine, after, rfl, hinitial, hmine, hothers⟩ := h
  refine ⟨before, mine, after ++ more, (List.append_assoc ..), hinitial, hmine, ?_⟩
  rw [← List.append_assoc]
  exact List.forall_mem_append.mpr ⟨hothers, hmore⟩

/-- What a send has sent all at once is its batch. -/
lemma unbroken_last {ask : ℕ × List Octets} (hsent : ∀ one ∈ sent, one.call ≠ ask.1)
    (hinitial : more.map Sent.message <+: ask.2) (hmore : ∀ one ∈ more, one.call = ask.1) :
    Unbroken ask (sent ++ more) :=
  ⟨sent, more, [], (List.append_nil _).symm, hinitial, hmore, by rwa [List.append_nil]⟩

namespace Batches

lemma mono (h : Batches next asked sent link) : Batches (next + 1) asked sent link where
  tokens := h.tokens.mono (Nat.le_succ next)
  sent_lt one hmem := (h.sent_lt one hmem).trans (Nat.lt_succ_self next)
  asked_lt ask hmem := (h.asked_lt ask hmem).trans (Nat.lt_succ_self next)
  unbroken := h.unbroken
  ahead := h.ahead

/-- A call has run. If it was a send, then it had sent nothing before, and has everything ahead if it
waits again. -/
lemma extend (h : Batches next asked sent link) (htokens : Tokens next none none link')
    (hlt : id < next) (hmore : ∀ one ∈ more, one.call = id)
    (hothers : ∀ call ∈ link'.calls, call ∈ link.calls ∨ call.id = id)
    (hmine : ∀ ask ∈ asked, ask.1 = id → (∀ one ∈ sent, one.call ≠ id) ∧
      more.map Sent.message <+: ask.2 ∧
      ∀ call ∈ link'.calls, call.id = id → more = [] ∧ Ahead ask.2 call) :
    Batches next asked (sent ++ more) link' where
  tokens := htokens
  sent_lt := by
    refine List.forall_mem_append.mpr ⟨h.sent_lt, fun one hmem => ?_⟩
    rw [hmore one hmem]
    exact hlt
  asked_lt := h.asked_lt
  unbroken ask hask := by
    by_cases hid : ask.1 = id
    · obtain ⟨hnone, hinitial, -⟩ := hmine ask hask hid
      exact unbroken_last (hid ▸ hnone) hinitial (hid ▸ hmore)
    · refine (h.unbroken ask hask).append fun one hmem => ?_
      rw [hmore one hmem]
      exact Ne.symm hid
  ahead ask hask call hmem hcall := by
    by_cases hid : ask.1 = id
    · obtain ⟨hnone, -, hwaits⟩ := hmine ask hask hid
      obtain ⟨hempty, hahead⟩ := hwaits call hmem (hcall.trans hid)
      rw [hempty, List.append_nil, hid]
      exact ⟨hnone, hahead⟩
    · have hold := (hothers call hmem).resolve_right fun heq => hid (hcall.symm.trans heq)
      obtain ⟨hnone, hahead⟩ := h.ahead ask hask call hold hcall
      refine ⟨List.forall_mem_append.mpr ⟨hnone, fun one hone => ?_⟩, hahead⟩
      rw [hmore one hone]
      exact Ne.symm hid

/-- Nothing is sent, and no call begins to wait. -/
lemma quiet (h : Batches next asked sent link) (htokens : Tokens next none none link')
    (hcalls : link'.calls ⊆ link.calls) : Batches next asked (sent ++ []) link' := by
  rw [List.append_nil]
  exact { h with
    tokens := htokens
    ahead := fun ask hask call hmem => h.ahead ask hask call (hcalls hmem) }

end Batches

/-! ### Turns -/

lemma id_ne_of_mem_removeCall (hmem : call ∈ (link.removeCall id).calls) : call.id ≠ id := by
  simpa using (List.mem_filter.mp hmem).2

lemma Batches.acquired (h : Batches next asked sent link) (hmem : call ∈ link.calls)
    (hstage : call.stage = .waiting lock) {start : Link}
    (hcalls : start.calls = (link.removeCall call.id).calls)
    (htokens : Tokens next none none (perform call.id call.ending (some lock) call.actions start)) :
    Batches next asked (sent ++ sentPerforming call.id (some lock) call.actions start)
      (perform call.id call.ending (some lock) call.actions start) := by
  refine h.extend htokens (h.tokens.lt call hmem) (call_of_mem_sentPerforming _ _ _)
    (fun other hother => ?_) fun ask hask hid => ?_
  · refine (mem_calls_perform _ _ _ _ other hother).imp_left fun hold => ?_
    rw [hcalls] at hold
    exact List.mem_of_mem_filter hold
  · obtain ⟨hnone, hahead⟩ := h.ahead ask hask call hmem hid.symm
    rcases hahead with ⟨_, -, hactions⟩ | ⟨_, _, _, _, hwriting, -⟩
    · rw [hactions]
      refine ⟨hid ▸ hnone, sentPerforming_batch .., fun other hother hsame => ?_⟩
      refine ahead_of_mem_perform _ _ _ hother ?_
      rw [hcalls]
      exact fun hold => id_ne_of_mem_removeCall hold hsame
    · cases hstage.symm.trans hwriting

/-- A call whose message has been taken goes on. -/
lemma Batches.wrote (h : Batches next asked sent link) (hmem : call ∈ link.calls) {socket : ℕ}
    {message : Octets} (hstage : call.stage = .writing lock socket message) {start : Link}
    (hcalls : start.calls = (link.removeCall call.id).calls) (hfree : start.writesHeld = false)
    (htokens : Tokens next none none (perform call.id call.ending (some lock) call.actions start)) :
    Batches next asked (sent ++
        (⟨call.id, lock, socket, message⟩ :: sentPerforming call.id (some lock) call.actions start))
      (perform call.id call.ending (some lock) call.actions start) := by
  refine h.extend htokens (h.tokens.lt call hmem)
    (List.forall_mem_cons.mpr ⟨rfl, call_of_mem_sentPerforming _ _ _⟩)
    (fun other hother => ?_) fun ask hask hid => ?_
  · refine (mem_calls_perform _ _ _ _ other hother).imp_left fun hold => ?_
    rw [hcalls] at hold
    exact List.mem_of_mem_filter hold
  · obtain ⟨hnone, hahead⟩ := h.ahead ask hask call hmem hid.symm
    rcases hahead with ⟨_, hwaiting, -⟩ | ⟨_, _, _, rest, hwriting, hmessages, hactions⟩
    · cases hstage.symm.trans hwaiting
    · obtain ⟨-, -, rfl⟩ := Stage.writing.inj (hstage.symm.trans hwriting)
      rw [hactions, hmessages, List.map_cons]
      refine ⟨hid ▸ hnone, (List.prefix_cons_inj message).mpr (sentPerforming_batch ..),
        fun other hother hsame => ?_⟩
      -- the writes go on, so the send does not wait any more
      rw [calls_perform_batch hfree, hcalls] at hother
      exact (id_ne_of_mem_removeCall hother hsame).elim

lemma Batches.call_turn (h : Batches next asked sent link) {rest : List Wake}
    (hwakes : link.wakes = .call id :: rest) :
    Batches next asked (sent ++ sentResuming { link with wakes := rest } id)
      (resumeCall { link with wakes := rest } id) := by
  have htokens : Tokens next none none (resumeCall { link with wakes := rest } id) :=
    h.tokens.turn hwakes
  rw [resumeCall] at htokens ⊢
  rw [sentResuming]
  cases hfind : link.calls.find? (fun call => call.id == id) with
  | none =>
    simp only [hfind] at htokens ⊢
    exact h.quiet htokens (List.Subset.refl _)
  | some call =>
    obtain ⟨hmem, rfl⟩ := mem_of_find?_id hfind
    cases hstage : call.stage with
    | opening socket =>
      simp only [hfind, hstage] at htokens ⊢
      exact h.quiet htokens (List.Subset.refl _)
    | waiting lock =>
      simp only [hfind, hstage] at htokens ⊢
      exact h.acquired hmem hstage rfl htokens
    | writing lock socket message =>
      simp only [hfind, hstage] at htokens ⊢
      have hfree : link.writesHeld = false := by
        refine Bool.eq_false_iff.mpr fun hheld => h.tokens.still hheld call hmem ?_ ?_
        · rw [Call.isWriting, hstage]
        · rw [callers, hwakes]
          exact List.mem_cons_self
      rcases tryWrite_cases (removeCall { link with wakes := rest } call.id) socket message
        with ⟨fault, htry⟩ | ⟨error, htry⟩
      · rw [htry] at htokens ⊢
        refine h.wrote hmem hstage ?_ ?_ htokens
        · rfl
        · exact hfree
      · rw [htry] at htokens ⊢
        refine h.quiet htokens ?_
        rw [calls_failWrite]
        exact List.filter_subset_self _

lemma Batches.turn (h : Batches next asked sent link) {wake : Wake} {rest : List Wake}
    (hwakes : link.wakes = wake :: rest) :
    Batches next asked (sent ++ sentInTurn { link with wakes := rest } wake)
      ({ link with wakes := rest }.resume wake) := by
  have htokens := h.tokens.turn hwakes
  have hworks : ∀ {session : ℕ}, workerOf? wake = some session →
      ({ link with wakes := rest }.resume wake).calls ⊆ link.calls := by
    intro session hworker
    rw [(@aside_of_works { link with wakes := rest } _ _ (resume_works hworker)).calls]
    exact List.Subset.refl _
  cases wake with
  | call id => exact h.call_turn hwakes
  | leaving id turns outcome =>
    refine h.quiet htokens ?_
    cases turns with
    | zero =>
      change (closeSocket { link with wakes := rest }).calls ⊆ link.calls
      rw [closeSocket_calls]
      exact List.Subset.refl _
    | succ turns => exact List.Subset.refl _
  | worker session => exact h.quiet htokens (hworks rfl)
  | delivery going => exact h.quiet htokens (hworks rfl)
  | returned listener going => exact h.quiet htokens (hworks rfl)

/-! ### Events -/

/-- A call that no send has made runs for the first time, or when its attempt was answered. -/
lemma Batches.join (h : Batches next asked sent link) (hlt : id < next)
    (hnone : ∀ ask ∈ asked, ask.1 ≠ id) {start : Link} (hcalls : start.calls ⊆ link.calls)
    {ending : Ending} {actions : List Action}
    (htokens : Tokens next none none (perform id ending none actions start)) :
    Batches next asked (sent ++ sentPerforming id none actions start)
      (perform id ending none actions start) := by
  refine h.extend htokens hlt (call_of_mem_sentPerforming _ _ _) (fun other hother => ?_)
    fun ask hask hid => (hnone ask hask hid).elim
  exact (mem_calls_perform _ _ _ _ other hother).imp_left fun hold => hcalls hold

lemma Batches.send (h : Batches next asked sent link) (messages : List Octets)
    (htokens : Tokens (next + 1) none none
      (perform next .plain none (Action.batch messages) link)) :
    Batches (next + 1) (asked ++ [(next, messages)])
      (sent ++ sentPerforming next none (Action.batch messages) link)
      (perform next .plain none (Action.batch messages) link) := by
  have hfresh : ∀ one ∈ sent, one.call ≠ next := fun one hmem => (h.sent_lt one hmem).ne
  have hcall : ∀ call ∈ link.calls, call.id ≠ next := fun call hmem => (h.tokens.lt call hmem).ne
  have hasked : Batches (next + 1) (asked ++ [(next, messages)]) sent link := by
    refine ⟨h.mono.tokens, h.mono.sent_lt, forall_mem_concat h.mono.asked_lt (Nat.lt_succ_self _),
      forall_mem_concat h.unbroken ?_, forall_mem_concat h.ahead fun call hmem hid => ?_⟩
    · exact ⟨sent, [], [], by simp, List.nil_prefix, by simp, by simpa using hfresh⟩
    · exact (hcall call hmem hid).elim
  refine hasked.extend htokens (Nat.lt_succ_self _) (call_of_mem_sentPerforming _ _ _)
    (mem_calls_perform _ _ _ _) (forall_mem_concat (fun ask hask hid => ?_) fun _ => ⟨hfresh, ?_⟩)
  · exact absurd (h.asked_lt ask hask) (by omega)
  · rw [Action.batch, List.cons_append]
    rcases exists_inUse_or link with ⟨session, hphase, hcurrent⟩ | hinactive
    · rw [sentPerforming, perform]
      simp only [hphase, hcurrent]
      split
      · refine ⟨List.nil_prefix, forall_mem_concat (fun call hmem hid => ?_) fun _ => ⟨rfl, ?_⟩⟩
        · exact (hcall call hmem hid).elim
        · exact .inl ⟨session, rfl, rfl⟩
      · exact ⟨sentPerforming_batch .., fun call hmem hid =>
          ahead_of_mem_perform _ _ _ hmem fun hold => hcall call hold hid⟩
    · obtain ⟨hperform, hsent⟩ := @perform_of_not_inUse _ next hinactive .acquire
        Link.Action.noConfusion .plain none (messages.map .write ++ [.release])
      rw [hperform, hsent]
      refine ⟨List.nil_prefix, fun call hmem hid => ?_⟩
      rw [calls_abandon] at hmem
      exact (hcall call hmem hid).elim

end PixelPanel.Proofs
