import PixelPanel.Proofs.Link.Tokens

/-!
# What a link records is true

A call is named by the number of its event. So an outcome that a link has recorded is that of an event
that has happened, and a call that is made now has none yet. A report that a link has told is what some
payload says.
-/

namespace PixelPanel.Link

/-- Whether a note says that a session has begun or that a message was written. -/
def Note.isDeed : Note → Bool
  | .attached _ | .written _ => true
  | _ => false

/-- The call that a wake belongs to. -/
def Wake.call? : Wake → Option ℕ
  | .call id | .leaving id _ _ => some id
  | _ => none

end PixelPanel.Link

namespace PixelPanel.Proofs
open Link

/-- All calls that a link knows of, and all that have ended, have a number below `next`. All reports that
it has told have been decoded. -/
structure Truthful (next : ℕ) (link : Link) : Prop where
  calls : ∀ call ∈ link.calls, call.id < next
  turns : ∀ wake ∈ callTurns link, ∀ id, wake.call? = some id → id < next
  outcomes : ∀ id outcome, .finished id outcome ∈ link.trace → id < next
  reports : ∀ callback report, .told callback report ∈ link.trace → report.IsDecoded

variable {next id : ℕ} {ending : Ending} {link link' : Link}

namespace Truthful

lemma mono (h : Truthful next link) {later : ℕ} (hle : next ≤ later) : Truthful later link where
  calls call hmem := (h.calls call hmem).trans_le hle
  turns wake hmem id hcall := (h.turns wake hmem id hcall).trans_le hle
  outcomes id outcome hmem := (h.outcomes id outcome hmem).trans_le hle
  reports := h.reports

lemma aside (h : Truthful next link) (haside : Aside link link') : Truthful next link' where
  calls := haside.calls ▸ h.calls
  turns := haside.turns ▸ h.turns
  outcomes id outcome hmem := by
    obtain ⟨more, htrace, hmore⟩ := haside.trace
    rw [htrace] at hmem
    exact h.outcomes id outcome (finished_mem_append_aside hmore hmem)
  reports callback report hmem := by
    obtain ⟨more, htrace, hmore⟩ := haside.trace
    rw [htrace] at hmem
    exact (List.mem_append.mp hmem).elim (h.reports callback report) (hmore _)

/-- A note of a session that begins or of a message. -/
lemma note (h : Truthful next link) {seen : Note} (hseen : seen.isDeed) :
    Truthful next (link.note seen) where
  __ := h
  outcomes id outcome hmem := by
    refine h.outcomes id outcome ((List.mem_append.mp hmem).resolve_right fun hlast => ?_)
    rw [← List.mem_singleton.mp hlast] at hseen
    cases hseen
  reports callback report hmem := by
    refine h.reports callback report ((List.mem_append.mp hmem).resolve_right fun hlast => ?_)
    rw [← List.mem_singleton.mp hlast] at hseen
    cases hseen

lemma finish (h : Truthful next link) (hid : id < next) (outcome : Outcome) :
    Truthful next (link.finish id outcome) where
  __ := h
  outcomes other result hmem := by
    rcases finished_mem_concat hmem with hold | ⟨rfl, -⟩
    · exact h.outcomes other result hold
    · exact hid
  reports callback report hmem := by
    refine h.reports callback report ((List.mem_append.mp hmem).resolve_right fun hlast => ?_)
    cases List.mem_singleton.mp hlast

lemma wake (h : Truthful next link) {wakes : List Wake}
    (hwakes : ∀ wake ∈ wakes, ∀ id, wake.call? = some id → id < next) :
    Truthful next (link.wake wakes) where
  __ := h
  turns wake hmem := by
    rw [callTurns, Link.wake, List.filter_append] at hmem
    exact (List.mem_append.mp hmem).elim (h.turns wake) fun hnew =>
      hwakes wake (List.mem_of_mem_filter hnew)

lemma suspend (h : Truthful next link) {call : Call} (hid : call.id < next) :
    Truthful next (link.suspend call) where
  __ := h
  calls := forall_mem_concat h.calls hid

lemma removeCall (h : Truthful next link) (id : ℕ) : Truthful next (link.removeCall id) where
  __ := h
  calls call hmem := h.calls call (List.mem_of_mem_filter hmem)

lemma handOver (h : Truthful next link) (lock : ℕ) : Truthful next (link.handOver lock) := by
  unfold Link.handOver
  split
  · exact h
  · rename_i call hfind
    refine h.wake (List.forall_mem_singleton.mpr fun id hid => ?_)
    obtain rfl := Option.some.inj hid
    exact h.calls call (List.mem_of_find?_eq_some hfind)

lemma conclude (h : Truthful next link) (hid : id < next) (ending : Ending) (outcome : Outcome) :
    Truthful next (link.conclude id ending outcome) := by
  have hleave : ∀ outcome, Truthful next (link.leave id outcome) := by
    intro outcome
    unfold leave
    split
    · exact (h.aside aside_closeSocket).finish hid outcome
    · refine (h.aside aside_stopTasks).wake (List.forall_mem_singleton.mpr fun other hother => ?_)
      obtain rfl := Option.some.inj hother
      exact hid
  unfold Link.conclude
  split
  · exact h.finish hid _
  · exact hleave _
  · exact hleave _

lemma abandon (h : Truthful next link) (hid : id < next) (ending : Ending) (lock : Option ℕ)
    (error : CallError) : Truthful next (link.abandon id ending lock error) := by
  cases lock with
  | none => exact h.conclude hid ending _
  | some lock => exact (h.handOver lock).conclude hid ending _

lemma tryWrite (h : Truthful next link) (socket : ℕ) (message : Octets) :
    Truthful next (link.tryWrite socket message).1 := by
  rcases tryWrite_cases link socket message with ⟨fault, htry⟩ | ⟨error, htry⟩
  · rw [htry]
    have hspent : Truthful next { link with writeFault := fault } := { h with }
    exact hspent.note rfl
  · rw [htry]
    exact h

lemma perform (h : Truthful next link) (hid : id < next) (ending : Ending) (lock : Option ℕ)
    (actions : List Action) : Truthful next (perform id ending lock actions link) := by
  refine perform_induction (P := Truthful next) (Q := Truthful next) ?_ ?_ ?_ ?_ ?_ ?_ ?_ lock actions link h
  · exact fun _ message h => h.aside (aside_log .debug message)
  · exact fun _ lock h => h.handOver lock
  · exact fun _ _ _ h _ _ _ => h.suspend hid
  · exact fun _ _ _ _ _ h _ _ _ => h.suspend hid
  · exact fun _ socket message h _ _ => h.tryWrite socket message
  · exact fun _ reason h _ => h.aside (aside_retire reason)
  · exact fun _ outcome h => h.conclude hid ending outcome

lemma resumeCall (h : Truthful next link) (id : ℕ) : Truthful next (link.resumeCall id) := by
  unfold Link.resumeCall
  split
  · exact h
  · rename_i call hfind
    obtain ⟨hmem, rfl⟩ := mem_of_find?_id hfind
    have hid := h.calls call hmem
    have hremoved := h.removeCall call.id
    split
    · exact h
    · exact hremoved.perform hid ..
    · rename_i lock socket message _
      have htry := hremoved.tryWrite socket message
      split <;> rename_i heq <;> rw [heq] at htry
      · exact htry.perform hid ..
      · exact (htry.aside (aside_retire _)).abandon hid ..

lemma turn (h : Truthful next link) {wake : Wake} {rest : List Wake} (hwakes : link.wakes = wake :: rest) :
    Truthful next ({ link with wakes := rest }.resume wake) := by
  have hpopped : Truthful next { link with wakes := rest } := by
    refine { h with turns := fun other hother => h.turns other ?_ }
    rw [callTurns, hwakes]
    exact (List.sublist_cons_self ..).filter _ |>.subset hother
  cases hworker : workerOf? wake with
  | some worker => exact hpopped.aside (aside_of_works (resume_works hworker))
  | none =>
    have hmine : ∀ id, wake.call? = some id → id < next := by
      refine h.turns wake ?_
      rw [callTurns, hwakes]
      exact List.mem_filter.mpr ⟨List.mem_cons_self, by simp [hworker]⟩
    cases wake with
    | call id => exact hpopped.resumeCall id
    | leaving id turns outcome =>
      cases turns with
      | zero => exact (hpopped.aside aside_closeSocket).finish (hmine id rfl) outcome
      | succ turns => exact hpopped.wake (List.forall_mem_singleton.mpr hmine)
    | worker session => cases hworker
    | delivery going => cases hworker
    | returned listener going => cases hworker

/-! ### Events -/

lemma joined (h : Truthful next link) (socket : ℕ) : Truthful next (link.joined socket) := by
  have hattached : Truthful next (attached link socket) := { h with }
  exact (hattached.note rfl).aside (aside_log ..)

lemma connect (h : Truthful next link) (hid : id < next) (actions : List Action) (ending : Ending)
    (answer : Answer) : Truthful next (link.connect id actions ending answer) := by
  have hconnecting := connecting_connect link id answer
  generalize link.joinedAtOnce? answer = begun at hconnecting
  cases hconnecting with
  | failed clean error haside hresult => exact hresult _ _ ▸ (h.aside haside).finish hid _
  | waiting clean socket haside _ hresult => exact hresult _ _ ▸ (h.aside haside).suspend hid
  | begun clean socket haside _ hresult =>
    exact hresult _ _ ▸ ((h.aside haside).joined socket).perform hid ..

lemma answerYoungest (h : Truthful next link) (answer : Answer) :
    Truthful next (link.answerYoungest answer) := by
  have hanswering := answering_answerYoungest link answer
  generalize link.answerYoungest answer = result at hanswering ⊢
  generalize link.sentAnswering answer = sent at hanswering
  cases hanswering with
  | nothing => exact h
  | ended call hmem clean haside error =>
    exact ((h.removeCall call.id).aside haside).finish (h.calls call hmem) _
  | begun call socket hmem _ => exact ((h.removeCall call.id).joined socket).perform (h.calls call hmem) ..

lemma cancel (h : Truthful next link) (id : ℕ) : Truthful next (link.cancel id) := by
  unfold Link.cancel
  split
  · exact h
  · rename_i call hfind
    obtain ⟨hmem, rfl⟩ := mem_of_find?_id hfind
    have hid := h.calls call hmem
    have hremoved := h.removeCall call.id
    dsimp only
    split
    · exact (hremoved.aside (aside_dropped ..)).finish hid _
    · exact hremoved.abandon hid ..
    · exact hremoved.abandon hid ..

lemma act (h : Truthful next link) (event : Event) : Truthful (next + 1) (link.act next event) := by
  have hlater := h.mono (Nat.le_succ next)
  have hid := Nat.lt_succ_self next
  cases hconcerns : event.concernsCalls with
  | false =>
    obtain ⟨middle, haside, hact⟩ := @act_of_concernsCalls_eq_false link event hconcerns next
    rcases hact with hact | ⟨outcome, hact⟩
    · exact hact ▸ hlater.aside haside
    · exact hact ▸ (hlater.aside haside).finish hid outcome
  | true =>
    cases event with
    | connect answer => exact hlater.connect hid ..
    | scope messages raises answer => exact hlater.connect hid ..
    | answer answer => exact hlater.answerYoungest answer
    | cancel call => exact hlater.cancel call
    | send messages => exact hlater.perform hid ..
    | releaseWrites =>
      have hreleased : Truthful (next + 1) { link with writesHeld := false } := { hlater with }
      refine hreleased.wake fun wake hmem id hcall => ?_
      obtain ⟨call, hcalls, rfl⟩ := List.mem_map.mp hmem
      obtain rfl := Option.some.inj hcall
      exact hlater.calls call (List.mem_of_mem_filter hcalls)
    | _ => cases hconcerns

/-- What a link has recorded stays true. -/
lemma step (h : Truthful link.clock link) (event : Event) :
    Truthful (link.step event).clock (link.step event) := by
  have hdrained := drain_induction (P := Truthful (link.clock + 1)) (fun _ _ _ h hwakes => h.turn hwakes)
    (link.act link.clock event).load (link.act link.clock event) (h.act event)
  exact { hdrained with }

end Truthful

end PixelPanel.Proofs
